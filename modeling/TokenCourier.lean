import TokenCourier.Agent
import TokenCourier.Api.Answer
import TokenCourier.Api.Deletion
import TokenCourier.Api.Discovery
import TokenCourier.Api.Exchange
import TokenCourier.Api.Request
import TokenCourier.Api.Uri
import TokenCourier.Config
import TokenCourier.Connect.Client
import TokenCourier.Connect.Cluster
import TokenCourier.Connect.Connection
import TokenCourier.Connect.Hub
import TokenCourier.Controller
import TokenCourier.Http.Message
import TokenCourier.Json.Basic
import TokenCourier.Json.Decode
import TokenCourier.Json.Printer
import TokenCourier.Json.Reader
import TokenCourier.Kube.Infrastructure
import TokenCourier.Kube.Kubeconfig
import TokenCourier.Kube.KubeconfigFiles
import TokenCourier.Kube.Meta
import TokenCourier.Kube.Secret
import TokenCourier.Kube.ServiceAccount
import TokenCourier.Kube.Timestamp
import TokenCourier.Kube.Version
import TokenCourier.Machine
import TokenCourier.Main
import TokenCourier.Program.LogFilter
import TokenCourier.Program.Report
import TokenCourier.Program.Start
import TokenCourier.Proofs.Json.Readback
import TokenCourier.Rehearsal.Script
import TokenCourier.Rehearsal.World
import TokenCourier.Sync.ClusterSecret
import TokenCourier.Sync.Error
import TokenCourier.Sync.Event
import TokenCourier.Sync.Manager
import TokenCourier.Sync.Token
import TokenCourier.Sync.Reconcile
import TokenCourier.Text.Base64
import TokenCourier.Text.Utf8
import TokenCourier.Text.CharSet
import TokenCourier.Text.Decimal
import TokenCourier.Text.Der
import TokenCourier.Text.Pem
import TokenCourier.Text.Quoted
import TokenCourier.Unicode.Composed
import TokenCourier.Unicode.Composites
import TokenCourier.Unicode.Direction
import TokenCourier.Unicode.HostMap
import TokenCourier.Unicode.Joining
import TokenCourier.Url.Address
import TokenCourier.Url.Domain
import TokenCourier.Url.Host
import TokenCourier.Url.Punycode
import TokenCourier.Watch.Cycle
import TokenCourier.Watch.Follower
import TokenCourier.Watch.Inflow
import TokenCourier.Watch.Notice
import TokenCourier.Watch.Watcher
import TokenCourier.Yaml.Decode
import TokenCourier.Yaml.Lexer
import TokenCourier.Yaml.Node
import TokenCourier.Yaml.Plain
import TokenCourier.Yaml.Scalar
import TokenCourier.Yaml.Settle
import TokenCourier.Yaml.Token
import TokenCourier.Proofs.Manager.Run
import TokenCourier.Proofs.Manager.Retry
import TokenCourier.Proofs.Manager.Superseded
import TokenCourier.Proofs.Api.Ensures
import TokenCourier.Proofs.Api.Named
import TokenCourier.Proofs.Kube.Written
import TokenCourier.Proofs.Manager.Quiescence
import TokenCourier.Proofs.Api.Dialogue
import TokenCourier.Proofs.Sync.Course
import TokenCourier.Proofs.Sync.Discipline
import TokenCourier.Proofs.Sync.Absence
import TokenCourier.Proofs.Store.Shared
import TokenCourier.Proofs.Sync.Exclusive
import TokenCourier.Proofs.Manager.RunLog
import TokenCourier.Proofs.Manager.Order
import TokenCourier.Proofs.Json.Indented
import TokenCourier.Proofs.Kube.Redacted
import TokenCourier.Proofs.Manager.Similar
import TokenCourier.Proofs.Sync.Secrecy
import TokenCourier.Proofs.Sync.Address
import TokenCourier.Proofs.Sync.Labels
import TokenCourier.Proofs.Config
import TokenCourier.Proofs.Manager.Pace
import TokenCourier.Proofs.Manager.Lifetime
import TokenCourier.Proofs.Manager.Keys
import TokenCourier.Proofs.Watch.Relays
import TokenCourier.Proofs.Watch.Forwarding
import TokenCourier.Proofs.Sync.Apart
import TokenCourier.Proofs.Api.Replies
import TokenCourier.Proofs.Store.Rewrites
import TokenCourier.Proofs.Watch.Selection
import TokenCourier.Proofs.Sync.Availability
import TokenCourier.Proofs.Sync.Bearer
import TokenCourier.Proofs.Sync.Plan
import TokenCourier.Proofs.Sync.Overwrite
import TokenCourier.Proofs.Sync.Trigger
import TokenCourier.Proofs.Text.Parts
import TokenCourier.Proofs.Text.Decimal
import TokenCourier.Proofs.Unicode.Ascii
import TokenCourier.Proofs.Url.HostName
import TokenCourier.Proofs.Url.WebAddress
import TokenCourier.Proofs.Sync.Sanitized
import TokenCourier.Proofs.Sync.ServerLabel
import TokenCourier.Proofs.Sync.ClusterConfig
import TokenCourier.Proofs.Environment
