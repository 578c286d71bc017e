import TokenCourier.Api.Uri
import TokenCourier.Kube.Kubeconfig
import TokenCourier.Machine
import TokenCourier.Text.Pem

namespace TokenCourier

inductive LoadFault where
  | data (f : Base64.Fault)
  | file (path : String) (f : FileFault)
  | absent
deriving DecidableEq

namespace LoadFault

def message : LoadFault → String
  | .data f => "failed to decode base64 data: " ++ f.message
  | .file path f => "failed to read file '" ++ Quoted.quoted path ++ "': " ++ f.message
  | .absent => "no base64 data or file"

def causes : LoadFault → List String
  | .data f => [f.message]
  | .file _ f => [f.message]
  | .absent => []

end LoadFault

inductive ConnectionFault where
  | noCurrentContext
  | noContext (name : String)
  | noCluster (name : String)
  | noUrl
  | url (f : UriFault)
  | proxy (f : UriFault)
  | authority (f : LoadFault)
  | certificates (f : PemFault)
deriving DecidableEq

namespace ConnectionFault

def message : ConnectionFault → String
  | .noCurrentContext => "failed to determine current context"
  | .noContext n => "failed to load current context: " ++ n
  | .noCluster n => "failed to load the cluster of context: " ++ n
  | .noUrl => "cluster url is missing on selected cluster"
  | .url f => "failed to parse cluster url: " ++ f.message
  | .proxy f => "failed to parse proxy url: " ++ f.message
  | .authority _ => "failed to load certificate authority"
  | .certificates f => "failed to parse PEM-encoded certificates: " ++ f.message

def causes : ConnectionFault → List String
  | .url f | .proxy f => [f.message]
  | .authority f => f.message :: f.causes
  | .certificates f => f.message :: f.causes
  | _ => []

end ConnectionFault

/-- `rootCertificates` holds those that the server's has to come from; `none` stands for the ones
that the system trusts. -/
structure Connection where
  url : Uri
  defaultNamespace : String
  rootCertificates : Option (List (List UInt8))
  acceptInvalidCertificates : Bool
  disableCompression : Bool
  proxy : Option Uri
  tlsServerName : Option String
  user : KubeUser
deriving Inhabited

namespace Connection

def connectTimeoutSeconds : Nat := 30

/-- A watch is ended by the server before this. -/
def readTimeoutSeconds : Nat := 295

def writeTimeoutSeconds : Nat := 295

/-- Data given in base64, or else the content of a file. -/
def load (files : Files) (data path : Option String) : Except LoadFault (List UInt8) :=
  match data, path with
  | some d, _ =>
    match Base64.decode d with
    | .ok bs => .ok bs.toList
    | .error f => .error (.data f)
  | none, some p =>
    match files p with
    | .ok bs => .ok bs
    | .error f => .error (.file p f)
  | none, none => .error .absent

def endLine (bs : List UInt8) : List UInt8 := if bs.getLast? == some 10 then bs else bs ++ [10]

def authority (files : Files) (c : KubeCluster) : Except ConnectionFault (Option (List UInt8)) :=
  match c.certificateAuthorityData, c.certificateAuthority with
  | none, none => .ok none
  | data, path =>
    match load files data path with
    | .ok bs => .ok (some (endLine bs))
    | .error f => .error (.authority f)

def address (s : String) : Except ConnectionFault Uri :=
  match Uri.parse s with
  | .ok u => .ok u
  | .error f => .error (.url f)

def proxyVariables : List String := ["HTTP_PROXY", "http_proxy", "HTTPS_PROXY", "https_proxy"]

/-- The proxy that is named, or else the one that the machine names for all. -/
def proxyOf (m : Machine) (s : Option String) : Except ConnectionFault (Option Uri) :=
  match s.filter (· != "") <|> m.first? proxyVariables with
  | none => .ok none
  | some s =>
    match Uri.parse s with
    | .ok u => .ok (some u)
    | .error f => .error (.proxy f)

/-- The connection of the current context. A user that is missing is one without credentials. -/
def ofKubeconfig (m : Machine) (k : Kubeconfig) : Except ConnectionFault Connection := do
  let name ← k.current.elim (throw .noCurrentContext) pure
  let context ← (Kubeconfig.find? name k.contexts).elim (throw (.noContext name)) pure
  let cluster ←
    (Kubeconfig.find? context.cluster k.clusters).elim (throw (.noCluster context.cluster)) pure
  let user := (context.user.bind fun u => Kubeconfig.find? u k.users).getD {}
  if user.exec.any (·.provideClusterInfo) then
    let _ ← authority m.files cluster
  let url ← cluster.server.elim (throw .noUrl) address
  let roots ←
    match ← authority m.files cluster with
    | none => pure none
    | some bs =>
      match Pem.contents "CERTIFICATE" bs with
      | .ok cs => pure (some cs)
      | .error f => throw (.certificates f)
  return {
    url
    defaultNamespace := context.ns.getD "default"
    rootCertificates := roots
    acceptInvalidCertificates := cluster.insecureSkipTlsVerify.getD false
    disableCompression := cluster.disableCompression.getD false
    proxy := ← proxyOf m cluster.proxyUrl
    tlsServerName := cluster.tlsServerName
    user }

end Connection

end TokenCourier
