import TokenCourier.Connect.Cluster
import TokenCourier.Controller
import TokenCourier.Program.LogFilter
import TokenCourier.Program.Report
import TokenCourier.Sync.Token

namespace TokenCourier

/-- A step of the start: it says something, and may fail. -/
abbrev Starting := ExceptT Report (StateM (List Remark))

namespace Starting

variable {α : Type}

def remark (r : Remark) : Starting Unit := modify (· ++ [r])

def say (text : String) : Starting Unit := remark ⟨.program, ⟨.info, text⟩⟩

def fail (message : String) (causes : List String) : Starting α := throw ⟨message, causes⟩

def configuration (m : Machine) : Starting Config :=
  match Config.load m.lookup with
  | .ok c => pure c
  | .error e => fail e.message e.causes

def cluster (m : Machine) : Starting Connection := do
  match Cluster.connection m with
  | .error e => fail e.message e.causes
  | .ok c =>
    match c.check m with
    | .ok () => pure c
    | .error e => fail e.message e.causes

def hub (m : Machine) (c : Config) : Starting Connection := do
  match c.hubKubeconfig with
  | none => fail ConfigError.noHubKubeconfig.message []
  | some path =>
    match Hub.load m path with
    | .ok c => pure c
    | .error e => fail e.message []

structure Setting where
  config : Config
  cluster : Connection
  hub : Option Connection

/-- Without a hub there is nothing further to do. -/
def setting (m : Machine) : Starting Setting := do
  say "Starting agent token sync"
  let config ← configuration m
  say s!"Configuration loaded: cluster={config.cluster}, standalone={config.standalone}"
  let cluster ← cluster m
  say "Connected to Kubernetes cluster"
  if config.standalone then
    say "Standalone mode, nothing to sync to a hub"
    return ⟨config, cluster, none⟩
  return ⟨config, cluster, some (← hub m config)⟩

def controller (m : Machine) (s : Setting) (probed : List LogLine) : Starting (Option Controller) :=
  match s.hub with
  | none => pure none
  | some hub => do
    probed.forM fun l => remark ⟨.probe, l⟩
    let (remarks, made) := Controller.add m hub s.config.cluster s.config.standalone
    remarks.forM remark
    match made with
    | .error e => fail e.message []
    | .ok none => pure none
    | .ok (some c) =>
      say "Starting agent token controller..."
      return some ((c.watching s.config.watched).resyncEvery s.config.resyncSeconds)

def variableNames : List String :=
  ["STANDALONE", "CLUSTER_NAME", "CLUSTER_NAMESPACE", "HUB_KUBECONFIG", "RESYNC_INTERVAL_SECS",
    "WATCH_SERVICE_ACCOUNT_NAME", "WATCH_SERVICE_ACCOUNT_NAMESPACE", "KUBECONFIG", "HOME",
    "KUBERNETES_SERVICE_HOST", "KUBERNETES_SERVICE_PORT", LogFilter.source]
  ++ Connection.proxyVariables

/-- The files that tell how to start, with those that they name in turn. -/
def paths (m : Machine) : List String :=
  let own := Cluster.kubeconfigPaths m
  let hub := (m.lookup "HUB_KUBECONFIG").toList
  let named (k : Option Kubeconfig) : List String := (k.map Kubeconfig.named).getD []
  own ++ hub ++ [Cluster.namespaceFile, Cluster.certificateFile, Cluster.tokenFile]
    ++ own.flatMap (fun p => named (Kubeconfig.ofFile m.files p).toOption)
    ++ hub.flatMap fun p => named ((m.files.text p).toOption.bind Kubeconfig.parse?)

def outcome (x : Starting α) : Except Report α × List Remark := x.run.run []

end Starting

def stopping : Remark := ⟨.program, .info, "Received shutdown signal, stopping"⟩

end TokenCourier
