import TokenCourier.Api.Exchange
import TokenCourier.Connect.Client
import TokenCourier.Sync.Error

namespace TokenCourier.Hub

/-- The connection that a kubeconfig text describes. What a parser says of a text that is none is
left out. -/
def connection (m : Machine) (text : String) : Except SyncError Connection :=
  match Kubeconfig.parse? text with
  | none => .error (.hubConfig "Failed to parse kubeconfig")
  | some k =>
    match Connection.ofKubeconfig m k with
    | .ok c => .ok c
    | .error f => .error (.hubConfig ("Failed to create config: " ++ f.message))

def loading (path : String) : LogLine := ⟨.info, "Loading hub kubeconfig from " ++ path⟩

def load (m : Machine) (path : String) : Except SyncError Connection :=
  match m.files.text path with
  | .ok text => connection m text
  | .error f =>
    .error (.hubConfig ("Failed to read hub kubeconfig " ++ path ++ ": " ++ f.message))

def created (c : Connection) : LogLine := ⟨.info, s!"Created hub client for {c.url}"⟩

def client (m : Machine) (c : Connection) : Except SyncError Unit :=
  match c.check m with
  | .ok () => .ok ()
  | .error f => .error (.hubConfig ("Failed to create client: " ++ f.message))

end TokenCourier.Hub
