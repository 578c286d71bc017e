import TokenCourier.Kube.Meta
import TokenCourier.Text.Decimal

namespace TokenCourier

structure Config where
  cluster : ObjectKey
  hubKubeconfig : Option String
  standalone : Bool
  watched : ObjectKey
  resyncSeconds : Nat
deriving DecidableEq, Inhabited

inductive ConfigError where
  | standalone (value : String)
  | noName
  | noHubKubeconfig
  | resync (value : String) (f : NumberFault)
  | resyncZero
deriving DecidableEq, Repr

namespace ConfigError

def message : ConfigError → String
  | .standalone v => "STANDALONE must be true or false, got '" ++ v ++ "'"
  | .noName => "CLUSTER_NAME environment variable not set"
  | .noHubKubeconfig => "HUB_KUBECONFIG environment variable not set"
  | .resync v _ => "RESYNC_INTERVAL_SECS must be a number, got '" ++ v ++ "'"
  | .resyncZero => "RESYNC_INTERVAL_SECS must be greater than zero"

def causes : ConfigError → List String
  | .standalone _ => ["provided string was not \x60true\x60 or \x60false\x60"]
  | .resync _ f => [f.message]
  | _ => []

end ConfigError

namespace Config

def defaultWatched : ObjectKey := ⟨"klusterlet-addon-appmgr", "open-cluster-management-agent-addon"⟩

def defaultResync : Nat := 36000

def maxSeconds : Nat := Nat.pow 2 64 - 1

def flag? (s : String) : Option Bool :=
  if s = "true" then some true else if s = "false" then some false else none

def load (lookup : String → Option String) : Except ConfigError Config := do
  let standalone ←
    match lookup "STANDALONE" with
    | none => pure false
    | some v =>
      match flag? v with
      | some b => pure b
      | none => throw (.standalone v)
  let name ← (lookup "CLUSTER_NAME").elim (throw .noName) pure
  let hub := lookup "HUB_KUBECONFIG"
  if hub = none ∧ !standalone then throw .noHubKubeconfig
  let resync ←
    match lookup "RESYNC_INTERVAL_SECS" with
    | none => pure defaultResync
    | some v =>
      match Decimal.read maxSeconds v with
      | .ok n => pure n
      | .error f => throw (.resync v f)
  if resync = 0 then throw .resyncZero
  return {
    cluster := ⟨name, (lookup "CLUSTER_NAMESPACE").getD name⟩
    hubKubeconfig := hub
    standalone
    watched := ⟨(lookup "WATCH_SERVICE_ACCOUNT_NAME").getD defaultWatched.name,
      (lookup "WATCH_SERVICE_ACCOUNT_NAMESPACE").getD defaultWatched.ns⟩
    resyncSeconds := resync }

end Config

end TokenCourier
