import TokenCourier.Api.Deletion
import TokenCourier.Sync.ClusterSecret
import TokenCourier.Sync.Token

namespace TokenCourier

inductive Outcome where
  | deleted | created | updated
deriving DecidableEq, Repr

def Outcome.word : Outcome → String
  | .deleted => "Deleted"
  | .created => "Created"
  | .updated => "Updated"

namespace Exchange

variable (cluster : ObjectKey)

def deleteClusterSecret : Exchange (Except SyncError Outcome) := do
  let key := cluster.clusterSecret
  match ← call .hub (Request.delete (secretsOf key.ns) key.name) Answer.deleted with
  | .ok () =>
    info s!"Deleted secret {key} from the hub"
    return .ok .deleted
  | .error e =>
    if e.isNotFound then
      info s!"Secret {key} already absent from the hub"
      return .ok .deleted
    else return .error (.write .delete (toString key) e)

def createClusterSecret (secret : Secret) : Exchange (Except SyncError Outcome) := do
  let key := cluster.clusterSecret
  info s!"Secret {key} not found on the hub"
  match ← call .hub (Request.create (secretsOf key.ns) secret.toJson.compact)
      (·.object Secret.decode?) with
  | .ok _ =>
    info s!"The cluster secret {key} was created on the hub successfully"
    return .ok .created
  | .error e => return .error (.write .create (toString key) e)

/-- The version read goes with the write, so the hub refuses it if someone wrote in between. -/
def replaceClusterSecret (current secret : Secret) : Exchange (Except SyncError Outcome) := do
  let key := cluster.clusterSecret
  let secret : Secret :=
    { secret with
      metadata := { secret.metadata with resourceVersion := current.metadata.resourceVersion } }
  match ← call .hub (Request.replace (secretsOf key.ns) key.name secret.toJson.compact)
      (·.object Secret.decode?) with
  | .ok _ =>
    info s!"The cluster secret {key} was updated on the hub successfully"
    return .ok .updated
  | .error e => return .error (.write .update (toString key) e)

def applyClusterSecret (secret : Secret) : Exchange (Except SyncError Outcome) := do
  match absentAsNone (← getSecret .hub cluster.clusterSecret) with
  | .error e => return .error (.client e)
  | .ok none => createClusterSecret cluster secret
  | .ok (some current) => replaceClusterSecret cluster current secret

def logAll : List LogLine → Exchange Unit
  | [] => pure ()
  | l :: ls => .log l (logAll ls)

/-- The token must be found; an address that is not found is published empty. -/
def publish : Exchange (Except SyncError Outcome) := do
  match ← token with
  | .error c => return .error (.tokenNotFound c.message)
  | .ok t =>
    let server ← do
      match ← serverAddress with
      | .ok a => pure a
      | .error e =>
        error (serverAddressFailure e).message
        pure ""
    let (lines, secret) := ClusterSecret.build cluster t server
    logAll lines
    applyClusterSecret cluster secret

/-- Reconciles after a change to the service account `key`. -/
def reconcile (key : ObjectKey) : Exchange (Except SyncError Outcome) := do
  info s!"Reconciling {key}"
  match absentAsNone (← getServiceAccount .cluster key) with
  | .error e => return .error (.client e)
  | .ok none =>
    info s!"{key} is not found. Deleting the secret from the hub."
    deleteClusterSecret cluster
  | .ok (some _) => publish cluster

end Exchange

def retryAfter : Nat := 300

def SyncError.report (e : SyncError) : LogLine := ⟨.error, "Reconciliation error: " ++ e.message⟩

end TokenCourier
