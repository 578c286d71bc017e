import TokenCourier.Api.Discovery
import TokenCourier.Api.Exchange
import TokenCourier.Kube.Infrastructure
import TokenCourier.Kube.Secret
import TokenCourier.Kube.ServiceAccount
import TokenCourier.Sync.Error

namespace TokenCourier

/-- The service account whose token is published, whichever service account is watched. -/
def tokenAccount : ObjectKey := ⟨"application-manager", "open-cluster-management-agent-addon"⟩

/-- How the secret that carries the token is named. -/
def dockercfgStem : String := "application-manager-dockercfg"

def tokenName : String := "openshift.io/token-secret.name"

def tokenValue : String := "openshift.io/token-secret.value"

inductive TokenCause where
  | serviceAccount (e : ClientError)
  | noSecret
  | secret (name : String) (e : ClientError)
  | noValue (name : String)
deriving DecidableEq

def TokenCause.message : TokenCause → String
  | .serviceAccount e =>
    "failed to get service account " ++ toString tokenAccount ++ ": " ++ e.message
  | .noSecret =>
    "service account " ++ toString tokenAccount ++ " has no " ++ dockercfgStem ++ " secret"
  | .secret name e =>
    "failed to get secret " ++ tokenAccount.ns ++ "/" ++ name ++ ": " ++ e.message
  | .noValue name =>
    "secret " ++ tokenAccount.ns ++ "/" ++ name ++ " has no " ++ tokenValue ++ " annotation"

/-- The first linked secret that is named like one with a token; a link may lack a name. -/
def ServiceAccount.dockercfg? (sa : ServiceAccount) : Option String :=
  (sa.secrets.filterMap id).find? fun n => dockercfgStem.toList.isPrefixOf n.toList

/-- An empty token is none. -/
def Secret.token? (s : Secret) : Option String := (s.annotation? tokenValue).filter (· != "")

namespace Exchange

def getServiceAccount (s : Server) (key : ObjectKey) :
    Exchange (Except ClientError ServiceAccount) :=
  call s (Request.get (serviceAccountsOf key.ns) key.name) (·.object ServiceAccount.decode?)

def getSecret (s : Server) (key : ObjectKey) : Exchange (Except ClientError Secret) :=
  call s (Request.get (secretsOf key.ns) key.name) (·.object Secret.decode?)

def token : Exchange (Except TokenCause String) := do
  match ← getServiceAccount .cluster tokenAccount with
  | .error e => return .error (.serviceAccount e)
  | .ok sa =>
    match sa.dockercfg? with
    | none => return .error .noSecret
    | some name =>
      info ("Found the dockercfg secret " ++ name)
      match ← getSecret .cluster ⟨name, tokenAccount.ns⟩ with
      | .error e => return .error (.secret name e)
      | .ok secret =>
        if let some n := secret.annotation? tokenName then
          info ("Found the token secret " ++ n)
        match secret.token? with
        | some t => return .ok t
        | none => return .error (.noValue name)

def serverAddress : Exchange (Except ClientError String) := do
  match ← call .cluster (Request.get (Infrastructure.collectionPath none) "cluster")
      (·.object Infrastructure.decode?) with
  | .error e => return .error e
  | .ok i => return .ok (i.apiServerURL?.getD "")

end Exchange

def serverAddressFailure (e : ClientError) : SyncError :=
  .serverAddress ("failed to get infrastructure cluster: " ++ e.message)

def ServedResource.isInfrastructure (r : ServedResource) : Bool :=
  r.kind == Infrastructure.kind && r.version == Infrastructure.version

namespace Exchange

def infrastructureServed : Exchange (Except SyncError Bool) := do
  match ← discover Infrastructure.group with
  | .error e => return .error (.client e)
  | .ok rs => return .ok (rs.any (·.isInfrastructure))

def checkInfrastructure : Exchange Unit := do
  match ← infrastructureServed with
  | .ok true => info s!"Infrastructure API ({Infrastructure.apiVersion}) is available"
  | .ok false =>
    warn (s!"Infrastructure API ({Infrastructure.apiVersion}) not found, "
      ++ "the synced server address will be empty")
  | .error e => warn ("Error checking for Infrastructure API: " ++ e.message)

end Exchange

end TokenCourier
