import TokenCourier.Api.Answer

namespace TokenCourier

inductive Write where
  | create | update | delete
deriving DecidableEq, Repr

def Write.word : Write → String
  | .create => "create"
  | .update => "update"
  | .delete => "delete"

inductive SyncError where
  | client (e : ClientError)
  | hubConfig (text : String)
  | tokenNotFound (text : String)
  | serverAddress (text : String)
  | write (action : Write) (name : String) (e : ClientError)
  | serialization (text : String)
deriving DecidableEq

namespace SyncError

def message : SyncError → String
  | .client e => "Kubernetes API error: " ++ e.message
  | .hubConfig t => "Failed to build hub client: " ++ t
  | .tokenNotFound t => "Service account token not found: " ++ t
  | .serverAddress t => "Failed to resolve API server address: " ++ t
  | .write action name e =>
    "Failed to " ++ action.word ++ " secret " ++ name ++ " on the hub: " ++ e.message
  | .serialization t => "Failed to serialize cluster config: " ++ t

def source? : SyncError → Option String
  | .client e | .write _ _ e => some e.message
  | .serialization t => some t
  | _ => none

end SyncError

end TokenCourier
