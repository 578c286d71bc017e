import TokenCourier.Api.Answer
import TokenCourier.Kube.Secret

namespace TokenCourier

open Json

namespace Deletion

def cause? (v : Json) : Option Unit := do
  let slots ← slots? ["reason", "message", "field"] 3 v
  let _ ← slots.mapM (orElse? "" string?)

def details? (v : Json) : Option Unit := do
  match ← slots? ["name", "group", "kind", "uid", "causes", "retryAfterSeconds"] 6 v with
  | [name, group, kind, uid, causes, retry] =>
    let _ ← [name, group, kind, uid].mapM (orElse? "" string?)
    let _ ← orElse? [] (list? cause?) causes
    let _ ← orElse? 0 (within? 0 4294967295) retry
  | _ => none

def status? (v : Json) : Option Unit := do
  match ← slots? ["status", "code", "message", "reason", "details"] 4 v with
  | [status, code, message, reason, details] =>
    let _ ← maybe? (word? ["Success", "Failure"]) status
    let _ ← orElse? 0 uint16? code
    let _ ← [message, reason].mapM (orElse? "" string?)
    let _ ← maybe? details? details
  | _ => none

def result? (v : Json) : Option Unit := do
  let v ← any? 0 v
  if (v.get? "kind").bind string? = some "Status" then status? v
  else
    let _ ← Secret.decode? v

end Deletion

def Answer.deleted (a : Answer) : Except ClientError Unit := a.object Deletion.result?

end TokenCourier
