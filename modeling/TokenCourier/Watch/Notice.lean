import TokenCourier.Api.Answer
import TokenCourier.Kube.ServiceAccount

namespace TokenCourier

open Json

/-- A part of a listing. `version` is the state that was listed, `more` the place where the listing
goes on. -/
structure Page where
  items : List ServiceAccount
  version : Option String
  more : Option String

namespace Page

def metadata? (v : Json) : Option (Option String × Option String) := do
  let ms ← v.members?
  guard (optional "selfLink" string? ms && optional "remainingItemCount" int64? ms)
  some (← last? "resourceVersion" string? ms, ← last? "continue" string? ms)

def decode? (v : Json) : Option Page := do
  let ms ← v.members?
  guard (ms.all fun m => m.1 == "metadata" || m.1 == "items" || (any? 1 m.2).isSome)
  match ← slots? ["metadata", "items"] 0 v with
  | [metadata, items] =>
    let (version, more) ← orElse? (none, none) metadata? metadata
    let items ← items.bind fun v => maybe? (list? ServiceAccount.decode?) (some v)
    some ⟨items.getD [], version.filter (· != ""), more.filter (· != "")⟩
  | _ => none

end Page

inductive Notice where
  | applied (sa : ServiceAccount)
  | deleted (sa : ServiceAccount)
  | bookmark (version : String)
  | failure (f : ApiFailure)

namespace Notice

def bookmarkMeta? (v : Json) : Option String := do
  match ← slots? ["resourceVersion", "annotations"] 1 v with
  | [version, annotations] =>
    let _ ← orElse? [] strings? annotations
    required? string? version
  | _ => none

def bookmark? (v : Json) : Option String := do
  let ms ← v.members?
  guard (ms.all fun m => m.1 == "metadata" || (any? 2 m.2).isSome)
  match ← slots? ["apiVersion", "kind", "metadata"] 0 v with
  | [version, kind, metadata] =>
    let _ ← [version, kind].mapM (orElse? "" string?)
    required? bookmarkMeta? metadata
  | _ => none

def types : List String := ["ADDED", "MODIFIED", "DELETED", "BOOKMARK", "ERROR"]

def object? (type : String) (v : Json) : Option Notice :=
  if type = "BOOKMARK" then (bookmark? v).map .bookmark
  else if type = "ERROR" then (ApiFailure.decode? v).map .failure
  else if type = "DELETED" then (ServiceAccount.decode? v).map .deleted
  else (ServiceAccount.decode? v).map .applied

def objectFirst (v : Json) : Bool :=
  match v with
  | .obj ms => ((ms.map (·.1)).find? fun n => n == "type" || n == "object") == some "object"
  | _ => false

def decode? (v : Json) : Option Notice := do
  match ← slots? ["type", "object"] 0 v with
  | [type, some v'] =>
    guard (!objectFirst v || (any? 1 v').isSome)
    object? (← type.bind (word? types)) v'
  | _ => none

def objectFits (type : Option String) (v : Json) : Bool :=
  match type with
  | none | some "BOOKMARK" | some "ERROR" => true
  | some _ => (ServiceAccount.decode? v).isSome

/-- The beginning of a line shows nothing that is wrong for a notice. -/
def mayBegin (v : Json) : Bool :=
  match v with
  | .arr _ => true
  | _ =>
    match slots? ["type", "object"] 0 v with
    | some [type, object] =>
      (!objectFirst v || object.all (any? 1 · |>.isSome))
        && (orElse? none (fun v => (word? types v).map some) type).any
          fun type => object.all (objectFits type)
    | _ => false

/-- What a line says, or why it cannot be read. A line that only breaks off says nothing, and
neither does an empty one. -/
def ofLine (line : String) : Option (Except ClientError Notice) :=
  match Json.read line with
  | .error .incomplete =>
    if (Json.beginning? line).all mayBegin then none else some (.error .undecodable)
  | .error .malformed => some (.error .undecodable)
  | .ok v =>
    match decode? v, ApiFailure.decode? v with
    | some n, _ => some (.ok n)
    | none, some f => some (.error (.api f))
    | none, none => some (.error .undecodable)

end Notice

end TokenCourier
