import TokenCourier.Api.Answer
import TokenCourier.Json.Printer
import TokenCourier.Kube.Infrastructure

namespace TokenCourier

namespace Json

def set (v : Json) (name : String) (x : Json) : Json :=
  match v with
  | .obj ms =>
    .obj <|
      if ms.any (·.1 == name) then ms.map fun m => if m.1 = name then (name, x) else m
      else ms ++ [(name, x)]
  | v => v

def field? (outer inner : String) (v : Json) : Option String :=
  ((v.get? outer).bind (·.get? inner)).bind string?

def version? : Json → Option String := field? "metadata" "resourceVersion"

def name? : Json → Option String := field? "metadata" "name"

def stamped (version : String) (v : Json) : Json :=
  v.set "metadata" (((v.get? "metadata").getD (.obj [])).set "resourceVersion" (.str version))

end Json

inductive Collection where
  | secrets (ns : String)
  | serviceAccounts (ns : String)
  | infrastructures
deriving DecidableEq

structure Address where
  collection : Collection
  name : String
deriving DecidableEq

def segments (path : String) : List String := (path.toList.splitOn '/').map String.ofList

def Collection.ofSegments? : List String → Option Collection
  | ["", "api", "v1", "namespaces", ns, "secrets"] => some (.secrets ns)
  | ["", "api", "v1", "namespaces", ns, "serviceaccounts"] => some (.serviceAccounts ns)
  | ["", "apis", "config.openshift.io", "v1", "infrastructures"] => some .infrastructures
  | _ => none

def Collection.ofPath? (path : String) : Option Collection := ofSegments? (segments path)

def Address.ofPath? (path : String) : Option Address :=
  match (segments path).reverse with
  | name :: rest => (Collection.ofSegments? rest.reverse).map (⟨·, name⟩)
  | [] => none

/-- `revision` is the version that the next write gives. -/
structure Store where
  objects : Address → Option String
  revision : Nat

namespace Store

def reply (status : Nat) (v : Json) : Answer := .ok ⟨status, v.compact.toUTF8⟩

def failure (code : Nat) (reason message : String) : Json :=
  .obj [("kind", .str "Status"), ("apiVersion", .str "v1"), ("metadata", .obj []),
    ("status", .str "Failure"), ("message", .str message), ("reason", .str reason),
    ("code", .int code)]

def success : Json :=
  .obj [("kind", .str "Status"), ("apiVersion", .str "v1"), ("metadata", .obj []),
    ("status", .str "Success")]

def refusal (code : Nat) (reason message : String) : Answer :=
  reply code (failure code reason message)

def notFound (name : String) : Answer :=
  refusal 404 "NotFound" (Quoted.quoted name ++ " not found")

def noResource : Answer :=
  refusal 404 "NotFound" "the server could not find the requested resource"

def conflict (name : String) : Answer :=
  refusal 409 "Conflict" (Quoted.quoted name ++ ": the object has been modified")

def alreadyExists (name : String) : Answer :=
  refusal 409 "AlreadyExists" (Quoted.quoted name ++ " already exists")

def malformed : Answer := refusal 400 "BadRequest" "the object provided is not valid"

def put (st : Store) (a : Address) (text : Option String) : Store where
  objects b := if b = a then text else st.objects b
  revision := st.revision + 1

/-- Every write gives its object a version of its own. -/
def write (st : Store) (status : Nat) (a : Address) (v : Json) : Answer × Store :=
  let v := v.stamped (toString st.revision)
  (reply status v, st.put a v.compact)

def read (st : Store) (a : Address) : Answer :=
  match st.objects a with
  | some text => .ok ⟨200, text.toUTF8⟩
  | none => notFound a.name

def create (st : Store) (c : Collection) (body : String) : Answer × Store :=
  match (Json.read? body).bind fun v => v.name?.map (v, ·) with
  | none => (malformed, st)
  | some (v, name) =>
    match st.objects ⟨c, name⟩ with
    | some _ => (alreadyExists name, st)
    | none => st.write 201 ⟨c, name⟩ v

/-- A write that names the version it is for is refused once there is another. -/
def replace (st : Store) (a : Address) (body : String) : Answer × Store :=
  match Json.read? body, st.objects a with
  | none, _ => (malformed, st)
  | some _, none => (notFound a.name, st)
  | some v, some text =>
    if v.name? ≠ some a.name then (malformed, st)
    else if v.version? ≠ none ∧ v.version? ≠ (Json.read? text).bind Json.version? then
      (conflict a.name, st)
    else st.write 200 a v

def delete (st : Store) (a : Address) : Answer × Store :=
  match st.objects a with
  | some _ => (reply 200 success, st.put a none)
  | none => (notFound a.name, st)

def serve (st : Store) (r : Request) : Answer × Store :=
  match r.method, Address.ofPath? r.path, Collection.ofPath? r.path with
  | .get, some a, _ => (st.read a, st)
  | .put, some a, _ => st.replace a r.body
  | .delete, some a, _ => st.delete a
  | .post, _, some c => st.create c r.body
  | _, _, _ => (noResource, st)

end Store

/-- The answer is an error, and does not say that something is absent. -/
def Answer.Refuses (a : Answer) : Prop :=
  ∃ e, a.text = .error e ∧ e.isNotFound = false ∧ e.saysNotFound = false

end TokenCourier
