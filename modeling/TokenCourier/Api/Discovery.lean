import TokenCourier.Api.Exchange
import TokenCourier.Kube.Meta
import TokenCourier.Kube.Version

namespace TokenCourier

open Json

structure ServedVersion where
  name : String
  path : String
deriving DecidableEq

structure ServedGroup where
  name : String
  versions : List ServedVersion
  preferred : Option ServedVersion

structure ServedResource where
  name : String
  kind : String
  version : String
deriving DecidableEq

namespace ServedGroup

def version? (v : Json) : Option ServedVersion := do
  let ms ← v.members?
  some ⟨(← last? "version" string? ms).getD "", (← last? "groupVersion" string? ms).getD ""⟩

def address? (v : Json) : Option Unit := do
  let ms ← v.members?
  guard <| ["clientCIDR", "serverAddress"].all fun n => optional n string? ms

def decode? (v : Json) : Option ServedGroup := do
  let ms ← v.members?
  guard (ofType "APIGroup" ms && optional "serverAddressByClientCIDRs" (list? address?) ms)
  some {
    name := (← last? "name" string? ms).getD ""
    versions := (← last? "versions" (list? version?) ms).getD []
    preferred := ← last? "preferredVersion" version? ms }

def decodeAll? (v : Json) : Option (List ServedGroup) := do
  let ms ← v.members?
  guard (ofType "APIGroupList" ms)
  some ((← last? "groups" (list? decode?) ms).getD [])

/-- The version to use: the preferred one, even if it is not served, or else the latest. -/
def recommended (g : ServedGroup) (first : ServedVersion) : String :=
  g.preferred.elim (Version.latest first.name (g.versions.map (·.name))) (·.name)

end ServedGroup

namespace ServedResource

def versionOf (groupVersion : String) : String :=
  match groupVersion.toList.dropWhile (· != '/') with
  | [] => groupVersion
  | _ :: cs => String.ofList cs

def decode? (v : Json) : Option (String × String × Option String) := do
  let ms ← v.members?
  guard <| ["group", "singularName", "storageVersionHash"].all fun n => optional n string? ms
  guard <| ["categories", "shortNames", "verbs"].all fun n => optional n (list? string?) ms
  guard (optional "namespaced" bool? ms)
  some ((← last? "name" string? ms).getD "", (← last? "kind" string? ms).getD "",
    ← last? "version" string? ms)

def decodeAll? (v : Json) : Option (List ServedResource) := do
  let ms ← v.members?
  guard (ofType "APIResourceList" ms)
  let version := versionOf ((← last? "groupVersion" string? ms).getD "")
  let found := (← last? "resources" (list? decode?) ms).getD []
  some <| (found.filter fun (name, _) => !name.toList.contains '/').map fun (name, kind, own) =>
    ⟨name, kind, own.getD version⟩

end ServedResource

namespace Exchange

variable {α : Type}

def fetch (path : String) (read : Json → Option α) : Exchange (Except ClientError α) :=
  match Request.build .get path "" with
  | .error f => .done (.error (.http f.cause))
  | .ok r => .ask .cluster r fun a => .done (a.object read)

def resourcesOf : List ServedVersion →
    Exchange (Except ClientError (List (String × List ServedResource)))
  | [] => return .ok []
  | v :: vs => do
    match ← fetch ("/apis/" ++ v.path) ServedResource.decodeAll? with
    | .error e => return .error e
    | .ok rs =>
      match ← resourcesOf vs with
      | .error e => return .error e
      | .ok rest => return .ok ((v.name, rs) :: rest)

/-- The resources of the recommended version. All versions are asked for. -/
def recommendedResources (g : ServedGroup) : Exchange (Except ClientError (List ServedResource)) :=
  match g.versions with
  | [] => return .error (.emptyGroup g.name)
  | v :: _ => do
    match ← resourcesOf g.versions with
    | .error e => return .error e
    | .ok rs => return .ok (((rs.find? (·.1 == g.recommended v)).map (·.2)).getD [])

/-- Goes through the groups of one name; the last one counts. -/
def lastRecommended : List ServedGroup → List ServedResource →
    Exchange (Except ClientError (List ServedResource))
  | [], rs => return .ok rs
  | g :: gs, _ => do
    match ← recommendedResources g with
    | .error e => return .error e
    | .ok rs => lastRecommended gs rs

def discover (group : String) : Exchange (Except ClientError (List ServedResource)) := do
  match ← fetch "/apis" ServedGroup.decodeAll? with
  | .error e => return .error e
  | .ok gs => lastRecommended (gs.filter (·.name == group)) []

end Exchange

end TokenCourier
