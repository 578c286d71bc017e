import TokenCourier.Json.Decode
import TokenCourier.Kube.Timestamp
import TokenCourier.Text.Quoted

namespace TokenCourier

structure ObjectMeta where
  name : Option String := none
  generateName : Option String := none
  ns : Option String := none
  resourceVersion : Option String := none
  labels : Option (List (String × String)) := none
  annotations : Option (List (String × String)) := none
deriving DecidableEq, Inhabited

open Json

def timestamp? (v : Json) : Option String :=
  v.string?.bind fun s => if Timestamp.valid s then some s else none

def strings? (v : Json) : Option (List (String × String)) := map? string? v

namespace ObjectMeta

def managedFields? (v : Json) : Option Unit := do
  let ms ← v.members?
  guard <| ["apiVersion", "fieldsType", "manager", "operation", "subresource"].all
    fun n => optional n string? ms
  guard (optional "fieldsV1" (any? 4) ms && optional "time" timestamp? ms)

def owner? (v : Json) : Option Unit := do
  let ms ← v.members?
  guard <| ["apiVersion", "kind", "name", "uid"].all fun n => optional n string? ms
  guard <| ["blockOwnerDeletion", "controller"].all fun n => optional n bool? ms

def decode? (v : Json) : Option ObjectMeta := do
  let ms ← v.members?
  guard <| ["selfLink", "uid"].all fun n => optional n string? ms
  guard <| ["creationTimestamp", "deletionTimestamp"].all fun n => optional n timestamp? ms
  guard <| ["deletionGracePeriodSeconds", "generation"].all fun n => optional n int64? ms
  guard (optional "finalizers" (list? string?) ms)
  guard (optional "managedFields" (list? managedFields?) ms)
  guard (optional "ownerReferences" (list? owner?) ms)
  some {
    name := ← last? "name" string? ms
    generateName := ← last? "generateName" string? ms
    ns := ← last? "namespace" string? ms
    resourceVersion := ← last? "resourceVersion" string? ms
    labels := ← last? "labels" strings? ms
    annotations := ← last? "annotations" strings? ms }

end ObjectMeta

def ofType (kind : String) (ms : List (String × Json)) : Bool :=
  every "apiVersion" (fun v => v.string? == some "v1") ms &&
    every "kind" (fun v => v.string? == some kind) ms

structure ObjectKey where
  name : String
  ns : String
deriving DecidableEq, Inhabited

namespace ObjectKey

instance : ToString ObjectKey := ⟨fun k => k.ns ++ "/" ++ k.name⟩

def describe (k : ObjectKey) : String :=
  "NamespacedName \x7b name: " ++ Quoted.quoted k.name ++ ", namespace: " ++ Quoted.quoted k.ns
    ++ " \x7d"

/-- An object outside any namespace has no key. One without a name goes by the stem from which the
server generates it. -/
def ofMeta? (m : ObjectMeta) : Option ObjectKey :=
  m.ns.map fun ns => ⟨m.name.getD (m.generateName.getD ""), ns⟩

def clusterSecret (cluster : ObjectKey) : ObjectKey :=
  ⟨cluster.name ++ "-cluster-secret", cluster.ns⟩

end ObjectKey

end TokenCourier
