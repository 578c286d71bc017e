import TokenCourier.Kube.Meta
import TokenCourier.Text.Base64

namespace TokenCourier

open Json

structure Secret where
  metadata : ObjectMeta := {}
  stringData : Option (List (String × String)) := none
deriving DecidableEq, Inhabited

namespace Secret

def bytes? (v : Json) : Option ByteArray := v.string?.bind Base64.decode?

def decode? (v : Json) : Option Secret := do
  let ms ← v.members?
  guard (ofType "Secret" ms)
  guard (optional "data" (map? bytes?) ms && optional "immutable" bool? ms)
  guard (optional "type" string? ms)
  some {
    metadata := (← last? "metadata" ObjectMeta.decode? ms).getD {}
    stringData := ← last? "stringData" strings? ms }

def annotation? (s : Secret) (name : String) : Option String :=
  (s.metadata.annotations.getD []).reverse.find? (·.1 == name) |>.map (·.2)

def member? (name : String) (v : Option Json) : List (String × Json) :=
  match v with
  | some v => [(name, v)]
  | none => []

def stringsJson (ms : List (String × String)) : Json := .obj (ms.map fun m => (m.1, .str m.2))

def metadataJson (m : ObjectMeta) : Json :=
  .obj <|
    member? "annotations" (m.annotations.map stringsJson) ++
    member? "generateName" (m.generateName.map .str) ++
    member? "labels" (m.labels.map stringsJson) ++
    member? "name" (m.name.map .str) ++
    member? "namespace" (m.ns.map .str) ++
    member? "resourceVersion" (m.resourceVersion.map .str)

def toJson (s : Secret) : Json :=
  .obj <|
    [("apiVersion", .str "v1"), ("kind", .str "Secret"), ("metadata", metadataJson s.metadata)] ++
    member? "stringData" (s.stringData.map stringsJson)

end Secret

end TokenCourier
