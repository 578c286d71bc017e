import TokenCourier.Kube.Meta

namespace TokenCourier

open Json

/-- `secrets` holds the names of the linked secrets; a link may lack one. -/
structure ServiceAccount where
  metadata : ObjectMeta := {}
  secrets : List (Option String) := []
deriving DecidableEq, Inhabited

namespace ServiceAccount

def reference? (v : Json) : Option (Option String) := do
  let ms ← v.members?
  guard <| ["apiVersion", "fieldPath", "kind", "namespace", "resourceVersion", "uid"].all
    fun n => optional n string? ms
  last? "name" string? ms

def pullSecret? (v : Json) : Option (Option String) := do last? "name" string? (← v.members?)

def decode? (v : Json) : Option ServiceAccount := do
  let ms ← v.members?
  guard (ofType "ServiceAccount" ms)
  guard (optional "automountServiceAccountToken" bool? ms)
  guard (optional "imagePullSecrets" (list? pullSecret?) ms)
  some {
    metadata := (← last? "metadata" ObjectMeta.decode? ms).getD {}
    secrets := (← last? "secrets" (list? reference?) ms).getD [] }

def key? (sa : ServiceAccount) : Option ObjectKey := ObjectKey.ofMeta? sa.metadata

end ServiceAccount

end TokenCourier
