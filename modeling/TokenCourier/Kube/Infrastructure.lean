import TokenCourier.Kube.Meta

namespace TokenCourier

open Json

structure InfrastructureStatus where
  apiServerURL : Option String := none
  apiServerInternalURI : Option String := none
  infrastructureName : Option String := none
  platform : Option String := none
deriving DecidableEq, Inhabited

structure Infrastructure where
  metadata : ObjectMeta := {}
  platformSpec : Option Json := none
  status : Option InfrastructureStatus := none

namespace InfrastructureStatus

def decode? (v : Json) : Option InfrastructureStatus := do
  match ← slots? ["apiServerURL", "apiServerInternalURI", "infrastructureName", "platform"] 0 v with
  | [url, internal, name, platform] =>
    some ⟨← maybe? string? url, ← maybe? string? internal, ← maybe? string? name,
      ← maybe? string? platform⟩
  | _ => none

def toJson (s : InfrastructureStatus) : Json :=
  .obj <|
    ([("apiServerURL", s.apiServerURL), ("apiServerInternalURI", s.apiServerInternalURI),
      ("infrastructureName", s.infrastructureName), ("platform", s.platform)]).filterMap
      fun m => m.2.map fun s => (m.1, .str s)

end InfrastructureStatus

namespace Infrastructure

def group : String := "config.openshift.io"
def version : String := "v1"
def kind : String := "Infrastructure"
def plural : String := "infrastructures"
def apiVersion : String := group ++ "/" ++ version

/-- The path of the collection. The kind has no namespace, but one may be put into the path. -/
def collectionPath (ns : Option String) : String :=
  "/apis/" ++ apiVersion ++ "/" ++ (ns.elim "" fun ns => "namespaces/" ++ ns ++ "/") ++ plural

def spec? (v : Json) : Option (Option Json) := do
  match ← slots? ["platformSpec"] 0 v with
  | [p] => maybe? (any? 2) p
  | _ => none

def decode? (v : Json) : Option Infrastructure := do
  match ← slots? ["metadata", "spec", "status"] 0 v with
  | [metadata, spec, status] =>
    some ⟨← required? ObjectMeta.decode? metadata, ← required? spec? spec,
      ← maybe? InfrastructureStatus.decode? status⟩
  | _ => none

def specJson (i : Infrastructure) : Json :=
  .obj (i.platformSpec.elim [] fun v => [("platformSpec", v.sorted)])

/-- The server address that clients outside the cluster use, if one is published. -/
def apiServerURL? (i : Infrastructure) : Option String :=
  (i.status.bind (·.apiServerURL)).filter (· != "")

end Infrastructure

end TokenCourier
