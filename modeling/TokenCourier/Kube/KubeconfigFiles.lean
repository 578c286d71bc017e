import TokenCourier.Kube.Kubeconfig
import TokenCourier.Machine
import TokenCourier.Text.Quoted

namespace TokenCourier

inductive KubeconfigFault where
  | unreadable (path : String) (f : FileFault)
  | malformed
  | misshapen
  | kinds
  | versions
deriving DecidableEq

namespace KubeconfigFault

def message : KubeconfigFault → String
  | .unreadable path f =>
    "failed to read kubeconfig from '" ++ Quoted.quoted path ++ "': " ++ f.message
  | .malformed => "failed to parse kubeconfig YAML"
  | .misshapen => "the structure of the parsed kubeconfig is invalid"
  | .kinds => "kubeconfigs with mismatching kind cannot be merged"
  | .versions => "kubeconfigs with mismatching api version cannot be merged"

def causes : KubeconfigFault → List String
  | .unreadable _ f => [f.message]
  | _ => []

end KubeconfigFault

namespace Kubeconfig

def differ (a b : Option String) : Bool := a.isSome && b.isSome && a != b

/-- Entries of names that are not there yet. -/
def added {α : Type} (es more : List (String × α)) : List (String × α) :=
  es ++ more.filter fun e => (es.lookup e.1).isNone

def merge (k next : Kubeconfig) : Except KubeconfigFault Kubeconfig := do
  if differ k.kind next.kind then throw .kinds
  if differ k.version next.version then throw .versions
  return {
    kind := k.kind <|> next.kind
    version := k.version <|> next.version
    clusters := added k.clusters next.clusters
    users := added k.users next.users
    contexts := added k.contexts next.contexts
    current := k.current <|> next.current }

/-- The paths in a file are seen from its folder. -/
def placed (file : String) (k : Kubeconfig) : Kubeconfig :=
  let seen (path : Option String) := path.map (Path.besides file)
  { k with
    clusters := k.clusters.map fun (n, c) =>
      (n, c.map fun c => { c with certificateAuthority := seen c.certificateAuthority })
    users := k.users.map fun (n, u) =>
      (n, u.map fun u =>
        { u with
          clientCertificate := seen u.clientCertificate
          clientKey := seen u.clientKey
          tokenFile := seen u.tokenFile }) }

def documents (file : String) :
    Nat → Option Kubeconfig → List Yaml.Token → Except KubeconfigFault Kubeconfig
  | 0, k, _ => .ok (k.getD {})
  | n + 1, k, ts => do
    match Yaml.Node.next? k.isNone ts with
    | none => throw .malformed
    | some none => return k.getD {}
    | some (some (v, rest)) =>
      let v ← (v.settle? Yaml.Node.maxDepth).elim (throw .malformed) pure
      let next ← (decode? v).elim (throw .misshapen) fun k => pure (k.placed file)
      documents file n (some (← k.elim (pure next) fun k => k.merge next)) rest

/-- The text without a mark of the order of its bytes. -/
def unmarked (text : String) : String :=
  if text.toList.head? = some '\ufeff' then String.ofList (text.toList.drop 1) else text

def ofFile (files : Files) (path : String) : Except KubeconfigFault Kubeconfig :=
  match files.text path with
  | .error f => .error (.unreadable path f)
  | .ok text =>
    match Yaml.tokens? (unmarked text) with
    | none => .error .malformed
    | some ts => documents path (ts.length + 1) none ts

def ofFiles (files : Files) (paths : List String) : Except KubeconfigFault Kubeconfig :=
  paths.foldlM (fun k path => do k.merge (← ofFile files path)) {}

def named (k : Kubeconfig) : List String :=
  (k.clusters.flatMap fun (_, c) => (c.bind (·.certificateAuthority)).toList)
    ++ k.users.flatMap fun (_, u) =>
      (u.map fun u => [u.clientCertificate, u.clientKey, u.tokenFile].filterMap id).getD []

end Kubeconfig

end TokenCourier
