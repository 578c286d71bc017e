import TokenCourier.Connect.Client
import TokenCourier.Kube.KubeconfigFiles
import TokenCourier.Text.Decimal
import TokenCourier.Url.Address

namespace TokenCourier.Cluster

inductive FilesFault where
  | kubeconfig (f : KubeconfigFault)
  | connection (f : ConnectionFault)
deriving DecidableEq

namespace FilesFault

def message : FilesFault → String
  | .kubeconfig f => f.message
  | .connection f => f.message

def causes : FilesFault → List String
  | .kubeconfig f => f.causes
  | .connection f => f.causes

end FilesFault

def paths (s : String) : List String :=
  ((CharSet.parts (· = ':') s.toList).map String.ofList).filter (· != "")

def kubeconfigPaths (m : Machine) : List String :=
  match paths ((m.lookup "KUBECONFIG").getD "") with
  | [] => [Path.under ((m.lookup "HOME").getD "") ".kube/config"]
  | ps => ps

def byFiles (m : Machine) : Except FilesFault Connection :=
  match Kubeconfig.ofFiles m.files (kubeconfigPaths m) with
  | .error f => .error (.kubeconfig f)
  | .ok k =>
    match Connection.ofKubeconfig m k with
    | .ok c => .ok c
    | .error f => .error (.connection f)

inductive InsideFault where
  | variable
  | number (f : NumberFault)
  | url (f : UriFault)
  | ns (f : FileFault)
  | certificate (f : FileFault)
  | certificates (f : PemFault)
deriving DecidableEq

def InsideFault.message : InsideFault → String
  | .variable => "failed to read an incluster environment variable: environment variable not found"
  | .number f => "failed to parse cluster port: " ++ f.message
  | .url f => "failed to parse cluster url: " ++ f.message
  | .ns f => "failed to read the default namespace: " ++ f.message
  | .certificate f => "failed to read a certificate bundle: " ++ f.message
  | .certificates f => "failed to parse PEM-encoded certificates: " ++ f.message

def mounted : String := "/var/run/secrets/kubernetes.io/serviceaccount/"

def namespaceFile : String := mounted ++ "namespace"

def certificateFile : String := mounted ++ "ca.crt"

def tokenFile : String := mounted ++ "token"

def hostText (host : String) : String :=
  match Address.grouped? host.toList with
  | some gs => Address.groupedText gs
  | none => host

def secureNumber : Nat := 443

def address (m : Machine) : Except InsideFault Uri := do
  let host ← (m.lookup "KUBERNETES_SERVICE_HOST").elim (throw .variable) pure
  let number ← (m.lookup "KUBERNETES_SERVICE_PORT").elim (throw .variable) pure
  let number ←
    match Decimal.read 65535 number with
    | .ok n => pure n
    | .error f => throw (.number f)
  let text :=
    "https://" ++ hostText host ++ if number = secureNumber then "" else s!":{number}"
  match Uri.parse text with
  | .ok u => return u
  | .error f => throw (.url f)

def inside (m : Machine) : Except InsideFault Connection := do
  let url ← address m
  let ns ←
    match m.files.text namespaceFile with
    | .ok s => pure s
    | .error f => throw (.ns f)
  let certificates ←
    match m.files certificateFile with
    | .ok bs => pure bs
    | .error f => throw (.certificate f)
  match Pem.contents "CERTIFICATE" certificates with
  | .error f => throw (.certificates f)
  | .ok roots =>
    return {
      url
      defaultNamespace := ns
      rootCertificates := some roots
      acceptInvalidCertificates := false
      disableCompression := false
      proxy := none
      tlsServerName := none
      user := { tokenFile := some tokenFile } }

structure Unknown where
  inside : InsideFault
  files : FilesFault
deriving DecidableEq

namespace Unknown

def reasons (u : Unknown) : String :=
  s!"failed to infer config: in-cluster: ({u.inside.message}), kubeconfig: ({u.files.message})"

def message (u : Unknown) : String := "Failed to infer configuration: " ++ u.reasons

def causes (u : Unknown) : List String := u.reasons :: u.files.message :: u.files.causes

end Unknown

/-- Kubeconfigs come first. -/
def connection (m : Machine) : Except Unknown Connection :=
  match byFiles m with
  | .ok c => .ok c
  | .error files =>
    match inside m with
    | .ok c => .ok c
    | .error inside => .error ⟨inside, files⟩

end TokenCourier.Cluster
