import TokenCourier.Yaml.Decode

namespace TokenCourier

open Yaml.Node

structure KubeCluster where
  server : Option String := none
  insecureSkipTlsVerify : Option Bool := none
  certificateAuthority : Option String := none
  certificateAuthorityData : Option String := none
  proxyUrl : Option String := none
  disableCompression : Option Bool := none
  tlsServerName : Option String := none
deriving DecidableEq, Inhabited

structure AuthProvider where
  name : String
  config : List (String × String)
deriving DecidableEq, Inhabited

structure ExecPlugin where
  apiVersion : Option String
  command : Option String
  args : Option (List String)
  env : Option (List (List (String × String)))
  interactiveMode : Option String
  provideClusterInfo : Bool
deriving DecidableEq, Inhabited

structure KubeUser where
  username : Option String := none
  password : Option String := none
  token : Option String := none
  tokenFile : Option String := none
  clientCertificate : Option String := none
  clientCertificateData : Option String := none
  clientKey : Option String := none
  clientKeyData : Option String := none
  impersonate : Option String := none
  impersonateGroups : Option (List String) := none
  authProvider : Option AuthProvider := none
  exec : Option ExecPlugin := none
deriving DecidableEq, Inhabited

structure KubeContext where
  cluster : String
  user : Option String
  ns : Option String
deriving DecidableEq, Inhabited

/-- A name may stand alone, without what it names. -/
structure Kubeconfig where
  kind : Option String := none
  version : Option String := none
  clusters : List (String × Option KubeCluster) := []
  users : List (String × Option KubeUser) := []
  contexts : List (String × Option KubeContext) := []
  current : Option String := none
deriving Inhabited

/-- The entry of a name is the first one. -/
def Kubeconfig.find? {α : Type} (name : String) (es : List (String × Option α)) : Option α :=
  (es.lookup name).bind id

namespace Kubeconfig

def extension? (v : Yaml.Node) : Option Unit := do
  match ← slots? ["name", "extension"] 0 v with
  | [name, value] =>
    let _ ← required? string? name
    let value ← value
    guard (isValue maxDepth value)
  | _ => none

def extensions? (slot : Option Yaml.Node) : Option (Option (List Unit)) :=
  field? (list? extension?) slot

def preferences? (v : Yaml.Node) : Option Unit := do
  match ← slots? ["colors", "extensions"] 0 v with
  | [colors, exts] =>
    let _ ← field? bool? colors
    let _ ← extensions? exts
  | _ => none

def cluster? (v : Yaml.Node) : Option KubeCluster := do
  match ← slots? ["server", "insecure-skip-tls-verify", "certificate-authority",
      "certificate-authority-data", "proxy-url", "disable-compression", "tls-server-name",
      "extensions"] 0 v with
  | [server, insecure, ca, caData, proxy, compression, tlsName, exts] =>
    let _ ← extensions? exts
    some {
      server := ← field? string? server
      insecureSkipTlsVerify := ← field? bool? insecure
      certificateAuthority := ← field? string? ca
      certificateAuthorityData := ← field? string? caData
      proxyUrl := ← field? string? proxy
      disableCompression := ← field? bool? compression
      tlsServerName := ← field? string? tlsName }
  | _ => none

def provider? (v : Yaml.Node) : Option AuthProvider := do
  match ← slots? ["name", "config"] 1 v with
  | [name, config] => some ⟨← required? string? name, ← orElse? [] (map? string?) config⟩
  | _ => none

def interactive? (v : Yaml.Node) : Option String :=
  v.string?.filter fun s => ["Never", "IfAvailable", "Always"].contains s

def exec? (v : Yaml.Node) : Option ExecPlugin := do
  match ← slots? ["apiVersion", "command", "args", "env", "interactiveMode", "provideClusterInfo"]
      1 v with
  | [version, command, args, env, mode, info] =>
    some {
      apiVersion := ← field? string? version
      command := ← field? string? command
      args := ← field? (list? string?) args
      env := ← field? (list? (map? string?)) env
      interactiveMode := ← field? interactive? mode
      provideClusterInfo := ← orElse? false bool? info }
  | _ => none

def user? (v : Yaml.Node) : Option KubeUser := do
  match ← slots? ["username", "password", "token", "tokenFile", "client-certificate",
      "client-certificate-data", "client-key", "client-key-data", "as", "as-groups",
      "auth-provider", "exec"] 0 v with
  | [username, password, token, tokenFile, cert, certData, key, keyData, impersonate, groups,
      provider, exec] =>
    some {
      username := ← field? string? username
      password := ← field? string? password
      token := ← field? string? token
      tokenFile := ← field? string? tokenFile
      clientCertificate := ← field? string? cert
      clientCertificateData := ← field? string? certData
      clientKey := ← field? string? key
      clientKeyData := ← field? string? keyData
      impersonate := ← field? string? impersonate
      impersonateGroups := ← field? (list? string?) groups
      authProvider := ← field? provider? provider
      exec := ← field? exec? exec }
  | _ => none

def context? (v : Yaml.Node) : Option KubeContext := do
  match ← slots? ["cluster", "user", "namespace", "extensions"] 0 v with
  | [cluster, user, ns, exts] =>
    let _ ← extensions? exts
    some ⟨← required? string? cluster, ← field? string? user, ← field? string? ns⟩
  | _ => none

def named? {α : Type} (field : String) (f : Yaml.Node → Option α) (v : Yaml.Node) :
    Option (String × Option α) := do
  match ← slots? ["name", field] 0 v with
  | [name, value] => some (← required? string? name, ← field? f value)
  | _ => none

def decode? (v : Yaml.Node) : Option Kubeconfig := do
  match ← slots? ["preferences", "clusters", "users", "contexts", "current-context", "extensions",
      "kind", "apiVersion"] 0 v with
  | [preferences, clusters, users, contexts, current, exts, kind, version] =>
    let _ ← field? preferences? preferences
    let _ ← extensions? exts
    some {
      kind := ← field? string? kind
      version := ← field? string? version
      clusters := ← listField? (named? "cluster" cluster?) clusters
      users := ← listField? (named? "user" user?) users
      contexts := ← listField? (named? "context" context?) contexts
      current := ← field? string? current }
  | _ => none

/-- A text that holds nothing is a file without entries. -/
def parse? (text : String) : Option Kubeconfig := do
  match ← Yaml.Node.parse? text with
  | none => some {}
  | some v => decode? v

end Kubeconfig

end TokenCourier
