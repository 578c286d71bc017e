import TokenCourier.Api.Exchange
import TokenCourier.Json.Printer
import TokenCourier.Kube.Secret
import TokenCourier.Url.Host

namespace TokenCourier

namespace Label

def maxLength : Nat := 63

def alnum (c : Char) : Bool := c.isAlphanum

def plain (c : Char) : Bool := alnum c || c = '-' || c = '_'

def trimLeft (cs : List Char) : List Char := cs.dropWhile (!alnum ·)

def trim (cs : List Char) : List Char := (trimLeft (trimLeft cs).reverse).reverse

def sanitizeChars (cs : List Char) : List Char :=
  trim ((cs.take maxLength).map fun c => if plain c then c else '-')

/-- The first 63 characters, with a hyphen for each that is not plain, and without those at the ends
that are no letters or digits. -/
def sanitize (s : String) : String := String.ofList (sanitizeChars s.toList)

def ofHost? (host : String) : Option String :=
  if sanitize host = "" then none else some (sanitize host)

end Label

structure ClusterConfig where
  bearerToken : String
  insecure : Bool
deriving DecidableEq, Inhabited

namespace ClusterConfig

open Json

def toJson (c : ClusterConfig) : Json :=
  .obj [("bearerToken", .str c.bearerToken),
    ("tlsClientConfig", .obj [("insecure", .bool c.insecure)])]

def compact (c : ClusterConfig) : String := c.toJson.compact

def pretty (c : ClusterConfig) : String := c.toJson.pretty

def tls? (v : Json) : Option Bool := do
  match ← slots? ["insecure"] 0 v with
  | [b] => required? bool? b
  | _ => none

def decode? (v : Json) : Option ClusterConfig := do
  match ← slots? ["bearerToken", "tlsClientConfig"] 0 v with
  | [token, tls] => some ⟨← required? string? token, ← required? tls? tls⟩
  | _ => none

def parse? (text : String) : Option ClusterConfig := (read? text).bind decode?

def ofToken (token : String) : ClusterConfig := ⟨token, true⟩

end ClusterConfig

namespace ClusterSecret

/-- The label value for a server address, and a log line about an address that is no URL. -/
def serverLabel (server : String) : List LogLine × Option String :=
  match Url.host server with
  | .ok host => ([], Label.ofHost? host)
  | .error f =>
    ([⟨.error, "Failed to parse API server URL '" ++ server ++ "': " ++ f.message⟩], none)

def invalidServer (server : String) : LogLine :=
  ⟨.error, "Invalid hostname in the API URL: '" ++ server ++ "'"⟩

def labels (cluster : ObjectKey) (host : Option String) : List (String × String) :=
  [("apps.open-cluster-management.io/cluster-name", cluster.name)]
    ++ host.elim [] (fun h => [("apps.open-cluster-management.io/cluster-server", h)])
    ++ [("apps.open-cluster-management.io/secret-type", "acm-cluster"),
      ("argocd.argoproj.io/secret-type", "cluster")]

def content (cluster : ObjectKey) (token server : String) : List (String × String) :=
  [("config", (ClusterConfig.ofToken token).pretty), ("name", cluster.name), ("server", server)]

/-- A server address without a host only costs the label. -/
def build (cluster : ObjectKey) (token server : String) : List LogLine × Secret :=
  let (lines, host) := serverLabel server
  (lines ++ host.elim [invalidServer server] fun _ => [],
    { metadata :=
        { name := some cluster.clusterSecret.name
          ns := some cluster.ns
          labels := some (labels cluster host) }
      stringData := some (content cluster token server) })

end ClusterSecret

end TokenCourier
