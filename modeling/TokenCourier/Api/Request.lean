import TokenCourier.Kube.Meta

namespace TokenCourier

inductive Method where
  | get | post | put | delete
deriving DecidableEq, Inhabited

def Method.word : Method → String
  | .get => "GET"
  | .post => "POST"
  | .put => "PUT"
  | .delete => "DELETE"

/-- `query` is the text after the question mark; `body` is empty for a read. -/
structure Request where
  method : Method
  path : String
  query : String := ""
  body : String := ""
deriving DecidableEq, Inhabited

inductive RequestFault where
  | emptyName
  | targetCharacter
  | targetLength
deriving DecidableEq, Repr

namespace RequestFault

def cause : RequestFault → String
  | .emptyName => "A non-empty name is required"
  | .targetCharacter => "invalid uri character"
  | .targetLength => "uri too long"

def message (f : RequestFault) : String :=
  (if f = emptyName then "failed to validate request: " else "failed to build request: ") ++ f.cause

end RequestFault

namespace Target

/-- Characters that a path holds unescaped. -/
def pathChar (c : Char) : Bool :=
  c = '!' || (0x24 ≤ c.toNat && c.toNat ≤ 0x3B) || c = '=' || (0x40 ≤ c.toNat && c.toNat ≤ 0x5F)
    || ('a' ≤ c && c ≤ 'z') || c = '|' || c = '~' || 0x7F ≤ c.toNat
    || c = '"' || c = '\x7b' || c = '\x7d'

def queryChar (c : Char) : Bool :=
  c = '!' || (0x24 ≤ c.toNat && c.toNat ≤ 0x3B) || c = '=' || 0x3F ≤ c.toNat

def limit : Nat := 65534

def parse (target : String) : Except RequestFault (String × String) :=
  if limit < target.utf8ByteSize then .error .targetLength else
  let cs := target.toList.takeWhile (· != '#')
  let path := cs.takeWhile (· != '?')
  let query := (cs.dropWhile (· != '?')).drop 1
  if path.all pathChar && query.all queryChar then
    .ok (String.ofList path, String.ofList query)
  else .error .targetCharacter

end Target

namespace Request

def build (method : Method) (target body : String) : Except RequestFault Request := do
  let (path, query) ← Target.parse target
  .ok ⟨method, path, query, body⟩

def buildNamed (method : Method) (collection name suffix body : String) :
    Except RequestFault Request :=
  if name = "" then .error .emptyName
  else build method (collection ++ "/" ++ name ++ suffix) body

def get (collection name : String) : Except RequestFault Request :=
  buildNamed .get collection name "" ""

/-- Writes say which program made them. -/
def manager : String := "?&fieldManager=agent-token-sync"

def create (collection body : String) : Except RequestFault Request :=
  build .post (collection ++ manager) body

def replace (collection name body : String) : Except RequestFault Request :=
  buildNamed .put collection name manager body

def delete (collection name : String) : Except RequestFault Request :=
  buildNamed .delete collection name "?" "\x7b\x7d"

def parameters (r : Request) : List (String × String) :=
  ((CharSet.parts (· = '&') r.query.toList).filter (!·.isEmpty)).map fun p =>
    (String.ofList (p.takeWhile (· != '=')), String.ofList ((p.dropWhile (· != '=')).drop 1))

def hasParameter (r : Request) (name : String) : Bool := r.parameters.any (·.1 == name)

end Request

def collection (ns plural : String) : String := "/api/v1/namespaces/" ++ ns ++ "/" ++ plural

def secretsOf (ns : String) : String := collection ns "secrets"

def serviceAccountsOf (ns : String) : String := collection ns "serviceaccounts"

end TokenCourier
