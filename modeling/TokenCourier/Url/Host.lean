import TokenCourier.Url.Address
import TokenCourier.Url.Domain
import TokenCourier.Text.Utf8

namespace TokenCourier.Url

inductive Fault where
  | noScheme
  | emptyHost
  | port
  | address
  | groupedAddress
  | domain
  | hostCharacter
deriving DecidableEq, Repr

def Fault.message : Fault → String
  | .noScheme => "relative URL without a base"
  | .emptyHost => "empty host"
  | .port => "invalid port number"
  | .address => "invalid IPv4 address"
  | .groupedAddress => "invalid IPv6 address"
  | .domain => "invalid international domain name"
  | .hostCharacter => "invalid domain character"

inductive Scheme where
  | file | special | other
deriving DecidableEq

def schemeOf (name : String) : Scheme :=
  if name = "file" then .file
  else if ["http", "https", "ws", "wss", "ftp"].contains name then .special
  else .other

def trimmed (c : Char) : Bool := c.toNat ≤ 32

def clean (cs : List Char) : List Char :=
  (((cs.dropWhile trimmed).reverse.dropWhile trimmed).reverse).filter
    fun c => c != '\t' && c != '\n' && c != '\r'

def schemeChar (c : Char) : Bool := c.isAlphanum || c = '+' || c = '-' || c = '.'

def scheme? (cs : List Char) : Option (Scheme × List Char) :=
  let name := cs.takeWhile schemeChar
  match cs.dropWhile schemeChar with
  | ':' :: rest =>
    if (name.head?.map Char.isAlpha).getD false then
      some (schemeOf (String.ofList (name.map Char.toLower)), rest)
    else none
  | _ => none

def slash (c : Char) : Bool := c = '/' || c = '\\'

def ends (s : Scheme) (c : Char) : Bool :=
  c = '/' || c = '?' || c = '#' || (s != .other && c = '\\')

def percentDecode : List UInt8 → List UInt8
  | 37 :: a :: b :: rest =>
    match digitIn? 16 (Char.ofNat a.toNat), digitIn? 16 (Char.ofNat b.toNat) with
    | some m, some n => (16 * m + n).toUInt8 :: percentDecode rest
    | _, _ => 37 :: percentDecode (a :: b :: rest)
  | b :: rest => b :: percentDecode rest
  | [] => []

def hexPair (n : Nat) : List Char :=
  ['%', (Json.hexDigit (n / 16)).toUpper, (Json.hexDigit n).toUpper]

def percentEncode (cs : List Char) : List Char :=
  cs.flatMap fun c =>
    if 32 ≤ c.toNat ∧ c.toNat < 127 then [c]
    else (String.singleton c).toUTF8.toList.flatMap fun b => hexPair b.toNat

/-- A host in brackets, if the text begins like one. -/
def bracketed? (cs : List Char) : Option (Except Fault String) :=
  match cs with
  | '[' :: rest =>
    some <|
      if rest.getLast? != some ']' then .error .groupedAddress
      else
        match Address.grouped? rest.dropLast with
        | some gs => .ok (Address.groupedText gs)
        | none => .error .groupedAddress
  | _ => none

def namedHost (cs : List Char) : Except Fault String :=
  match bracketed? cs with
  | some r => r
  | none =>
    match Utf8.decode ⟨(percentDecode (String.ofList cs).toUTF8.toList).toArray⟩ with
    | .error _ => .error .domain
    | .ok name =>
      match Domain.toAscii? name.toList with
      | none => .error .domain
      | some [] => .error .emptyHost
      | some d =>
        if Address.endsInNumber d then
          match Address.dotted? d with
          | some n => .ok (Address.dottedText n)
          | none => .error .address
        else .ok (String.ofList d)

def opaqueForbidden : List Char :=
  ['\x00', '\t', '\n', '\r', ' ', '#', '/', ':', '<', '>', '?', '@', '[', '\\', ']', '^', '|']

def opaqueHost (cs : List Char) : Except Fault String :=
  match bracketed? cs with
  | some r => r
  | none =>
    if cs.any opaqueForbidden.contains then .error .hostCharacter
    else .ok (String.ofList (percentEncode cs))

/-- The host text ends at a colon outside brackets. -/
def hostLength : Bool → List Char → Nat
  | _, [] => 0
  | inside, c :: cs =>
    if c = ':' ∧ !inside then 0
    else hostLength (if c = '[' then true else if c = ']' then false else inside) cs + 1

def portFits (cs : List Char) : Bool :=
  let ds := cs.takeWhile Char.isDigit
  (cs.dropWhile Char.isDigit).head?.all (fun c => slash c || c = '?' || c = '#')
    && (Address.number? 10 ds).all (· ≤ 65535)

def userInfo (authority : List Char) : Option (List Char) × List Char :=
  let host := (authority.reverse.takeWhile (· != '@')).reverse
  if authority.contains '@' then (some (authority.take (authority.length - host.length - 1)), host)
  else (none, authority)

def authorityHost (s : Scheme) (rest : List Char) : Except Fault String := do
  let authority := rest.takeWhile (!ends s ·)
  let (user, tail) := userInfo authority
  if user = some [] ∧ tail = [] ∧ authority.length < rest.length then throw .emptyHost
  let name := tail.take (hostLength false tail)
  let after := tail.drop name.length
  if s = .special ∧ name = [] then throw .emptyHost
  let host ← if s = .other then opaqueHost name else namedHost name
  if host = "" ∧ after ≠ [] then throw .emptyHost
  match after with
  | ':' :: port => if !portFits (port ++ rest.drop authority.length) then throw .port
  | _ => pure ()
  if host = "" ∧ user.any (fun u => u ≠ [] ∧ u ≠ [':']) then throw .emptyHost
  return host

def driveLetter (cs : List Char) : Bool :=
  match cs with
  | [d, c] => d.isAlpha && (c = ':' || c = '|')
  | _ => false

def dot (cs : List Char) : Bool := cs = ['.'] || cs.map Char.toLower = ['%', '2', 'e']

def twoDots (cs : List Char) : Bool :=
  match cs with
  | ['.', '.'] => true
  | _ =>
    [['.', '%', '2', 'e'], ['%', '2', 'e', '.'], ['%', '2', 'e', '%', '2', 'e']].contains
      (cs.map Char.toLower)

/-- A path whose first name is a drive letter takes the host away. -/
def namesDrive (depth : Nat) : List (List Char) → Bool
  | [] => false
  | p :: ps =>
    if twoDots p then namesDrive (depth - 1) ps
    else if dot p then namesDrive depth ps
    else (depth = 0 && driveLetter p) || namesDrive (depth + 1) ps

def pathParts (cs : List Char) : List (List Char) :=
  CharSet.parts slash ((cs.takeWhile fun c => c != '?' && c != '#').drop 1)

def fileHost (rest : List Char) : Except Fault String := do
  let name := rest.takeWhile (!ends .file ·)
  if name = [] ∨ driveLetter name then return ""
  let host ← namedHost name
  if host = "localhost" ∨ namesDrive 0 (pathParts (rest.drop name.length)) then return ""
  return host

/-- The host of a URL; empty where it has none. -/
def host (url : String) : Except Fault String :=
  match scheme? (clean url.toList) with
  | none => .error .noScheme
  | some (.special, rest) => authorityHost .special (rest.dropWhile slash)
  | some (.file, a :: b :: rest) => if slash a && slash b then fileHost rest else .ok ""
  | some (.other, '/' :: '/' :: rest) => authorityHost .other rest
  | some _ => .ok ""

end TokenCourier.Url
