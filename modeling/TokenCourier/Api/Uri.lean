import TokenCourier.Api.Request

namespace TokenCourier

inductive UriFault where
  | character | authority | format | length | empty | scheme
deriving DecidableEq, Repr

def UriFault.message : UriFault → String
  | .character => "invalid uri character"
  | .authority => "invalid authority"
  | .format => "invalid format"
  | .length => "uri too long"
  | .empty => "empty string"
  | .scheme => "scheme too long"

structure Uri where
  scheme : Option String := none
  authority : String := ""
  path : String := ""
  query : Option String := none
deriving DecidableEq, Inhabited

namespace Uri

instance : ToString Uri where
  toString u :=
    u.scheme.elim "" (· ++ "://") ++ u.authority ++ u.path ++ u.query.elim "" ("?" ++ ·)

def schemeChar (c : Char) : Bool := c.isAlphanum || c = '+' || c = '-' || c = '.'

def authorityChar (c : Char) : Bool :=
  c.isAlphanum || ['!', '#', '$', '&', '\'', '(', ')', '*', '+', ',', '-', '.', '/', ':', ';', '=',
    '?', '@', '[', ']', '_', '~'].contains c

def schemeLimit : Nat := 64

def maxColons : Nat := 8

/-- What is known of an authority part way through. Brackets and user info make earlier colons and
percent signs count no more. -/
structure Seen where
  colons : Nat := 0
  opened : Bool := false
  closed : Bool := false
  percent : Bool := false
  atLast : Bool := false

def Seen.step (s : Seen) (c : Char) : Except UriFault Seen :=
  let s := { s with atLast := false }
  if c = ':' then
    if maxColons ≤ s.colons then .error .authority else .ok { s with colons := s.colons + 1 }
  else if c = '[' then
    if s.percent || s.opened then .error .authority else .ok { s with opened := true }
  else if c = ']' then
    if !s.opened || s.closed then .error .authority
    else .ok { s with closed := true, colons := 0, percent := false }
  else if c = '@' then .ok { s with colons := 0, percent := false, atLast := true }
  else if c = '%' then .ok { s with percent := true }
  else if authorityChar c then .ok s
  else .error .character

def checkAuthority (cs : List Char) : Except UriFault Unit := do
  let s ← cs.foldlM Seen.step {}
  if s.opened != s.closed || 1 < s.colons || s.atLast || s.percent then throw .authority

def endsAuthority (c : Char) : Bool := c = '/' || c = '?' || c = '#'

def pathAndQuery (cs : List Char) : Except UriFault (String × Option String) :=
  let cs := cs.takeWhile (· != '#')
  let path := cs.takeWhile (· != '?')
  let query := cs.dropWhile (· != '?')
  if path.all Target.pathChar && (query.drop 1).all Target.queryChar then
    .ok (if path.isEmpty then "/" else String.ofList path,
      if query.isEmpty then none else some (String.ofList (query.drop 1)))
  else .error .character

/-- The scheme before two slashes, and what follows them. -/
def splitScheme (cs : List Char) : Except UriFault (Option String × List Char) :=
  let name := cs.takeWhile schemeChar
  match cs.drop name.length with
  | ':' :: '/' :: '/' :: rest =>
    let lower := name.map Char.toLower
    if lower = "http".toList ∨ lower = "https".toList then .ok (some (String.ofList lower), rest)
    else if schemeLimit < name.length then .error .scheme
    else .ok (some (String.ofList name), rest)
  | _ => .ok (none, cs)

def parseChars (cs : List Char) : Except UriFault Uri := do
  let (scheme, rest) ← splitScheme cs
  let authority := rest.takeWhile (!endsAuthority ·)
  checkAuthority authority
  match scheme with
  | none =>
    if authority.length = rest.length then return { authority := String.ofList authority }
    else throw .format
  | some _ =>
    if authority.isEmpty then throw .format
    let (path, query) ← pathAndQuery (rest.drop authority.length)
    return { scheme, authority := String.ofList authority, path, query }

/-- A single character that is neither a slash nor a star has to be a host. -/
def single (c : Char) : Except UriFault Uri :=
  if c = '/' then .ok { path := "/" }
  else if c = '*' then .ok { path := "*" }
  else if endsAuthority c then .error .character
  else do
    checkAuthority [c]
    return { authority := String.ofList [c] }

def parse (s : String) : Except UriFault Uri :=
  if Target.limit < s.utf8ByteSize then .error .length else
  match s.toList with
  | [] => .error .empty
  | [c] => if c.toNat < 0x80 then single c else parseChars [c]
  | '/' :: cs => do
    let (path, query) ← pathAndQuery ('/' :: cs)
    return { path, query }
  | cs => parseChars cs

end Uri

end TokenCourier
