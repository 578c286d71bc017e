namespace TokenCourier.Base64

inductive Fault where
  | symbol (c : Char) (index : Nat)
  | length (n : Nat)
  | lastSymbol (c : Char) (index : Nat)
  | padding
deriving DecidableEq, Repr

def Fault.message : Fault → String
  | .symbol c i => s!"Invalid symbol {c.toNat}, offset {i}."
  | .length n => s!"Invalid input length: {n}"
  | .lastSymbol c i => s!"Invalid last symbol {c.toNat}, offset {i}."
  | .padding => "Invalid padding"

def digit? (c : Char) : Option Nat :=
  if 'A' ≤ c ∧ c ≤ 'Z' then some (c.toNat - 'A'.toNat)
  else if 'a' ≤ c ∧ c ≤ 'z' then some (c.toNat - 'a'.toNat + 26)
  else if '0' ≤ c ∧ c ≤ '9' then some (c.toNat - '0'.toNat + 52)
  else if c = '+' then some 62
  else if c = '/' then some 63
  else none

def digit (c : Char) (index : Nat) : Except Fault Nat :=
  match digit? c with
  | some n => .ok n
  | none => .error (.symbol c index)

def lastGroup (index : Nat) (cs : List Char) : Except Fault (List UInt8) := do
  let symbols := cs.takeWhile (· != '=')
  let pads := cs.drop symbols.length
  let ds ← symbols.zipIdx.mapM fun (c, i) => digit c (index + i)
  if !pads.all (· = '=') || (!pads.isEmpty && symbols.length < 2) then
    throw (.symbol '=' (index + symbols.length))
  if symbols.length < 2 then throw (.length (index + symbols.length))
  if cs.length ≠ 4 then throw .padding
  match ds with
  | [a, b] =>
    if b % 16 ≠ 0 then throw (.lastSymbol (symbols.getLastD '=') (index + 1))
    return [(a * 4 + b / 16).toUInt8]
  | [a, b, c] =>
    if c % 4 ≠ 0 then throw (.lastSymbol (symbols.getLastD '=') (index + 2))
    return [(a * 4 + b / 16).toUInt8, (b * 16 + c / 4).toUInt8]
  | [a, b, c, d] =>
    return [(a * 4 + b / 16).toUInt8, (b * 16 + c / 4).toUInt8, (c * 64 + d).toUInt8]
  | _ => throw .padding

def groups (index : Nat) : List Char → Except Fault (List UInt8)
  | [] => .ok []
  | a :: b :: c :: d :: e :: cs => do
    let x ← digit a index
    let y ← digit b (index + 1)
    let z ← digit c (index + 2)
    let w ← digit d (index + 3)
    let bs ← groups (index + 4) (e :: cs)
    return (x * 4 + y / 16).toUInt8 :: (y * 16 + z / 4).toUInt8 :: (z * 64 + w).toUInt8 :: bs
  | cs => lastGroup index cs

/-- A byte that is left over and no symbol is reported before all else. -/
def stray? (cs : List Char) : Option Char :=
  if cs.length % 4 = 1 then cs.getLast?.filter fun c => c != '=' && (digit? c).isNone else none

def decodeChars (cs : List Char) : Except Fault (List UInt8) :=
  match stray? cs with
  | some c => .error (.symbol c (cs.length - 1))
  | none => groups 0 cs

def decode (s : String) : Except Fault ByteArray :=
  (decodeChars s.toList).map fun bs => ⟨bs.toArray⟩

def decode? (s : String) : Option ByteArray := (decode s).toOption

def symbol (n : Nat) : Char :=
  if n < 26 then Char.ofNat ('A'.toNat + n)
  else if n < 52 then Char.ofNat ('a'.toNat + (n - 26))
  else if n < 62 then Char.ofNat ('0'.toNat + (n - 52))
  else if n = 62 then '+' else '/'

def encode : List UInt8 → List Char
  | [] => []
  | [a] => [symbol (a.toNat / 4), symbol (a.toNat % 4 * 16), '=', '=']
  | [a, b] =>
    [symbol (a.toNat / 4), symbol (a.toNat % 4 * 16 + b.toNat / 16), symbol (b.toNat % 16 * 4), '=']
  | a :: b :: c :: bs =>
    symbol (a.toNat / 4) :: symbol (a.toNat % 4 * 16 + b.toNat / 16)
      :: symbol (b.toNat % 16 * 4 + c.toNat / 64) :: symbol (c.toNat % 64) :: encode bs

end TokenCourier.Base64
