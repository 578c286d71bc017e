import TokenCourier.Text.CharSet
import TokenCourier.Text.Decimal
import TokenCourier.Json.Printer

namespace TokenCourier.Address

def number? (base : Nat) (cs : List Char) : Option Nat :=
  cs.foldlM (fun n c => (digitIn? base c).map (base * n + ·)) 0

/-- A part of a dotted address; nothing after the sign of its base stands for zero. -/
def part? (cs : List Char) : Option Nat :=
  match cs with
  | [] => none
  | '0' :: 'x' :: rest | '0' :: 'X' :: rest => number? 16 rest
  | '0' :: c :: rest => number? 8 (c :: rest)
  | _ => number? 10 cs

def dots (cs : List Char) : List (List Char) := CharSet.parts (· = '.') cs

def parts (cs : List Char) : List (List Char) :=
  let ps := dots cs
  if ps.getLast? = some [] then ps.dropLast else ps

/-- A host whose last part is a number can only be an address. -/
def endsInNumber (cs : List Char) : Bool :=
  match (parts cs).getLast? with
  | none | some [] => false
  | some l => l.all Char.isDigit || (part? l).isSome

def dotted? (cs : List Char) : Option Nat := do
  let ps := parts cs
  guard (ps.length ≤ 4)
  let ns ← ps.mapM part?
  let last ← ns.getLast?
  let high := ns.dropLast
  guard (last < Nat.pow 256 (4 - high.length) && high.all (· ≤ 255))
  some (high.zipIdx.foldl (fun n p => n + p.1 * Nat.pow 256 (3 - p.2)) last)

def dottedText (n : Nat) : String :=
  s!"{n / Nat.pow 256 3}.{n / Nat.pow 256 2 % 256}.{n / 256 % 256}.{n % 256}"

def tail? (cs : List Char) : Option (List Nat) := do
  let ps := dots cs
  guard (ps.length = 4)
  let ns ← ps.mapM fun p => do
    guard (!p.isEmpty && p.length ≤ 3 && p.all Char.isDigit)
    guard (p.length = 1 || p.head? != some '0')
    let n ← number? 10 p
    guard (n ≤ 255)
    some n
  match ns with
  | [a, b, c, d] => some [256 * a + b, 256 * c + d]
  | _ => none

def group? (cs : List Char) : Option Nat :=
  if cs.isEmpty || 4 < cs.length then none else number? 16 cs

def groups? (final : Bool) : List (List Char) → Option (List Nat)
  | [] => some []
  | [g] => if final && g.contains '.' then tail? g else (group? g).map ([·])
  | g :: gs => do some ((← group? g) :: (← groups? final gs))

def colons (cs : List Char) : List (List Char) := CharSet.parts (· = ':') cs

def gap? : List Char → List Char → Option (List Char × List Char)
  | before, ':' :: ':' :: rest => some (before.reverse, rest)
  | before, c :: rest => gap? (c :: before) rest
  | _, [] => none

def run? (final : Bool) (cs : List Char) : Option (List Nat) :=
  if cs.isEmpty then some [] else groups? final (colons cs)

/-- The eight groups of an address. Two colons stand for one group of zero at least. -/
def grouped? (cs : List Char) : Option (List Nat) :=
  match gap? [] cs with
  | none => do
    let gs ← run? true cs
    guard (gs.length = 8)
    some gs
  | some (before, after) => do
    let gs ← run? false before
    let hs ← run? true after
    guard (gs.length + hs.length ≤ 7)
    some (gs ++ List.replicate (8 - gs.length - hs.length) 0 ++ hs)

def zeros (gs : List Nat) : Nat := (gs.takeWhile (· = 0)).length

def longestZeros : Nat → List Nat → Nat × Nat
  | _, [] => (0, 0)
  | i, g :: gs =>
    let rest := longestZeros (i + 1) gs
    if rest.2 ≤ zeros (g :: gs) then (i, zeros (g :: gs)) else rest

def hexGroups (gs : List Nat) : String :=
  String.intercalate ":" (gs.map fun n => String.ofList (Nat.toDigits 16 n))

/-- The shortest text, in brackets, without the longest run of zeros if that is longer than one. -/
def groupedText (gs : List Nat) : String :=
  let (i, n) := longestZeros 0 gs
  if n < 2 then "[" ++ hexGroups gs ++ "]"
  else "[" ++ hexGroups (gs.take i) ++ "::" ++ hexGroups (gs.drop (i + n)) ++ "]"

end TokenCourier.Address

namespace TokenCourier.Url

def nameChar (c : Char) : Bool := c.isAlphanum || c = '-' || c = '_'

def longestLabel : Nat := 63

def longestName : Nat := 253

def isLabel (label : List Char) : Bool :=
  !label.isEmpty && decide (label.length ≤ longestLabel) && label.all nameChar
    && label.head? != some '-' && label.getLast? != some '-'

def isHostName (name : List Char) : Bool :=
  let ls := Address.parts name
  decide (name.length ≤ longestName) && !ls.isEmpty && ls.all isLabel
    && !(ls.getLast?.any (·.all Char.isDigit))

def isServerName (name : String) : Bool :=
  isHostName name.toList || (Address.tail? name.toList).isSome
    || (Address.grouped? name.toList).isSome

end TokenCourier.Url
