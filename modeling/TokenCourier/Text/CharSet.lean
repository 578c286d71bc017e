namespace TokenCourier

structure CharSet where
  ranges : List (Nat × Nat)

namespace CharSet

def hexNat (cs : List Char) : Nat :=
  cs.foldl (fun n c => 16 * n + if c.isDigit then c.toNat - 48 else c.toNat - 87) 0

def parts (p : Char → Bool) : List Char → List (List Char)
  | [] => [[]]
  | c :: cs =>
    match p c, parts p cs with
    | true, ws => [] :: ws
    | false, w :: ws => (c :: w) :: ws
    | false, [] => [[c]]

def words (cs : List Char) : List (List Char) :=
  (parts (fun c => c = ' ' || c = '\n') cs).filter (!·.isEmpty)

def range (word : List Char) : Nat × Nat :=
  match parts (· = '-') word with
  | [a, b] => (hexNat a, hexNat b)
  | _ => (hexNat word, hexNat word)

def ofText (s : String) : CharSet :=
  ⟨(words s.toList).map range⟩

def contains (s : CharSet) (c : Char) : Bool :=
  s.ranges.any fun r => r.1 ≤ c.toNat && c.toNat ≤ r.2

def rows (s : String) : List (List Nat) :=
  (words s.toList).map fun row => (parts (· = ':') row).map hexNat

end CharSet

end TokenCourier

namespace TokenCourier.Space

/-- The property `White_Space`. -/
def isSpace (c : Char) : Bool :=
  c.isWhitespace || c = '\x0b' || c = '\x0c' || c = '\u0085' || c = '\u00a0' || c = '\u1680'
    || ('\u2000' ≤ c && c ≤ '\u200a') || c = '\u2028' || c = '\u2029' || c = '\u202f'
    || c = '\u205f' || c = '\u3000'

def skip (cs : List Char) : List Char := cs.dropWhile isSpace

def trimEnd (cs : List Char) : List Char := (skip cs.reverse).reverse

def trim (s : String) : String := String.ofList (trimEnd (skip s.toList))

end TokenCourier.Space
