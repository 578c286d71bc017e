import TokenCourier.Unicode.Composites

namespace TokenCourier.Composed

def markClass (c : Char) : Nat :=
  if c.toNat < 0x300 then 0
  else ((Composites.classes.find? fun k => k.2.contains c).map (·.1)).getD 0

def syllableParts? (c : Char) : Option (Char × Char) :=
  let n := c.toNat
  if 0xAC00 ≤ n ∧ n ≤ 0xD7A3 then
    let i := n - 0xAC00
    if i % 28 = 0 then some (Char.ofNat (0x1100 + i / 588), Char.ofNat (0x1161 + i % 588 / 28))
    else some (Char.ofNat (n - i % 28), Char.ofNat (0x11A7 + i % 28))
  else none

def syllable? (a b : Char) : Option Char :=
  let m := a.toNat
  let n := b.toNat
  if 0x1100 ≤ m ∧ m < 0x1113 ∧ 0x1161 ≤ n ∧ n < 0x1176 then
    some (Char.ofNat (0xAC00 + (m - 0x1100) * 588 + (n - 0x1161) * 28))
  else if 0xAC00 ≤ m ∧ m ≤ 0xD7A3 ∧ (m - 0xAC00) % 28 = 0 ∧ 0x11A7 < n ∧ n < 0x11C3 then
    some (Char.ofNat (m + (n - 0x11A7)))
  else none

def parts? (c : Char) : Option (Char × Char) :=
  if c.toNat < 0xC0 then none else
  match syllableParts? c with
  | some p => some p
  | none =>
    match Composites.pairs.find? (·.head? == some c.toNat) with
    | some [_, a, b] => some (Char.ofNat a, Char.ofNat b)
    | _ => none

def pair? (a b : Char) : Option Char :=
  if b.toNat < 0x300 then none else
  match syllable? a b with
  | some c => some c
  | none =>
    match Composites.pairs.find? (·.drop 1 == [a.toNat, b.toNat]) with
    | some (c :: _) => some (Char.ofNat c)
    | _ => none

/-- Only the first part of a composite can be a composite again. -/
def split : Nat → Char → List Char
  | 0, c => [c]
  | n + 1, c =>
    match parts? c with
    | some (a, b) => split n a ++ [b]
    | none => [c]

def depth : Nat := 4

/-- Puts a mark behind the marks of no higher class. The marks are in reverse. -/
def insertMark (x : Char × Nat) : List (Char × Nat) → List (Char × Nat)
  | [] => [x]
  | y :: ys => if x.2 ≠ 0 ∧ x.2 < y.2 then y :: insertMark x ys else x :: y :: ys

def ordered (cs : List Char) : List (Char × Nat) :=
  ((cs.map fun c => (c, markClass c)).foldl (fun done x => insertMark x done) []).reverse

/-- What is behind the current base, the base, and its marks, all but the base in reverse. -/
structure Joiner where
  done : List Char := []
  base : Option Char := none
  marks : List (Char × Nat) := []

namespace Joiner

def flush (j : Joiner) : List Char := j.marks.map (·.1) ++ (j.base.toList ++ j.done)

def step (j : Joiner) (x : Char × Nat) : Joiner :=
  let reaches := match j.marks with
    | [] => true
    | y :: _ => decide (y.2 < x.2)
  match j.base, if reaches then j.base.bind (pair? · x.1) else none with
  | _, some c => { j with base := some c }
  | _, none =>
    if x.2 = 0 then ⟨j.flush, some x.1, []⟩ else { j with marks := x :: j.marks }

end Joiner

def compose (cs : List Char) : List Char :=
  ((ordered (cs.flatMap (split depth))).foldl Joiner.step {}).flush.reverse

end TokenCourier.Composed
