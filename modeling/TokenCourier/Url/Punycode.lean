namespace TokenCourier.Punycode

def digit (n : Nat) : Char := if n < 26 then Char.ofNat (97 + n) else Char.ofNat (22 + n)

def value? (c : Char) : Option Nat :=
  if 'a' ≤ c ∧ c ≤ 'z' then some (c.toNat - 97)
  else if 'A' ≤ c ∧ c ≤ 'Z' then some (c.toNat - 65)
  else if c.isDigit then some (c.toNat - 22)
  else none

def threshold (bias place : Nat) : Nat := max 1 (min 26 (place - bias))

theorem threshold_pos (bias place : Nat) : 1 ≤ threshold bias place := by
  unfold threshold; omega

def damp (delta place : Nat) : Nat :=
  if 455 < delta then damp (delta / 35) (place + 36) else place + 36 * delta / (delta + 38)
termination_by delta
decreasing_by omega

def adapt (delta count : Nat) (first : Bool) : Nat :=
  let d := if first then delta / 700 else delta / 2
  damp (d + d / count) 0

def digits (bias place q : Nat) : List Char :=
  let t := threshold bias place
  if q < t then [digit q]
  else digit (t + (q - t) % (36 - t)) :: digits bias (place + 36) ((q - t) / (36 - t))
termination_by q
decreasing_by
  have h₁ := threshold_pos bias place
  have h₂ := Nat.div_le_self (q - threshold bias place) (36 - threshold bias place)
  omega

/-- The encoder between two characters: the digits so far, the distance since the last insertion,
the bias, and how many characters stand. -/
structure Writer where
  out : List Char := []
  delta : Nat := 0
  bias : Nat := 72
  count : Nat
  first : Bool := true

def Writer.visit (point : Nat) (w : Writer) (c : Char) : Writer :=
  if c.toNat < point then { w with delta := w.delta + 1 }
  else if c.toNat = point then
    { out := w.out ++ digits w.bias 36 w.delta, delta := 0,
      bias := adapt w.delta (w.count + 1) w.first, count := w.count + 1, first := false }
  else w

def writePoints (label : List Char) : List Nat → Nat → Writer → Writer
  | [], _, w => w
  | point :: points, next, w =>
    let w := label.foldl (Writer.visit point)
      { w with delta := w.delta + (point - next) * (w.count + 1) }
    writePoints label points (point + 1) { w with delta := w.delta + 1 }

def insertPoint (n : Nat) : List Nat → List Nat
  | [] => [n]
  | m :: ms => if n < m then n :: m :: ms else if n = m then m :: ms else m :: insertPoint n ms

def ascii (c : Char) : Bool := c.toNat < 128

def encode (label : List Char) : List Char :=
  let basic := label.filter ascii
  let points := (label.filter (!ascii ·)).foldl (fun ps c => insertPoint c.toNat ps) []
  (if basic.isEmpty then [] else basic ++ ['-'])
    ++ (writePoints label points 128 { count := basic.length }).out

/-- The decoder inside a number: what it adds to the position, the weight of the next digit, and its
place. -/
structure Reader where
  label : List Char
  point : Nat := 128
  index : Nat := 0
  bias : Nat := 72
  start : Nat := 0
  weight : Nat := 1
  place : Nat := 36

def point? (n : Nat) : Option Char :=
  if n.isValidChar then some (Char.ofNat n) else none

def word : Nat := Nat.pow 2 32

def Reader.step (r : Reader) (c : Char) : Option Reader := do
  let d ← value? c
  let i := r.index + d * r.weight
  let t := threshold r.bias r.place
  guard (i < word)
  if d < t then
    let n := r.label.length + 1
    let point := r.point + i / n
    let index := i % n
    let c ← point? point
    some {
      label := r.label.take index ++ c :: r.label.drop index
      point
      index := index + 1
      bias := adapt (i - r.start) n (r.start == 0)
      start := index + 1 }
  else
    guard (r.weight * (36 - t) < word)
    some { r with index := i, weight := r.weight * (36 - t), place := r.place + 36 }

/-- What stands before the last hyphen is literal. -/
def decode? (text : List Char) : Option (List Char) := do
  let tail := (text.reverse.takeWhile (· != '-')).reverse
  let literal := (text.take (text.length - tail.length)).dropLast
  let rest := if literal.isEmpty then text else tail
  let r ← rest.foldlM Reader.step ({ label := literal } : Reader)
  if r.place = 36 then some r.label else none

end TokenCourier.Punycode
