namespace TokenCourier.Utf8

/-- `incomplete` is a sequence that the end of the text cuts short. -/
inductive Fault where
  | invalid (length index : Nat)
  | incomplete (index : Nat)
deriving DecidableEq, Repr

def Fault.message : Fault → String
  | .invalid n i => s!"invalid utf-8 sequence of {n} bytes from index {i}"
  | .incomplete i => s!"incomplete utf-8 byte sequence from index {i}"

def isTail (b : UInt8) : Bool := 0x80 ≤ b && b ≤ 0xBF

def isSecond (first b : UInt8) : Bool :=
  if first = 0xE0 then 0xA0 ≤ b && b ≤ 0xBF
  else if first = 0xED then 0x80 ≤ b && b ≤ 0x9F
  else if first = 0xF0 then 0x90 ≤ b && b ≤ 0xBF
  else if first = 0xF4 then 0x80 ≤ b && b ≤ 0x8F
  else isTail b

def tails? (b : UInt8) : Option Nat :=
  if b ≤ 0x7F then some 0
  else if 0xC2 ≤ b && b ≤ 0xDF then some 1
  else if 0xE0 ≤ b && b ≤ 0xEF then some 2
  else if 0xF0 ≤ b && b ≤ 0xF4 then some 3
  else none

/-- Inside a sequence that began at `start` with `first`: `seen` bytes were taken, `left` remain. -/
structure Open where
  start : Nat
  first : UInt8
  seen : Nat
  left : Nat

def scan : Nat → Option Open → List UInt8 → Option Fault
  | _, none, [] => none
  | _, some o, [] => some (.incomplete o.start)
  | i, none, b :: bs =>
    match tails? b with
    | none => some (.invalid 1 i)
    | some 0 => scan (i + 1) none bs
    | some n => scan (i + 1) (some ⟨i, b, 1, n⟩) bs
  | i, some o, b :: bs =>
    if (if o.seen = 1 then isSecond o.first b else isTail b) then
      let o := if o.left = 1 then none else some { o with seen := o.seen + 1, left := o.left - 1 }
      scan (i + 1) o bs
    else some (.invalid o.seen o.start)

def fault (bytes : ByteArray) : Fault := (scan 0 none bytes.toList).getD (.incomplete bytes.size)

def decode (bytes : ByteArray) : Except Fault String :=
  match String.fromUTF8? bytes with
  | some s => .ok s
  | none => .error (fault bytes)

end TokenCourier.Utf8

namespace TokenCourier.Bytes

def ofString (s : String) : List UInt8 := s.toUTF8.toList

def until? (mark : List UInt8) : List UInt8 → Option (List UInt8 × List UInt8)
  | [] => if mark.isEmpty then some ([], []) else none
  | b :: bs =>
    if mark.isPrefixOf (b :: bs) then some ([], (b :: bs).drop mark.length)
    else (until? mark bs).map fun (before, after) => (b :: before, after)

end TokenCourier.Bytes
