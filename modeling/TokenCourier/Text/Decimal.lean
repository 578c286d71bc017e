namespace TokenCourier

inductive NumberFault where
  | empty | digit | overflow
deriving DecidableEq, Repr

def NumberFault.message : NumberFault → String
  | .empty => "cannot parse integer from empty string"
  | .digit => "invalid digit found in string"
  | .overflow => "number too large to fit in target type"

def digitIn? (base : Nat) (c : Char) : Option Nat :=
  let n :=
    if c.isDigit then c.toNat - 48
    else if 'a' ≤ c ∧ c ≤ 'f' then c.toNat - 87
    else if 'A' ≤ c ∧ c ≤ 'F' then c.toNat - 55
    else 16
  if n < base then some n else none

namespace Decimal

/-- Goes on from the number read so far, which stays up to `most`. -/
def digits (most : Nat) : Nat → List Char → Except NumberFault Nat
  | n, [] => .ok n
  | n, c :: cs =>
    if !c.isDigit then .error .digit
    else if most < 10 * n + (c.toNat - 48) then .error .overflow
    else digits most (10 * n + (c.toNat - 48)) cs

def read (most : Nat) (s : String) : Except NumberFault Nat :=
  match s.toList with
  | [] => .error .empty
  | ['+'] => .error .digit
  | '+' :: cs => digits most 0 cs
  | cs => digits most 0 cs

end Decimal

end TokenCourier
