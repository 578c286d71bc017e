import TokenCourier.Text.CharSet

namespace TokenCourier

inductive Version where
  | stable (major : Nat)
  | beta (major : Nat) (minor : Option Nat)
  | alpha (major : Nat) (minor : Option Nat)
  | other (name : String)
deriving DecidableEq

namespace Version

def number? (cs : List Char) : Option Nat :=
  let digits := match cs with
    | '+' :: ds => ds
    | ds => ds
  if digits.isEmpty || !digits.all Char.isDigit then none
  else
    let n := digits.foldl (fun n c => 10 * n + (c.toNat - 48)) 0
    if n < Nat.pow 2 32 then some n else none

def minor? (cs : List Char) : Option (Option Nat) :=
  if cs.isEmpty then some none else (number? cs).map some

def parse? (cs : List Char) : Option Version := do
  let 'v' :: cs := cs | none
  let major ← number? (cs.takeWhile Char.isDigit)
  match cs.dropWhile Char.isDigit with
  | [] => some (.stable major)
  | 'a' :: 'l' :: 'p' :: 'h' :: 'a' :: cs => (minor? cs).map (.alpha major)
  | 'b' :: 'e' :: 't' :: 'a' :: cs => (minor? cs).map (.beta major)
  | _ => none

def ofName (name : String) : Version := (parse? name.toList).getD (.other name)

/-- A beta or alpha without a number comes before the numbered ones. -/
def rank : Version → Nat × Nat × Nat
  | .stable major => (3, major, 0)
  | .beta major minor => (2, major, minor.elim 0 (· + 1))
  | .alpha major minor => (1, major, minor.elim 0 (· + 1))
  | .other _ => (0, 0, 0)

def before (a b : Nat × Nat × Nat) : Bool :=
  a.1 < b.1 || (a.1 = b.1 && (a.2.1 < b.2.1 || (a.2.1 = b.2.1 && a.2.2 < b.2.2)))

/-- Names of no form go in the order of the alphabet, the first one the latest. -/
def isLater : Version → Version → Bool
  | .other a, .other b => a < b
  | a, b => before b.rank a.rank

def latest (name : String) (names : List String) : String :=
  names.foldl (fun best n => if isLater (ofName n) (ofName best) then n else best) name

end Version

end TokenCourier
