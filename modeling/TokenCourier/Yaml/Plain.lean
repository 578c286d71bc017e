import TokenCourier.Text.Decimal

namespace TokenCourier.Yaml

/-- A value that is no text. Of numbers only the spelling is kept. -/
inductive Plain where
  | null
  | bool (b : Bool)
  | number (spelling : String)
deriving DecidableEq

namespace Plain

def isNull (s : String) : Bool := ["null", "Null", "NULL", "~"].contains s

def bool? (s : String) : Option Bool :=
  if ["true", "True", "TRUE"].contains s then some true
  else if ["false", "False", "FALSE"].contains s then some false
  else none

def isSign (c : Char) : Bool := c = '+' || c = '-'

def unsigned (cs : List Char) : List Char := if cs.head?.any isSign then cs.drop 1 else cs

def zeroLed (cs : List Char) : Bool :=
  match unsigned cs with
  | '0' :: d :: ds => (d :: ds).all Char.isDigit
  | _ => false

def natural? (base : Nat) (cs : List Char) : Option Nat :=
  if cs.isEmpty then none else cs.foldlM (fun n c => (digitIn? base c).map (base * n + ·)) 0

def magnitude? (cs : List Char) : Option Nat :=
  match unsigned cs with
  | '0' :: 'x' :: ds => natural? 16 ds
  | '0' :: 'o' :: ds => natural? 8 ds
  | '0' :: 'b' :: ds => natural? 2 ds
  | ds => if zeroLed cs then none else natural? 10 ds

/-- The digits of a fraction, which has one at least, and what follows them: all of them as a
number, and how many stand after the point. -/
def fraction? (cs : List Char) : Option (Nat × Nat × List Char) := do
  let whole := cs.takeWhile Char.isDigit
  let rest := cs.drop whole.length
  let part := if rest.head? = some '.' then (rest.drop 1).takeWhile Char.isDigit else []
  let rest := if rest.head? = some '.' then rest.drop (1 + part.length) else rest
  return (← natural? 10 (whole ++ part), part.length, rest)

def exponent? : List Char → Option Int
  | [] => some 0
  | e :: cs =>
    if e = 'e' || e = 'E' then
      (natural? 10 (unsigned cs)).map fun n => if cs.head? = some '-' then -(n : Int) else n
    else none

def huge : Nat := Nat.pow 2 1024 - Nat.pow 2 970

def isFinite (m : Nat) (e : Int) : Bool :=
  let size := (Nat.toDigits 10 m).length + e
  if m = 0 || size < 300 then true
  else if 320 < size then false
  else if 0 ≤ e then m * Nat.pow 10 e.toNat < huge
  else m < huge * Nat.pow 10 (-e).toNat

def isFraction (cs : List Char) : Bool :=
  !zeroLed cs &&
    match fraction? (unsigned cs) with
    | none => false
    | some (m, scale, rest) => (exponent? rest).any fun e => isFinite m (e - scale)

def isSpecial (s : String) : Bool :=
  [".nan", ".NaN", ".NAN"].contains s ||
    [".inf", ".Inf", ".INF"].contains (String.ofList (unsigned s.toList))

/-- A whole number that is too wide to be kept, though not for a number of double precision. -/
def isWide (cs : List Char) : Bool :=
  (magnitude? cs).any fun n =>
    if cs.head? = some '-' then decide (Nat.pow 2 63 < n ∧ n ≤ Nat.pow 2 127)
    else decide (Nat.pow 2 64 ≤ n ∧ n < Nat.pow 2 128)

def isWhole (cs : List Char) : Bool :=
  (magnitude? cs).any fun n =>
    if cs.head? = some '-' then decide (n ≤ Nat.pow 2 63) else decide (n < Nat.pow 2 64)

def isNumber (s : String) : Bool := isWhole s.toList || isFraction s.toList || isSpecial s

def ofText? (s : String) : Option Plain :=
  if s = "" || isNull s then some .null
  else
    match bool? s with
    | some b => some (.bool b)
    | none => if isNumber s then some (.number s) else none

end Plain

end TokenCourier.Yaml
