import TokenCourier.Text.CharSet

namespace TokenCourier

inductive TimestampFault where
  | character | short | long | range
deriving DecidableEq, Repr

def TimestampFault.message : TimestampFault → String
  | .character => "input contains invalid characters"
  | .short => "premature end of input"
  | .long => "trailing input"
  | .range => "input is out of range"

namespace Timestamp

def leapYear (y : Int) : Bool := y % 4 = 0 && (y % 100 != 0 || y % 400 = 0)

def monthDays (y : Int) (m : Nat) : Nat :=
  if m = 2 then (if leapYear y then 29 else 28)
  else if m = 4 ∨ m = 6 ∨ m = 9 ∨ m = 11 then 30 else 31

def daysBefore (y : Int) : Int := 365 * y + (y + 3) / 4 - (y + 99) / 100 + (y + 399) / 400

def epoch : Int := daysBefore 1970

def days (y : Int) (m d : Nat) : Int :=
  daysBefore y - epoch
    + ((List.range' 1 (m - 1)).foldl (fun n k => n + monthDays y k) 0 : Nat) + d - 1

def firstYear : Int := -262143

def lastYear : Int := 262142

abbrev Scan := StateT (List Char) (Except TimestampFault)

namespace Scan

def check (f : TimestampFault) (p : Bool) : Scan Unit := if p then pure () else throw f

def space : Scan Unit := modify Space.skip

def one (p : Char → Bool) : Scan Char := do
  match ← get with
  | [] => throw .short
  | c :: cs =>
    check .character (p c)
    set cs
    return c

def digits (most : Nat) : Scan Nat := do
  let cs ← get
  let ds := (cs.take most).takeWhile Char.isDigit
  check (if cs.isEmpty then .short else .character) !ds.isEmpty
  set (cs.drop ds.length)
  return ds.foldl (fun n c => 10 * n + (c.toNat - 48)) 0

def allDigits : Scan Nat := do digits (← get).length

def number (lo hi : Nat) : Scan Nat := do
  space
  let n ← digits 2
  check .range (lo ≤ n && n ≤ hi)
  return n

def mark (c : Char) : Scan Unit := do
  space
  let _ ← one (· = c)

def year : Scan Int := do
  space
  match (← get).head? with
  | some '-' => return -(← one (· = '-') *> allDigits : Nat)
  | some '+' => return (← one (· = '+') *> allDigits : Nat)
  | _ => return (← digits 4 : Nat)

def date : Scan Int := do
  let y ← year
  mark '-'
  let m ← number 1 12
  mark '-'
  let d ← number 1 31
  check .range (firstYear ≤ y && y ≤ lastYear && d ≤ monthDays y m)
  return days y m d

/-- A point is followed by a digit at least. -/
def fraction : Scan Unit := do
  if (← get).head? = some '.' then
    let _ ← one (· = '.')
    let _ ← allDigits

def time : Scan Nat := do
  let h ← number 0 23
  mark ':'
  let m ← number 0 59
  mark ':'
  let s ← number 0 60
  fraction
  return 3600 * h + 60 * m + s

def pair (limit : Nat) : Scan Nat := do
  let ds := (← get).take 2
  check .short (ds.length = 2)
  check .character (ds.all Char.isDigit)
  let n ← digits 2
  check .range (n ≤ limit)
  return n

def sign : Scan Int := do
  if (← one ['+', '-', '\u2212'].contains) = '+' then return 1 else return -1

/-- Hours and minutes in seconds; a word or a letter stands for none. -/
def offset : Scan Int := do
  let cs ← get
  let word := if (cs.head?.map Char.toUpper) = some 'Z' then 1 else 3
  if [['Z'], ['U', 'T', 'C']].contains ((cs.take word).map Char.toUpper) then
    set (cs.drop word)
    return 0
  let sign ← sign
  let h ← pair 23
  modify (·.dropWhile fun c => c = ':' || Space.isSpace c)
  let m ← pair 59
  return sign * (3600 * h + 60 * m : Nat)

def timestamp : Scan Int := do
  let days ← date
  let _ ← one ['T', 't', ' '].contains
  let seconds ← time
  space
  let offset ← offset
  space
  check .long (← get).isEmpty
  return 86400 * days + seconds - offset

end Scan

/-- The seconds from the epoch to a time in RFC 3339, read leniently: space may stand around the
parts, and numbers may lack their leading zeros. The fraction is left out. -/
def read (s : String) : Except TimestampFault Int := Scan.timestamp.run' s.toList

def valid (s : String) : Bool := (read s).toBool

end Timestamp

end TokenCourier
