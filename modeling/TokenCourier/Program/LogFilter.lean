import TokenCourier.Api.Exchange
import TokenCourier.Text.CharSet

namespace TokenCourier

/-- A directive for lines outside all spans. `field` is one that a line has to have. -/
structure Directive where
  place : Option String
  field : Option String
  threshold : Nat
deriving DecidableEq

abbrev LogFilter := List Directive

def Level.rank : Level → Nat
  | .error => 1
  | .warn => 2
  | .info => 3

namespace Directive

def thresholds : List (String × Nat) :=
  [("off", 0), ("error", 1), ("warn", 2), ("info", 3), ("debug", 4), ("trace", 5)]

def trace : Nat := 5

def number? (cs : List Char) : Option Nat :=
  let ds := if cs.head? = some '+' then cs.drop 1 else cs
  if ds.isEmpty || !ds.all Char.isDigit then none
  else
    let n := ds.foldl (fun n c => 10 * n + (c.toNat - 48)) 0
    if n ≤ trace then some n else none

def threshold? (s : List Char) : Option Nat :=
  number? s <|> thresholds.lookup (String.ofList (s.map Char.toLower))

def level? (s : List Char) : Option Nat := if s.isEmpty then some trace else threshold? s

def starts (c : Char) : Bool :=
  c.isAlphanum || 127 < c.toNat || c = '-' || c = ':' || c = '_' || c = '['

def afterSpan? : List Char → Option Nat
  | [] => some trace
  | '=' :: level => level? level
  | _ => none

/-- A directive about lines within a span is none for those outside. -/
def span? (place : Option String) (cs : List Char) : Option (Option Directive) :=
  let name := cs.takeWhile fun c => c != ']' && c != '{'
  match cs.drop name.length with
  | ']' :: rest => (afterSpan? rest).map fun _ => none
  | '{' :: rest =>
    let field := rest.takeWhile (· != '}')
    match rest.drop field.length with
    | '}' :: ']' :: rest =>
      if field.isEmpty then none
      else
        (afterSpan? rest).map fun threshold =>
          if name.isEmpty && !field.contains '=' then
            some ⟨place, some (Space.trim (String.ofList field)), threshold⟩
          else none
    | _ => none
  | _ => none

/-- Reads a directive; `none` within for one that is not about lines outside all spans. -/
def parse? (cs : List Char) : Option (Option Directive) :=
  match cs with
  | [] => none
  | '[' :: rest => span? none rest
  | c :: _ =>
    if !starts c then none
    else
      let place := cs.takeWhile fun c => c != '=' && c != '['
      match cs.drop place.length with
      | '=' :: level => (level? level).map fun n => some ⟨some (String.ofList place), none, n⟩
      | '[' :: rest => span? (some (String.ofList place)) rest
      | _ =>
        match threshold? cs with
        | some n => some (some ⟨none, none, n⟩)
        | none => some (some ⟨some (String.ofList place), none, trace⟩)

def fits (d : Directive) (place : String) : Bool :=
  d.place.all (fun p => p.toList.isPrefixOf place.toList) && d.field.all (· == "message")

def outweighs (d e : Directive) : Bool :=
  let length (d : Directive) := (d.place.map fun p => p.length + 1).getD 0
  if length d = length e then e.field.isNone || d.field.isSome else length e < length d

end Directive

namespace LogFilter

def source : String := "RUST_LOG"

def ofLevel (l : Level) : LogFilter := [⟨none, none, l.rank⟩]

/-- Without any directive only errors are shown. -/
def parse? (s : String) : Option LogFilter := do
  let words := (s.splitOn ",").filter (· != "")
  let found ← words.mapM fun w => Directive.parse? w.toList
  return if words.isEmpty then ofLevel .error else found.filterMap id

def ofVariable (s : Option String) : LogFilter := (s.bind parse?).getD (ofLevel .info)

/-- Of directives that weigh the same the last one decides. -/
def directive? (f : LogFilter) (place : String) : Option Directive :=
  (f.filter (·.fits place)).foldl
    (fun best d => if best.all (d.outweighs ·) then some d else best) none

def shows (f : LogFilter) (r : Remark) : Bool :=
  (f.directive? r.place.text).any fun d => r.line.level.rank ≤ d.threshold

end LogFilter

end TokenCourier
