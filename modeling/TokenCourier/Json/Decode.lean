import TokenCourier.Json.Reader

namespace TokenCourier.Json

variable {α : Type}

/-- `none` if some occurrence of the member is of another type, `some none` if it is absent. -/
def last? (name : String) (f : Json → Option α) (ms : List (String × Json)) : Option (Option α) :=
  ms.foldlM
    (fun seen m =>
      if m.1 = name then
        match m.2 with
        | .null => some none
        | v => (f v).map some
      else some seen)
    none

def every (name : String) (p : Json → Bool) (ms : List (String × Json)) : Bool :=
  ms.all fun m => m.1 != name || p m.2

def optional (name : String) (f : Json → Option α) (ms : List (String × Json)) : Bool :=
  every name (fun v => match v with
    | .null => true
    | v => (f v).isSome) ms

def list? (f : Json → Option α) (v : Json) : Option (List α) := v.items?.bind (·.mapM f)

def map? (f : Json → Option α) (v : Json) : Option (List (String × α)) :=
  v.members?.bind (·.mapM fun m => (f m.2).map (m.1, ·))

/-- The fields of a strict record, in the order of their names. An array may leave out the last
`spare` of them. -/
def slots? (names : List String) (spare : Nat) : Json → Option (List (Option Json))
  | .obj ms =>
    names.mapM fun n =>
      match ms.filter (·.1 == n) with
      | [] => some none
      | [m] => some (some m.2)
      | _ => none
  | .arr vs =>
    if vs.length ≤ names.length ∧ names.length ≤ vs.length + spare then
      some (vs.map some ++ List.replicate (names.length - vs.length) none)
    else none
  | _ => none

def maybe? (f : Json → Option α) : Option Json → Option (Option α)
  | none | some .null => some none
  | some v => (f v).map some

def orElse? (d : α) (f : Json → Option α) : Option Json → Option α
  | none => some d
  | some v => f v

def required? (f : Json → Option α) (slot : Option Json) : Option α := slot.bind f

/-- One of a set of words, as a string or as an object with that word as its only name. -/
def word? (words : List String) : Json → Option String
  | .str s => if words.contains s then some s else none
  | .obj [(s, .null)] => if words.contains s then some s else none
  | _ => none

def uint16? (v : Json) : Option Nat := (v.within? 0 65535).map Int.toNat

def int64? (v : Json) : Option Int := v.within? (-9223372036854775808) 9223372036854775807

end TokenCourier.Json
