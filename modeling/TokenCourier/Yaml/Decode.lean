import TokenCourier.Yaml.Settle

namespace TokenCourier.Yaml.Node

variable {α : Type}

def string? : Node → Option String
  | .scalar t _ _ => some t
  | _ => none

def bool? : Node → Option Bool
  | .scalar t style tag =>
    if style = .plain || (style = .literal && tag = some boolTag) then Plain.bool? t else none
  | .settled (.bool b) => some b
  | _ => none

def maybe? (f : Node → Option α) (v : Node) : Option (Option α) :=
  match v with
  | .scalar t .plain (some tag) =>
    if tag = nullTag then if Plain.isNull t then some none else none else (f v).map some
  | .scalar t .plain none => if t = "" || Plain.isNull t then some none else (f v).map some
  | .settled .null => some none
  | v => (f v).map some

/-- Where a collection is meant, nothing written is an empty one. -/
def list? (f : Node → Option α) : Node → Option (List α)
  | .seq _ vs => vs.mapM f
  | .scalar "" .plain _ | .settled .null => some []
  | _ => none

def entries? : Node → Option (List (Node × Node))
  | .map _ es => some es
  | .scalar "" .plain _ | .settled .null => some []
  | _ => none

def map? (f : Node → Option α) (v : Node) : Option (List (String × α)) := do
  let es ← (← v.entries?).mapM fun (k, v) => do return (← k.string?, ← f v)
  return es.foldl (fun done e => done.filter (·.1 != e.1) ++ [e]) []

def slots? (names : List String) (spare : Nat) (v : Node) : Option (List (Option Node)) :=
  match v with
  | .seq _ vs =>
    if vs.length ≤ names.length ∧ names.length ≤ vs.length + spare then
      some (vs.map some ++ List.replicate (names.length - vs.length) none)
    else none
  | v => do
    let es ← (← v.entries?).mapM fun (k, v) => do return (← k.string?, v)
    names.mapM fun n =>
      match es.filter (·.1 == n) with
      | [] => some none
      | [e] => some (some e.2)
      | _ => none

def field? (f : Node → Option α) : Option Node → Option (Option α)
  | none => some none
  | some v => maybe? f v

def required? (f : Node → Option α) (slot : Option Node) : Option α := slot.bind f

def orElse? (d : α) (f : Node → Option α) : Option Node → Option α
  | none => some d
  | some v => f v

def listField? (f : Node → Option α) (slot : Option Node) : Option (List α) :=
  (field? (list? f) slot).map (·.getD [])

mutual

/-- A value that can be taken whole: names as keys, no tags of its own, and not too deep. -/
def isValue : Nat → Node → Bool
  | 0, _ => false
  | _ + 1, .scalar _ _ tag => !isLocal tag
  | _ + 1, .settled _ => true
  | n + 1, .seq tag vs => !isLocal tag && areValues n vs
  | n + 1, .map tag es => !isLocal tag && areEntries n es
  | _ + 1, .loop => false

def areValues : Nat → List Node → Bool
  | _, [] => true
  | n, v :: vs => isValue n v && areValues n vs

def areEntries : Nat → List (Node × Node) → Bool
  | _, [] => true
  | n, (k, v) :: es => k.string?.isSome && isValue n v && areEntries n es

end

end TokenCourier.Yaml.Node
