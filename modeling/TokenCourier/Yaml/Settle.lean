import TokenCourier.Yaml.Node

namespace TokenCourier.Yaml.Node

def standardTag (name : String) : String := "tag:yaml.org,2002:" ++ name

def nullTag : String := standardTag "null"

def boolTag : String := standardTag "bool"

/-- A tag that only a reader of tagged values knows. -/
def isLocal (tag : Option String) : Bool := tag.any fun t => t.toList.head? == some '!'

def text (s : String) : Node := .scalar s .quoted none

def settlePlain? (s : String) : Option Node :=
  if Plain.isWide s.toList then none else some ((Plain.ofText? s).elim (text s) .settled)

def settleScalar? (s : String) (style : Style) (tag : Option String) : Option Node :=
  match if isLocal tag then none else tag with
  | none => if style = .plain then settlePlain? s else some (text s)
  | some tag =>
    if tag = nullTag then if Plain.isNull s then some (.settled .null) else none
    else if tag = boolTag then (Plain.bool? s).map fun b => .settled (.bool b)
    else if tag = standardTag "int" then
      if Plain.isWhole s.toList then some (.settled (.number s)) else none
    else if tag = standardTag "float" then
      if Plain.isFraction s.toList || Plain.isSpecial s then some (.settled (.number s)) else none
    else some (text s)

def sameKey : Node → Node → Bool
  | .scalar a _ _, .scalar b _ _ => a == b
  | .settled a, .settled b => a == b
  | _, _ => false

def repeats : List (Node × Node) → Bool
  | [] => false
  | (k, _) :: es => es.any (fun e => sameKey k e.1) || repeats es

def maxDepth : Nat := 128

mutual

/-- A tree with all its scalars settled. No key of a mapping is repeated. -/
def settle? : Nat → Node → Option Node
  | _, .scalar s style tag => settleScalar? s style tag
  | _, .settled v => some (.settled v)
  | n + 1, .seq _ vs => (settleItems? n vs).map (.seq none)
  | n + 1, .map _ es => ((settleEntries? n es).filter fun es => !repeats es).map (.map none)
  | _, _ => none

def settleItems? : Nat → List Node → Option (List Node)
  | _, [] => some []
  | n, v :: vs => do return (← settle? n v) :: (← settleItems? n vs)

def settleEntries? : Nat → List (Node × Node) → Option (List (Node × Node))
  | _, [] => some []
  | n, (k, v) :: es => do return (← settle? n k, ← settle? n v) :: (← settleEntries? n es)

end

end TokenCourier.Yaml.Node
