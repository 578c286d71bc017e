namespace TokenCourier

/-- `real` holds a number that is no 64-bit whole number, as written, with a point or an exponent.
`unreadable` stands for a well-formed text without a value: an unpaired surrogate escape, or a
number beyond the doubles. Only a reader that ignores the value accepts it. -/
inductive Json where
  | null
  | bool (b : Bool)
  | int (n : Int)
  | real (text : String)
  | str (s : String)
  | arr (items : List Json)
  | obj (members : List (String × Json))
  | unreadable
deriving Inhabited

namespace Json

def string? : Json → Option String
  | .str s => some s
  | _ => none

def bool? : Json → Option Bool
  | .bool b => some b
  | _ => none

def items? : Json → Option (List Json)
  | .arr vs => some vs
  | _ => none

def members? : Json → Option (List (String × Json))
  | .obj ms => some ms
  | _ => none

/-- A whole number in a closed range. -/
def within? (lo hi : Int) : Json → Option Int
  | .int n => if lo ≤ n ∧ n ≤ hi then some n else none
  | _ => none

def get? (name : String) : Json → Option Json
  | .obj ms => (ms.reverse.find? (·.1 == name)).map (·.2)
  | _ => none

mutual

/-- The levels of nesting. -/
def depth : Json → Nat
  | .arr vs => depthItems vs + 1
  | .obj ms => depthMembers ms + 1
  | _ => 0

def depthItems : List Json → Nat
  | [] => 0
  | v :: vs => max (depth v) (depthItems vs)

def depthMembers : List (String × Json) → Nat
  | [] => 0
  | (_, v) :: ms => max (depth v) (depthMembers ms)

end

mutual

def readable : Json → Bool
  | .arr vs => readableItems vs
  | .obj ms => readableMembers ms
  | .unreadable => false
  | _ => true

def readableItems : List Json → Bool
  | [] => true
  | v :: vs => readable v && readableItems vs

def readableMembers : List (String × Json) → Bool
  | [] => true
  | (_, v) :: ms => readable v && readableMembers ms

end

def maxDepth : Nat := 127

/-- A value taken whole, whatever it is, so many levels below the top of a text. -/
def any? (level : Nat) (v : Json) : Option Json :=
  if readable v && decide (level + depth v ≤ maxDepth) then some v else none

def insertMember (ms : List (String × Json)) (name : String) (v : Json) : List (String × Json) :=
  match ms with
  | [] => [(name, v)]
  | (n, w) :: rest =>
    if name < n then (name, v) :: (n, w) :: rest
    else if name = n then (name, v) :: rest
    else (n, w) :: insertMember rest name v

mutual

/-- The value with the members of every object in order of their names, the last of a name kept. -/
def sorted : Json → Json
  | .arr vs => .arr (sortedItems vs)
  | .obj ms => .obj (sortedMembers ms [])
  | v => v

def sortedItems : List Json → List Json
  | [] => []
  | v :: vs => sorted v :: sortedItems vs

def sortedMembers : List (String × Json) → List (String × Json) → List (String × Json)
  | [], done => done
  | (n, v) :: ms, done => sortedMembers ms (insertMember done n (sorted v))

end

end Json

end TokenCourier
