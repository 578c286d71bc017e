import TokenCourier.Json.Basic
import TokenCourier.Text.Decimal

namespace TokenCourier.Json

inductive Fault where
  | incomplete
  | malformed
deriving DecidableEq, Repr

inductive Frame where
  | arr (done : List Json)
  | obj (done : List (String × Json)) (sound : Bool)
  | member (name : String) (done : List (String × Json)) (sound : Bool)

/-- A string part way through, its characters in reverse. `high` is a leading surrogate that waits
for its trailing one; a string that lost one is not sound. -/
structure Quoted where
  chars : List Char := []
  high : Option Nat := none
  sound : Bool := true

namespace Quoted

/-- A leading surrogate that found no trailing one. -/
def settle (q : Quoted) : Quoted :=
  match q.high with
  | none => q
  | some _ => { q with high := none, sound := false }

def push (q : Quoted) (c : Char) : Quoted :=
  let q := q.settle
  { q with chars := c :: q.chars }

def unit (q : Quoted) (n : Nat) : Quoted :=
  if 0xD800 ≤ n ∧ n ≤ 0xDBFF then { q.settle with high := some n }
  else if 0xDC00 ≤ n ∧ n ≤ 0xDFFF then
    match q.high with
    | some h =>
      { q with high := none
               chars := Char.ofNat (0x10000 + (h - 0xD800) * 0x400 + (n - 0xDC00)) :: q.chars }
    | none => { q with sound := false }
  else q.push (Char.ofNat n)

def text (q : Quoted) : String := String.ofList q.chars.reverse

end Quoted

inductive NumberPart where
  | sign | zero | whole | point | fraction | mark | markSign | power
deriving DecidableEq

inductive Mode where
  | value (close : Bool)
  | name (close : Bool)
  | colon
  | after
  | quoted (q : Quoted)
  | escape (q : Quoted)
  | hex (q : Quoted) (left : Nat) (acc : Nat)
  | number (part : NumberPart) (chars : List Char)
  | word (left : List Char) (v : Json)

structure Reader where
  stack : List Frame := []
  mode : Mode := .value false
  result : Option Json := none

def blank (c : Char) : Bool := c = ' ' || c = '\n' || c = '\t' || c = '\r'

namespace Reader

/-- A value is complete and goes to the innermost frame. -/
def put (r : Reader) (v : Json) : Reader :=
  match r.stack with
  | [] => { r with result := some v, mode := .after }
  | .arr done :: k => { r with stack := .arr (v :: done) :: k, mode := .after }
  | .member n done s :: k => { r with stack := .obj ((n, v) :: done) s :: k, mode := .after }
  | .obj _ _ :: _ => r

def closeItems (r : Reader) : Except Fault Reader :=
  match r.stack with
  | .arr done :: k => .ok ({ r with stack := k }.put (.arr done.reverse))
  | _ => .error .malformed

/-- An object with an unsound name has no value. -/
def closeMembers (r : Reader) : Except Fault Reader :=
  match r.stack with
  | .obj done s :: k =>
    .ok ({ r with stack := k }.put (if s then .obj done.reverse else .unreadable))
  | _ => .error .malformed

def putQuoted (r : Reader) (q : Quoted) : Reader :=
  let q := q.settle
  match r.stack, r.result with
  | .obj done s :: k, _ =>
    { r with stack := .member q.text done (s && q.sound) :: k, mode := .colon }
  | _, _ => r.put (if q.sound then .str q.text else .unreadable)

end Reader

def digitsValue (cs : List Char) : Nat :=
  cs.foldl (fun n c => 10 * n + (c.toNat - '0'.toNat)) 0

/-- The value of a number's characters. A zero with a minus sign is not whole. -/
def numberValue (cs : List Char) : Json :=
  let negative := cs.head? = some '-'
  let body := if negative then cs.drop 1 else cs
  let whole := body.takeWhile Char.isDigit
  let rest := body.dropWhile Char.isDigit
  if rest.isEmpty && !(negative && whole == ['0'])
      && decide (digitsValue whole ≤ if negative then Nat.pow 2 63 else Nat.pow 2 64 - 1) then
    .int (if negative then -(digitsValue whole : Int) else digitsValue whole)
  else
    let fraction := if rest.head? = some '.' then (rest.drop 1).takeWhile Char.isDigit else []
    let mark := (rest.dropWhile fun c => c != 'e' && c != 'E').drop 1
    let power : Int :=
      match mark with
      | '-' :: ds => -(digitsValue ds : Int)
      | '+' :: ds => digitsValue ds
      | ds => digitsValue ds
    let digits := (whole ++ fraction).dropWhile (· == '0')
    let scale : Int := power - fraction.length
    if !digits.isEmpty && decide (309 < digits.length + scale) then .unreadable
    else if decide (digits.length + scale = 309) &&
        decide ((Nat.pow 2 1024 - Nat.pow 2 970) * Nat.pow 10 (-scale).toNat
          ≤ digitsValue digits * Nat.pow 10 scale.toNat) then .unreadable
    else .real (String.ofList (if rest.isEmpty then cs ++ ['.', '0'] else cs))

def unescape? (c : Char) : Option Char :=
  match c with
  | '"' => some '"'
  | '\\' => some '\\'
  | '/' => some '/'
  | 'b' => some '\x08'
  | 'f' => some '\x0c'
  | 'n' => some '\n'
  | 'r' => some '\r'
  | 't' => some '\t'
  | _ => none

def NumberPart.next? (p : NumberPart) (c : Char) : Except Fault (Option NumberPart) :=
  let e := c = 'e' ∨ c = 'E'
  match p with
  | .sign => if c = '0' then .ok (some .zero)
             else if c.isDigit then .ok (some .whole) else .error .malformed
  | .zero => if c.isDigit then .error .malformed
             else if c = '.' then .ok (some .point)
             else if e then .ok (some .mark) else .ok none
  | .whole => if c.isDigit then .ok (some .whole)
              else if c = '.' then .ok (some .point)
              else if e then .ok (some .mark) else .ok none
  | .point => if c.isDigit then .ok (some .fraction) else .error .malformed
  | .fraction => if c.isDigit then .ok (some .fraction)
                 else if e then .ok (some .mark) else .ok none
  | .mark => if c = '+' ∨ c = '-' then .ok (some .markSign)
             else if c.isDigit then .ok (some .power) else .error .malformed
  | .markSign => if c.isDigit then .ok (some .power) else .error .malformed
  | .power => if c.isDigit then .ok (some .power) else .ok none

def NumberPart.complete : NumberPart → Bool
  | .zero | .whole | .fraction | .power => true
  | _ => false

namespace Reader

/-- A character between tokens. -/
def structural (r : Reader) (c : Char) : Except Fault Reader :=
  if blank c then .ok r else
  match r.mode with
  | .value close =>
    if c = ']' ∧ close then r.closeItems
    else if c = '[' then .ok { r with stack := .arr [] :: r.stack, mode := .value true }
    else if c = '\x7b' then .ok { r with stack := .obj [] true :: r.stack, mode := .name true }
    else if c = '"' then .ok { r with mode := .quoted {} }
    else if c = '-' then .ok { r with mode := .number .sign [c] }
    else if c = '0' then .ok { r with mode := .number .zero [c] }
    else if c.isDigit then .ok { r with mode := .number .whole [c] }
    else if c = 't' then .ok { r with mode := .word ['r', 'u', 'e'] (.bool true) }
    else if c = 'f' then .ok { r with mode := .word ['a', 'l', 's', 'e'] (.bool false) }
    else if c = 'n' then .ok { r with mode := .word ['u', 'l', 'l'] .null }
    else .error .malformed
  | .name close =>
    if c = '\x7d' ∧ close then r.closeMembers
    else if c = '"' then .ok { r with mode := .quoted {} }
    else .error .malformed
  | .colon => if c = ':' then .ok { r with mode := .value false } else .error .malformed
  | .after =>
    match r.stack with
    | .arr _ :: _ =>
      if c = ',' then .ok { r with mode := .value false }
      else if c = ']' then r.closeItems else .error .malformed
    | .obj _ _ :: _ =>
      if c = ',' then .ok { r with mode := .name false }
      else if c = '\x7d' then r.closeMembers else .error .malformed
    | _ => .error .malformed
  | _ => .error .malformed

def step (r : Reader) (c : Char) : Except Fault Reader :=
  match r.mode with
  | .quoted q =>
    if c = '"' then .ok (r.putQuoted q)
    else if c = '\\' then .ok { r with mode := .escape q }
    else if c.toNat < 32 then .error .malformed
    else .ok { r with mode := .quoted (q.push c) }
  | .escape q =>
    if c = 'u' then .ok { r with mode := .hex q 3 0 } else
    match unescape? c with
    | some d => .ok { r with mode := .quoted (q.push d) }
    | none => .error .malformed
  | .hex q left acc =>
    match digitIn? 16 c, left with
    | none, _ => .error .malformed
    | some d, 0 => .ok { r with mode := .quoted (q.unit (16 * acc + d)) }
    | some d, n + 1 => .ok { r with mode := .hex q n (16 * acc + d) }
  | .number p cs => do
    match ← p.next? c with
    | some p => .ok { r with mode := .number p (c :: cs) }
    | none => (r.put (numberValue cs.reverse)).structural c
  | .word (d :: ds) v =>
    if c = d then .ok (if ds.isEmpty then r.put v else { r with mode := .word ds v })
    else .error .malformed
  | _ => r.structural c

def atEnd (r : Reader) : Reader :=
  match r.mode with
  | .number p cs => if p.complete then r.put (numberValue cs.reverse) else r
  | _ => r

/-- Puts what was read last into the frames around it, as if they ended here. -/
def closeAll : Option Json → List Frame → Option Json
  | v, [] => v
  | v, .arr done :: k => closeAll (some (.arr (v.toList ++ done).reverse)) k
  | _, .obj done s :: k =>
    closeAll (some (if s then .obj done.reverse else .unreadable)) k
  | v, .member n done s :: k =>
    closeAll
      (some (if s then .obj ((v.map (n, ·)).toList ++ done).reverse else .unreadable)) k

def finish (r : Reader) : Except Fault Json :=
  let r := r.atEnd
  match r.stack, r.result with
  | [], some v => .ok v
  | _, _ => .error .incomplete

end Reader

def read (s : String) : Except Fault Json :=
  s.toList.foldlM Reader.step {} >>= Reader.finish

def read? (s : String) : Option Json := (read s).toOption

/-- What a text that breaks off holds: its complete parts, in the containers that have begun. -/
def beginning? (s : String) : Option Json := do
  let r ← (s.toList.foldlM Reader.step {}).toOption
  Reader.closeAll none r.atEnd.stack

end TokenCourier.Json
