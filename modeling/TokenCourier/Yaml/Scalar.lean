import TokenCourier.Text.Decimal
import TokenCourier.Yaml.Token

namespace TokenCourier.Yaml

/-- A scalar and what follows it. `crossed` tells that it ended on a later line than it could. -/
structure Scanned where
  text : List Char
  rest : List Char
  spot : Spot
  crossed : Bool := false

/-- What lies between two pieces of a scalar, in reverse. An escaped line end comes first, but is
none itself. -/
inductive Gap where
  | none
  | blanks (cs : List Char)
  | breaks (first : Option Char) (more : List Char)

namespace Gap

def add (g : Gap) (c : Char) : Gap :=
  match g, isBreak c with
  | .breaks first more, true => .breaks first (c :: more)
  | .breaks first more, false => .breaks first more
  | _, true => .breaks (some c) []
  | .blanks cs, false => .blanks (c :: cs)
  | .none, false => .blanks [c]

/-- What a gap amounts to once more text follows. -/
def fold : Gap → List Char
  | .none => []
  | .blanks cs => cs
  | .breaks (some '\n') [] => [' ']
  | .breaks (some '\n') more => more
  | .breaks first more => more ++ first.toList

def crosses : Gap → Bool
  | .breaks .. => true
  | _ => false

def isNone : Gap → Bool
  | .none => true
  | _ => false

end Gap

def flowIndicator (c : Char) : Bool :=
  c = ',' || c = '[' || c = ']' || c = '{' || c = '}'

def endsPlain (flow : Bool) (c : Char) (cs : List Char) : Bool :=
  (c = ':' && atEnd cs) || (flow && flowIndicator c)

/-- Inside brackets a colon may not stand right before an indicator. -/
def badColon (flow : Bool) (c : Char) (cs : List Char) : Bool :=
  flow && c = ':' && cs.head?.any fun d => flowIndicator d || d = '?'

def plain (flow : Bool) (margin : Nat) :
    List Char → Spot → Gap → List Char → Option Scanned
  | [], p, g, done => some ⟨done.reverse, [], p, g.crosses⟩
  | c :: cs, p, g, done =>
    if isBlank c || isBreak c then
      if c = '\t' && g.crosses && decide (p.column < margin) then none
      else plain flow margin cs (p.step c) (g.add c) done
    else if (g.crosses && !flow && decide (p.column < margin)) || (!g.isNone && c = '#')
        || atMark (c :: cs) p then
      some ⟨done.reverse, c :: cs, p, g.crosses⟩
    else if badColon flow c cs then none
    else if endsPlain flow c cs then some ⟨done.reverse, c :: cs, p, g.crosses⟩
    else plain flow margin cs (p.step c) .none (c :: (g.fold ++ done))

def escape? : Char → Option Char
  | '0' => some '\x00'
  | 'a' => some '\x07'
  | 'b' => some '\x08'
  | 't' => some '\t'
  | '\t' => some '\t'
  | 'n' => some '\n'
  | 'v' => some '\x0b'
  | 'f' => some '\x0c'
  | 'r' => some '\r'
  | 'e' => some '\x1b'
  | ' ' => some ' '
  | '"' => some '"'
  | '/' => some '/'
  | '\\' => some '\\'
  | 'N' => some '\u0085'
  | '_' => some '\u00a0'
  | 'L' => some '\u2028'
  | 'P' => some '\u2029'
  | _ => none

def hexDigits? : Char → Option Nat
  | 'x' => some 2
  | 'u' => some 4
  | 'U' => some 8
  | _ => none

def character? (n : Nat) : Option Char :=
  if 0xD800 ≤ n ∧ n ≤ 0xDFFF ∨ 0x10FFFF < n then none else some (Char.ofNat n)

/-- The rest of a quoted scalar. `hex` holds how many digits of an escape are still to come, and the
number so far. -/
def quoted (single : Bool) :
    List Char → Spot → Gap → Option (Nat × Nat) → List Char → Option Scanned
  | [], _, _, _, _ => none
  | c :: cs, p, g, some (n, v), done =>
    match digitIn? 16 c with
    | none => none
    | some d =>
      if n = 1 then
        match character? (16 * v + d) with
        | none => none
        | some x => quoted single cs (p.step c) g none (x :: done)
      else quoted single cs (p.step c) g (some (n - 1, 16 * v + d)) done
  | c :: cs, p, g, none, done =>
    if atMark (c :: cs) p then none
    else if isBlank c || isBreak c then quoted single cs (p.step c) (g.add c) none done
    else
      let done := g.fold ++ done
      if single && c = '\'' then
        match cs with
        | '\'' :: cs => quoted single cs ((p.step c).step c) .none none ('\'' :: done)
        | cs => some ⟨done.reverse, cs, p.step c, false⟩
      else if !single && c = '"' then some ⟨done.reverse, cs, p.step c, false⟩
      else if !single && c = '\\' then
        match cs with
        | [] => none
        | e :: cs =>
          let p := (p.step c).step e
          if isBreak e then quoted single cs p (.breaks none []) none done
          else
            match escape? e, hexDigits? e with
            | some x, _ => quoted single cs p .none none (x :: done)
            | none, some n => quoted single cs p .none (some (n, 0)) done
            | none, none => none
      else quoted single cs (p.step c) .none none (c :: done)

inductive Chomp where
  | clip | strip | keep
deriving DecidableEq, Repr

/-- A block scalar part way through, texts in reverse. `indent` is zero until the first line with
text shows it, `widest` the widest line of blanks before that. -/
structure Block where
  indent : Nat
  widest : Nat := 0
  inText : Bool := false
  led : Bool := false
  lead : Option Char := none
  trail : List Char := []
  done : List Char := []

namespace Block

def joined (b : Block) (literal : Bool) (c : Char) : List Char :=
  if !literal && b.lead == some '\n' && !b.led && !isBlank c then
    if b.trail.isEmpty then [' '] else b.trail
  else b.trail ++ b.lead.toList

def text (b : Block) (chomp : Chomp) : List Char :=
  let lead := if chomp = .strip then [] else b.lead.toList
  let trail := if chomp = .keep then b.trail else []
  (trail ++ lead ++ b.done).reverse

end Block

/-- The lines of a block scalar, up to one that is indented less. -/
def block (literal : Bool) (margin : Nat) :
    List Char → Spot → Block → Option (Block × List Char × Spot)
  | [], p, b => some (b, [], p)
  | c :: cs, p, b =>
    let inMargin := b.indent = 0 || decide (p.column < b.indent)
    if b.inText then
      if isBreak c then
        block literal margin cs (p.step c) { b with inText := false, lead := some c }
      else block literal margin cs (p.step c) { b with done := c :: b.done }
    else if c = ' ' && inMargin then block literal margin cs (p.step c) b
    else if c = '\t' && inMargin then none
    else if isBreak c then
      block literal margin cs (p.step c)
        { b with trail := c :: b.trail, widest := max b.widest p.column }
    else
      let indent := if b.indent = 0 then max (max b.widest p.column) (max margin 1) else b.indent
      if p.column = indent then
        block literal margin cs (p.step c)
          { indent, inText := true, led := isBlank c, done := c :: (b.joined literal c ++ b.done) }
      else some ({ b with indent }, c :: cs, p)

def chomp? : Char → Option Chomp
  | '+' => some .keep
  | '-' => some .strip
  | _ => none

def blockHeader : List Char → Option (Chomp × Nat × List Char)
  | [] => some (.clip, 0, [])
  | c :: cs =>
    match chomp? c with
    | some chomp =>
      match cs with
      | d :: rest =>
        if d = '0' then none
        else if d.isDigit then some (chomp, d.toNat - 48, rest) else some (chomp, 0, cs)
      | [] => some (chomp, 0, [])
    | none =>
      if c = '0' then none
      else if c.isDigit then
        match cs with
        | d :: rest =>
          match chomp? d with
          | some chomp => some (chomp, c.toNat - 48, rest)
          | none => some (.clip, c.toNat - 48, cs)
        | [] => some (.clip, c.toNat - 48, [])
      else some (.clip, 0, c :: cs)

end TokenCourier.Yaml
