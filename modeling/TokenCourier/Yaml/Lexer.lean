import TokenCourier.Yaml.Scalar

namespace TokenCourier.Yaml

/-- A place where a key may have begun. It is `required` to be one where only a key fits. -/
structure KeyPlace where
  id : Nat
  spot : Spot
  required : Bool

/-- `margin` is the column after the one at which the innermost block stands, `margins` those of the
blocks around it. `places` has an entry for each open bracket, and one for the text outside. Tokens
are in reverse; `keys` lists the places that began keys, and whether a mapping begins there too. -/
structure Lexer where
  rest : List Char
  spot : Spot := {}
  margin : Nat := 0
  margins : List Nat := []
  keyAllowed : Bool := true
  places : List (Option KeyPlace) := [none]
  tokens : List Token := []
  keys : List (Nat × Bool) := []
  nextId : Nat := 0

namespace Lexer

def flow (l : Lexer) : Bool := 1 < l.places.length

def emit (l : Lexer) (t : Token) : Lexer := { l with tokens := t :: l.tokens }

def pass : Nat → Lexer → Lexer
  | 0, l => l
  | n + 1, l =>
    match l.rest with
    | [] => l
    | c :: cs => pass n { l with rest := cs, spot := l.spot.step c }

/-- Ends the blocks that stand at `limit` or after. -/
def unrollFrom (limit : Nat) : Nat → List Nat → List Token → Nat × List Nat × List Token
  | m, [], ts => (m, [], ts)
  | m, m' :: ms, ts =>
    if limit < m then unrollFrom limit m' ms (.blockEnd :: ts) else (m, m' :: ms, ts)

def unroll (l : Lexer) (limit : Nat) : Lexer :=
  if l.flow then l else
  let (margin, margins, tokens) := unrollFrom limit l.margin l.margins l.tokens
  { l with margin, margins, tokens }

def roll (l : Lexer) (column : Nat) : Lexer :=
  { l with margin := column + 1, margins := l.margin :: l.margins }

def rollWith (l : Lexer) (t : Token) : Lexer :=
  if l.margin ≤ l.spot.column then (l.roll l.spot.column).emit t else l

def dropKey (l : Lexer) : Option Lexer :=
  match l.places with
  | some k :: ps => if k.required then none else some { l with places := none :: ps }
  | _ => some l

def saveKey (l : Lexer) : Option Lexer :=
  if l.keyAllowed then
    l.dropKey.map fun l =>
      { l.emit (.maybeKey l.nextId) with
        places := some ⟨l.nextId, l.spot, !l.flow && l.margin == l.spot.column + 1⟩
          :: l.places.drop 1
        nextId := l.nextId + 1 }
  else some l

def keyLimit : Nat := 1024

/-- A key is on one line, and not too long. -/
def stale (p : Spot) (k : KeyPlace) : Bool :=
  k.spot.line < p.line || k.spot.index + keyLimit < p.index

def dropStale (l : Lexer) : Option Lexer := do
  let places ← l.places.mapM fun
    | some k => if stale l.spot k then if k.required then none else some none else some (some k)
    | none => some none
  some { l with places }

/-- Passes over blanks, comments and line ends. Tabs are no blanks where a key may begin. -/
def skipFrom (flow : Bool) : List Char → Spot → Bool → Bool → List Char × Spot × Bool
  | [], p, allowed, _ => ([], p, allowed)
  | c :: cs, p, allowed, comment =>
    if isBreak c then skipFrom flow cs (p.step c) (allowed || !flow) false
    else if comment || c = '#' then skipFrom flow cs (p.step c) allowed true
    else if c = ' ' || (c = '\t' && (flow || !allowed)) || (c = '\ufeff' && p.index = 0) then
      skipFrom flow cs (p.step c) allowed false
    else (c :: cs, p, allowed)

def skip (l : Lexer) : Lexer :=
  let (rest, spot, keyAllowed) := skipFrom l.flow l.rest l.spot l.keyAllowed false
  { l with rest, spot, keyAllowed }

def endLine (l : Lexer) : Option Lexer :=
  let blank := l.rest.takeWhile isBlank
  let l := l.pass blank.length
  let comment := if l.rest.head? == some '#' then (l.rest.takeWhile (!isBreak ·)).length else 0
  let l := l.pass comment
  match l.rest with
  | [] => some l
  | c :: _ => if isBreak c then some (l.pass 1) else none

def number? (l : Lexer) : Option (Nat × Lexer) :=
  let ds := l.rest.takeWhile Char.isDigit
  if ds.isEmpty || 9 < ds.length then none
  else some (ds.foldl (fun n c => 10 * n + (c.toNat - 48)) 0, l.pass ds.length)

def isUri (c : Char) : Bool :=
  isName c
    || [';', '/', '?', ':', '@', '&', '=', '+', '$', '.', '!', '~', '*', '\'', '(', ')',
      '%'].contains c

def isVerbatim (c : Char) : Bool := isUri c || c = ',' || c = '[' || c = ']'

def handle (l : Lexer) : List Char :=
  let name := (l.rest.drop 1).takeWhile isName
  if (l.rest.drop (1 + name.length)).head? == some '!' then '!' :: name ++ ['!'] else '!' :: name

def skipBlanks (l : Lexer) : Lexer := l.pass (l.rest.takeWhile isBlank).length

def versionDirective (l : Lexer) : Option Lexer := do
  let (major, l) ← l.skipBlanks.number?
  guard (l.rest.head? == some '.')
  let (minor, l) ← (l.pass 1).number?
  guard (major = 1 ∧ (minor = 1 ∨ minor = 2))
  (l.emit .version).endLine

def handleDirective (l : Lexer) : Option Lexer := do
  let l := l.skipBlanks
  guard (l.rest.head? == some '!')
  let name := l.handle
  guard (name = ['!'] ∨ (name.length ≠ 1 ∧ name.getLast? = some '!'))
  let l := l.pass name.length
  guard (l.rest.head?.any isBlank)
  let l := l.skipBlanks
  let meaning := l.rest.takeWhile isVerbatim
  guard (!meaning.isEmpty)
  let l := l.pass meaning.length
  guard (atEnd l.rest)
  (l.emit (.handle (String.ofList name) (String.ofList meaning))).endLine

def directive (l : Lexer) : Option Lexer := do
  let l ← (l.unroll 0).dropKey
  let l := { l with keyAllowed := false }.pass 1
  let name := l.rest.takeWhile isName
  let l := l.pass name.length
  guard (atEnd l.rest)
  if name = ['Y', 'A', 'M', 'L'] then l.versionDirective
  else if name = ['T', 'A', 'G'] then l.handleDirective
  else none

def documentMark (l : Lexer) (t : Token) : Option Lexer := do
  let l ← (l.unroll 0).dropKey
  some (({ l with keyAllowed := false }.pass 3).emit t)

def opening (l : Lexer) (t : Token) : Option Lexer := do
  let l ← l.saveKey
  some (({ l with places := none :: l.places, keyAllowed := true }.pass 1).emit t)

def closing (l : Lexer) (t : Token) : Option Lexer := do
  let l ← l.dropKey
  let places := if l.flow then l.places.drop 1 else l.places
  some (({ l with places, keyAllowed := false }.pass 1).emit t)

def flowEntry (l : Lexer) : Option Lexer := do
  let l ← l.dropKey
  some (({ l with keyAllowed := true }.pass 1).emit .flowEntry)

def entry (l : Lexer) : Option Lexer := do
  guard (l.flow || l.keyAllowed)
  let l ← (if l.flow then l else l.rollWith .seqStart).dropKey
  some (({ l with keyAllowed := true }.pass 1).emit .entry)

def key (l : Lexer) : Option Lexer := do
  guard (l.flow || l.keyAllowed)
  let l ← (if l.flow then l else l.rollWith .mapStart).dropKey
  some (({ l with keyAllowed := !l.flow }.pass 1).emit .key)

def value (l : Lexer) : Option Lexer :=
  match l.places with
  | some k :: ps =>
    let starts := !l.flow && decide (l.margin ≤ k.spot.column)
    let l := if starts then l.roll k.spot.column else l
    let l := { l with places := none :: ps, keys := (k.id, starts) :: l.keys, keyAllowed := false }
    some ((l.pass 1).emit .value)
  | _ =>
    if l.flow || l.keyAllowed then
      let l := if l.flow then l else l.rollWith .mapStart
      some (({ l with keyAllowed := !l.flow }.pass 1).emit .value)
    else none

def named (l : Lexer) (t : String → Token) : Option Lexer := do
  let l ← l.saveKey
  let l := { l with keyAllowed := false }.pass 1
  let name := l.rest.takeWhile isName
  let l := l.pass name.length
  guard (!name.isEmpty && (atEnd l.rest
    || l.rest.head?.any fun c => ['?', ':', ',', ']', '}', '%', '@', '\x60'].contains c))
  some (l.emit (t (String.ofList name)))

def tagParts (l : Lexer) : Option (List Char × List Char × Nat) :=
  match l.rest with
  | '!' :: '<' :: cs =>
    let uri := cs.takeWhile isVerbatim
    if uri.isEmpty || (cs.drop uri.length).head? != some '>' then none
    else some ([], uri, uri.length + 3)
  | _ =>
    let name := l.handle
    let rest := (l.rest.drop name.length).takeWhile isUri
    if 1 < name.length && name.getLast? == some '!' then
      if rest.isEmpty then none else some (name, rest, name.length + rest.length)
    else
      let suffix := name.drop 1 ++ rest
      if suffix.isEmpty then some ([], ['!'], 1) else some (['!'], suffix, suffix.length + 1)

def tag (l : Lexer) : Option Lexer := do
  let l ← l.saveKey
  let l := { l with keyAllowed := false }
  let (name, suffix, length) ← l.tagParts
  let l := l.pass length
  guard (atEnd l.rest || (l.flow && l.rest.head? == some ','))
  some (l.emit (.tag (String.ofList name) (String.ofList suffix)))

def blockScalar (l : Lexer) (literal : Bool) : Option Lexer := do
  let l ← l.dropKey
  let (chomp, increment, rest) ← blockHeader (l.rest.drop 1)
  let l ← (l.pass (l.rest.length - rest.length)).endLine
  let indent := if increment = 0 then 0 else l.margin - 1 + increment
  let (b, rest, spot) ← block literal l.margin l.rest l.spot { indent }
  some ({ l with rest, spot, keyAllowed := true }.emit
    (.scalar (String.ofList (b.text chomp)) (if literal then .literal else .folded)))

def scalar (l : Lexer) (style : Style) (scan : Lexer → Option Scanned) : Option Lexer := do
  let l ← l.saveKey
  let s ← scan l
  some ({ l with rest := s.rest, spot := s.spot, keyAllowed := s.crossed }.emit
    (.scalar (String.ofList s.text) style))

def quotedScalar (l : Lexer) (single : Bool) : Option Lexer :=
  l.scalar .quoted fun l =>
    let l := l.pass 1
    quoted single l.rest l.spot .none none []

def plainScalar (l : Lexer) : Option Lexer :=
  l.scalar .plain fun l => plain l.flow l.margin l.rest l.spot .none []

def indicators : List Char :=
  ['-', '?', ':', ',', '[', ']', '{', '}', '#', '&', '*', '!', '|', '>', '\'', '"', '%', '@',
    '\x60']

def startsPlain (flow : Bool) (c : Char) (cs : List Char) : Bool :=
  !(isBlank c || isBreak c || indicators.contains c) || (c = '-' && !cs.head?.any isBlank)
    || (!flow && (c = '?' || c = ':') && !atEnd cs)

def token (l : Lexer) (c : Char) (cs : List Char) : Option Lexer :=
  if l.spot.column = 0 && c = '%' then l.directive
  else if marks '-' (c :: cs) l.spot then l.documentMark .documentStart
  else if marks '.' (c :: cs) l.spot then l.documentMark .documentEnd
  else if c = '[' then l.opening .flowSeqStart
  else if c = '{' then l.opening .flowMapStart
  else if c = ']' then l.closing .flowSeqEnd
  else if c = '}' then l.closing .flowMapEnd
  else if c = ',' then l.flowEntry
  else if c = '-' && atEnd cs then l.entry
  else if c = '?' && (l.flow || atEnd cs) then l.key
  else if c = ':' && (l.flow || atEnd cs) then l.value
  else if c = '*' then l.named .alias
  else if c = '&' then l.named .anchor
  else if c = '!' then l.tag
  else if c = '|' && !l.flow then l.blockScalar true
  else if c = '>' && !l.flow then l.blockScalar false
  else if c = '\'' then l.quotedScalar true
  else if c = '"' then l.quotedScalar false
  else if startsPlain l.flow c cs then l.plainScalar
  else none

/-- Goes on to the end. Every token takes a character at least. -/
def run : Nat → Lexer → Option Lexer
  | 0, _ => none
  | n + 1, l => do
    let l ← l.skip.dropStale
    let l := l.unroll (l.spot.column + 1)
    match l.rest with
    | [] => (l.unroll 0).dropKey
    | c :: cs => (← l.token c cs).run n

def result (l : Lexer) : List Token :=
  l.tokens.reverse.flatMap fun
    | .maybeKey id =>
      match l.keys.find? (·.1 == id) with
      | some (_, true) => [.mapStart, .key]
      | some (_, false) => [.key]
      | none => []
    | t => [t]

end Lexer

def tokens? (text : String) : Option (List Token) :=
  let cs := text.toList
  if cs.all isAllowed then
    (Lexer.run (cs.length + 1) { rest := unifyBreaks cs }).map Lexer.result
  else none

end TokenCourier.Yaml
