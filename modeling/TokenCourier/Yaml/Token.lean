namespace TokenCourier.Yaml

inductive Style where
  | plain | quoted | literal | folded
deriving DecidableEq, Repr

/-- `maybeKey` stands where a key of a mapping may have begun. -/
inductive Token where
  | version
  | handle (name meaning : String)
  | documentStart
  | documentEnd
  | seqStart
  | mapStart
  | blockEnd
  | flowSeqStart
  | flowSeqEnd
  | flowMapStart
  | flowMapEnd
  | flowEntry
  | entry
  | key
  | value
  | anchor (name : String)
  | alias (name : String)
  | tag (handle suffix : String)
  | scalar (text : String) (style : Style)
  | maybeKey (id : Nat)
deriving DecidableEq

def isBlank (c : Char) : Bool := c = ' ' || c = '\t'

def isBreak (c : Char) : Bool := c = '\n' || c = '\u2028' || c = '\u2029'

def atEnd : List Char → Bool
  | [] => true
  | c :: _ => isBlank c || isBreak c

def isName (c : Char) : Bool := c.isAlphanum || c = '-' || c = '_'

def isAllowed (c : Char) : Bool :=
  c = '\t' || c = '\n' || c = '\r' || (' ' ≤ c && c ≤ '~') || c = '\u0085'
    || ('\u00a0' ≤ c && c ≤ '\ufffd') || 0x10000 ≤ c.toNat

def unifyBreaks : List Char → List Char
  | '\r' :: '\n' :: cs => '\n' :: unifyBreaks cs
  | '\r' :: cs => '\n' :: unifyBreaks cs
  | '\u0085' :: cs => '\n' :: unifyBreaks cs
  | c :: cs => c :: unifyBreaks cs
  | [] => []

structure Spot where
  index : Nat := 0
  line : Nat := 0
  column : Nat := 0

def Spot.step (p : Spot) (c : Char) : Spot :=
  if isBreak c then ⟨p.index + 1, p.line + 1, 0⟩ else ⟨p.index + 1, p.line, p.column + 1⟩

def marks (m : Char) (cs : List Char) (p : Spot) : Bool :=
  p.column = 0 && cs.take 3 == [m, m, m] && atEnd (cs.drop 3)

def atMark (cs : List Char) (p : Spot) : Bool := marks '-' cs p || marks '.' cs p

end TokenCourier.Yaml
