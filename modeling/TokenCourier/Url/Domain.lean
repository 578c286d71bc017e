import TokenCourier.Unicode.Composed
import TokenCourier.Unicode.Direction
import TokenCourier.Unicode.HostMap
import TokenCourier.Unicode.Joining
import TokenCourier.Url.Punycode

namespace TokenCourier.Domain

def replace? (c : Char) : Option (List Char) :=
  if c.toNat < 128 then some [c.toLower]
  else if HostMap.kept.contains c then some [c]
  else if HostMap.dropped.contains c then some []
  else
    match HostMap.replacements.find? (·.head? == some c.toNat) with
    | some row => some ((row.drop 1).map Char.ofNat)
    | none =>
      HostMap.shifts.findSome? fun
        | [first, last, step, image] =>
          if first ≤ c.toNat ∧ c.toNat ≤ last ∧ (c.toNat - first) % step = 0 then
            some [Char.ofNat (image + (c.toNat - first))]
          else none
        | _ => none

def forbidden (c : Char) : Bool :=
  c.toNat ≤ 32 || c.toNat = 127
    || ['#', '%', '/', ':', '<', '>', '?', '@', '[', '\\', ']', '^', '|'].contains c

def labels (cs : List Char) : List (List Char) := CharSet.parts (· = '.') cs

/-- Joiners may stand only after a virama, and a non-joiner also between joining letters. -/
def joinersFit (before : List Char) : List Char → Bool
  | [] => true
  | c :: cs =>
    let afterVirama := (before.head?.map fun b => Composed.markClass b == 9).getD false
    let between :=
      let l := (before.dropWhile Joining.transparent.contains).head?
      let r := (cs.dropWhile Joining.transparent.contains).head?
      (l.map fun c => Joining.left.contains c || Joining.dual.contains c).getD false &&
        (r.map fun c => Joining.right.contains c || Joining.dual.contains c).getD false
    (if c = '\u200c' then afterVirama || between
      else if c = '\u200d' then afterVirama else true) && joinersFit (c :: before) cs

inductive Class where
  | left | right | arabicNumber | number | mark | other | none
deriving DecidableEq

def asciiClass (c : Char) : Class :=
  if c.isAlpha then .left else if c.isDigit then .number else if c.toNat ≤ 32 then .none else .other

def classOf (c : Char) : Class :=
  if c.toNat < 128 then asciiClass c
  else if Direction.rightToLeft.contains c || Direction.arabic.contains c then .right
  else if Direction.arabicNumber.contains c then .arabicNumber
  else if Direction.number.contains c then .number
  else if Direction.mark.contains c then .mark
  else if [Direction.sign, Direction.terminator, Direction.separator, Direction.neutralBoundary,
      Direction.neutral].any (·.contains c) then .other
  else .left

/-- A label in a name that holds right-to-left text reads one way only (RFC 5893). -/
def readsOneWay (label : List Char) : Bool :=
  let cs := label.map classOf
  let last := (cs.reverse.dropWhile (· == .mark)).head?
  match cs.head? with
  | none => true
  | some .right =>
    cs.all (fun c => c != .left && c != .none)
      && [some .right, some .number, some .arabicNumber].contains last
      && !(cs.contains .number && cs.contains .arabicNumber)
  | some .left =>
    cs.all (fun c => c != .right && c != .arabicNumber && c != .none)
      && [some .left, some .number].contains last
  | some _ => false

def isAscii (label : List Char) : Bool := label.all Punycode.ascii

/-- A label in its readable form. One in Punycode must hold text that maps to itself. -/
def readable? (label : List Char) : Option (List Char) :=
  match label with
  | 'x' :: 'n' :: '-' :: '-' :: rest => do
    let text ← Punycode.decode? rest
    guard (!isAscii text && Composed.compose text == text)
    guard (text.all fun c => c.toNat < 128 || HostMap.kept.contains c)
    some text
  | _ => some label

def valid (label : List Char) : Bool :=
  !(label.head?.map Composites.marks.contains).getD false
    && label.all (fun c => !(Punycode.ascii c && forbidden c))
    && joinersFit [] label

def write (label : List Char) : List Char :=
  if isAscii label then label else ['x', 'n', '-', '-'] ++ Punycode.encode label

def join : List (List Char) → List Char
  | [] => []
  | [l] => l
  | l :: ls => l ++ '.' :: join ls

/-- The ASCII form of a name, if it has one (UTS 46, without transitional replacements). -/
def toAscii? (name : List Char) : Option (List Char) := do
  let mapped ← name.mapM replace?
  let ls ← (labels (Composed.compose mapped.flatten)).mapM readable?
  guard (ls.all valid)
  let rtl := ls.any (·.any fun c => classOf c == .right || classOf c == .arabicNumber)
  guard (!rtl || ls.all readsOneWay)
  some (join (ls.map write))

end TokenCourier.Domain
