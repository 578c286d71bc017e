import TokenCourier.Api.Answer
import TokenCourier.Text.Decimal
import TokenCourier.Text.Utf8

namespace TokenCourier.Http

open Bytes

def lineEnd : String := "\r\n"

def requestBytes (host base : String) (headers : List (String × String)) (r : Request) :
    ByteArray :=
  let path := String.ofList (base.toList.reverse.dropWhile (· = '/')).reverse ++ r.path
  let target := if r.query = "" then path else path ++ "?" ++ r.query
  let headers := [("host", host), ("accept", "application/json"),
    ("content-type", "application/json"), ("content-length", toString r.body.utf8ByteSize),
    ("connection", "close")] ++ headers
  let lines := headers.map fun (n, v) => n ++ ": " ++ v ++ lineEnd
  (s!"{r.method.word} {target} HTTP/1.1{lineEnd}" ++ String.join lines ++ lineEnd ++ r.body).toUTF8

inductive Framing where
  | counted (left : Nat)
  | chunked
  | closing
deriving DecidableEq

structure Head where
  status : Nat
  framing : Framing
deriving DecidableEq

def lower (bs : List UInt8) : String :=
  String.ofList (bs.map fun b => (Char.ofNat b.toNat).toLower)

def trimmed (s : String) : String := s.trimAscii.toString

def lines (bs : List UInt8) : List String := (lower bs).splitOn lineEnd

def header? (ls : List String) (name : String) : Option String :=
  ls.findSome? fun l =>
    match l.splitOn ":" with
    | n :: v => if n = name then some (trimmed (String.intercalate ":" v)) else none
    | [] => none

def framing (ls : List String) : Framing :=
  if header? ls "transfer-encoding" = some "chunked" then .chunked
  else ((header? ls "content-length").bind String.toNat?).elim .closing .counted

def head? (bs : List UInt8) : Option Head :=
  match lines bs with
  | [] => none
  | first :: ls =>
    match first.splitOn " " with
    | _ :: status :: _ => status.toNat?.map fun n => ⟨n, framing ls⟩
    | _ => none

def hex? (s : String) : Option Nat :=
  if s = "" then none else s.toList.foldlM (fun n c => (digitIn? 16 c).map (16 * n + ·)) 0

/-- The first chunk, if all of it is there, and what follows it; the last one is empty. -/
def chunk? (bs : List UInt8) : Option (List UInt8 × List UInt8) := do
  let (size, rest) ← until? (ofString lineEnd) bs
  let n ← hex? (trimmed (((lower size).splitOn ";").headD ""))
  guard (n = 0 || n + 2 ≤ rest.length)
  some (rest.take n, rest.drop (n + 2))

/-- A response as far as it has come in. `body` is what has not yet been taken. -/
structure Incoming where
  head : Option Head := none
  raw : List UInt8 := []
  body : List UInt8 := []
  ended : Bool := false

namespace Incoming

/-- What of a body can be told from its frame, in at most so many steps. -/
def unframe : Nat → Framing → Incoming → Incoming
  | _, .closing, i => { i with body := i.body ++ i.raw, raw := [] }
  | _, .counted left, i =>
    let framing := Framing.counted (left - i.raw.length)
    { i with
      head := i.head.map fun h => { h with framing }
      body := i.body ++ i.raw.take left
      raw := []
      ended := i.ended || left ≤ i.raw.length }
  | 0, .chunked, i => i
  | n + 1, .chunked, i =>
    match chunk? i.raw with
    | none => i
    | some ([], _) => { i with raw := [], ended := true }
    | some (bs, rest) => unframe n .chunked { i with body := i.body ++ bs, raw := rest }

def advance (i : Incoming) : Incoming :=
  match i.head with
  | some h => i.unframe i.raw.length h.framing
  | none =>
    match until? (ofString (lineEnd ++ lineEnd)) i.raw with
    | none => i
    | some (bs, rest) =>
      match head? bs with
      | none => { i with raw := [], ended := true }
      | some h => { i with head := some h, raw := rest }.unframe rest.length h.framing

def receive (i : Incoming) : Option ByteArray → Incoming
  | some bs => { i with raw := i.raw ++ bs.toList }.advance
  | none => { i.advance with ended := true }

def takeBody (i : Incoming) : ByteArray × Incoming := (⟨i.body.toArray⟩, { i with body := [] })

def response? (i : Incoming) : Option Response := i.head.map fun h => ⟨h.status, i.takeBody.1⟩

end Incoming

end TokenCourier.Http
