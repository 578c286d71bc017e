import TokenCourier.Text.Base64
import TokenCourier.Text.Utf8
import TokenCourier.Text.CharSet

namespace TokenCourier

structure PemBlock where
  label : String
  content : List UInt8
deriving DecidableEq

inductive PemFault where
  | labels (first last : String)
  | noLabel
  | noEndLabel
  | data (f : Base64.Fault)
  | header (line : String)
  | notText (f : Utf8.Fault)
deriving DecidableEq

namespace PemFault

def message : PemFault → String
  | .labels a b => "mismatching BEGIN (\"" ++ a ++ "\") and END (\"" ++ b ++ "\") tags"
  | .noLabel => "missing BEGIN tag"
  | .noEndLabel => "missing END tag"
  | .data f => "invalid data: " ++ f.message
  | .header line => "invalid header: " ++ line
  | .notText f => "invalid utf-8 value: " ++ f.message

def causes : PemFault → List String
  | .data f => [f.message]
  | .notText f => [f.message]
  | _ => []

end PemFault

namespace Pem

open Bytes

def skipBlank (bs : List UInt8) : List UInt8 :=
  bs.dropWhile fun b => b = 0x20 || b = 0x09 || b = 0x0A || b = 0x0D

/-- Lines before an empty one are headers. -/
def headersAndData (bs : List UInt8) : List UInt8 × List UInt8 :=
  match until? (ofString "\n\n") bs, until? (ofString "\r\n\r\n") bs with
  | some parts, _ => parts
  | none, some parts => parts
  | none, none => ([], bs)

structure Raw where
  label : List UInt8
  body : List UInt8
  last : List UInt8

def next? (bs : List UInt8) : Option (Raw × List UInt8) := do
  let (_, bs) ← until? (ofString "-----BEGIN ") bs
  let (label, bs) ← until? (ofString "-----") bs
  let (body, bs) ← until? (ofString "-----END ") (skipBlank bs)
  let (last, bs) ← until? (ofString "-----") bs
  some (⟨label, body, last⟩, skipBlank bs)

def text (bs : List UInt8) : Except PemFault String :=
  match Utf8.decode ⟨bs.toArray⟩ with
  | .ok s => .ok s
  | .error f => .error (.notText f)

def lines : List Char → List Char → List (List Char)
  | [], [] => []
  | [], line => [line.reverse]
  | '\n' :: cs, '\r' :: line => line.reverse :: lines cs []
  | '\n' :: cs, line => line.reverse :: lines cs []
  | c :: cs, line => lines cs (c :: line)

def octets (cs : List Char) : List Char :=
  (ofString (String.ofList cs)).map fun b => Char.ofNat b.toNat

def block (raw : Raw) : Except PemFault PemBlock := do
  let label ← text raw.label
  if label = "" then throw .noLabel
  let last ← text raw.last
  if last = "" then throw .noEndLabel
  if label ≠ last then throw (.labels label last)
  let (headers, data) := headersAndData raw.body
  let data ← text data
  let content ←
    match Base64.decodeChars (octets ((lines data.toList []).flatMap Space.trimEnd)) with
    | .ok bs => pure bs
    | .error f => throw (.data f)
  let headers ← text headers
  match (lines headers.toList []).find? (!·.contains ':') with
  | some line => throw (.header (String.ofList line))
  | none => return ⟨label, content⟩

def blocksUpTo : Nat → List UInt8 → Except PemFault (List PemBlock)
  | 0, _ => .ok []
  | n + 1, bs =>
    match next? bs with
    | none => .ok []
    | some (raw, rest) => do
      let b ← block raw
      return b :: (← blocksUpTo n rest)

def blocks (bs : List UInt8) : Except PemFault (List PemBlock) := blocksUpTo bs.length bs

def contents (label : String) (bs : List UInt8) : Except PemFault (List (List UInt8)) := do
  return ((← blocks bs).filter (·.label == label)).map (·.content)

end Pem

end TokenCourier
