import TokenCourier.Text.Utf8
import TokenCourier.Watch.Cycle

namespace TokenCourier

namespace Lines

def newline : UInt8 := 10

def withoutReturn (bs : List UInt8) : List UInt8 :=
  match bs.reverse with
  | 13 :: rest => rest.reverse
  | _ => bs

def text? (bs : List UInt8) : Option String :=
  (Utf8.decode (ByteArray.mk (withoutReturn bs).toArray)).toOption

def split? (bs : List UInt8) : Option (Option String × List UInt8) :=
  if bs.contains newline then
    some (text? (bs.takeWhile (· != newline)), (bs.dropWhile (· != newline)).drop 1)
  else none

def last? (bs : List UInt8) : Option (Option String × List UInt8) :=
  if bs.isEmpty then none else some (text? bs, [])

end Lines

/-- A line that is no text breaks the stream off. -/
structure Inflow where
  bytes : List UInt8 := []
  ended : Bool := false
  broken : Bool := false

inductive Draw where
  | signal (s : Signal)
  | skip
  | more

namespace Inflow

def undecodable : ClientError := .stream "Unable to decode input as UTF8"

def said (i : Inflow) : Option String × List UInt8 → Draw × Inflow
  | (none, rest) => (.signal (.line (.error undecodable)), { i with bytes := rest, broken := true })
  | (some t, rest) =>
    ((Notice.ofLine t).elim .skip fun n => .signal (.line n), { i with bytes := rest })

def draw (i : Inflow) : Draw × Inflow :=
  if i.broken then (.signal .closed, {}) else
  match Lines.split? i.bytes with
  | some line => i.said line
  | none =>
    if i.ended then
      match Lines.last? i.bytes with
      | some line => i.said line
      | none => (.signal .closed, {})
    else (.more, i)

def receive (i : Inflow) (bs : ByteArray) : Inflow := { i with bytes := i.bytes ++ bs.toList }

def finish (i : Inflow) : Inflow := { i with ended := true }

end Inflow

end TokenCourier
