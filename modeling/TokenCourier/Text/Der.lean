namespace TokenCourier.Der

def length? : List UInt8 → Option (Nat × List UInt8)
  | [] => none
  | b :: bs =>
    if b < 0x80 then some (b.toNat, bs)
    else
      let n := b.toNat - 0x80
      let digits := bs.take n
      let value := digits.foldl (fun v d => 256 * v + d.toNat) 0
      if n = 0 || 4 < n || digits.length < n || digits.head? == some 0 || value < 0x80 then none
      else some (value, bs.drop n)

def next? : List UInt8 → Option (UInt8 × List UInt8 × List UInt8)
  | [] => none
  | tag :: bs => do
    let (n, bs) ← length? bs
    if bs.length < n then none else some (tag, bs.take n, bs.drop n)

def tagsUpTo : Nat → List UInt8 → Option (List UInt8)
  | _, [] => some []
  | 0, _ :: _ => none
  | n + 1, b :: bs => do
    let (tag, _, rest) ← next? (b :: bs)
    return tag :: (← tagsUpTo n rest)

def tags? (bs : List UInt8) : Option (List UInt8) := tagsUpTo bs.length bs

def sequence : UInt8 := 0x30
def integer : UInt8 := 0x02
def bitString : UInt8 := 0x03
def version : UInt8 := 0xA0

def certificateFields : List UInt8 := [integer, sequence, sequence, sequence, sequence, sequence]

/-- A signed sequence of the fields of a certificate, nothing missing and nothing left over. -/
def isCertificate (bs : List UInt8) : Bool :=
  match next? bs with
  | some (tag, body, []) =>
    tag == sequence && tags? body == some [sequence, sequence, bitString] &&
      match next? body with
      | some (_, signed, _) =>
        match tags? signed with
        | some (v :: ts) =>
          if v = version then certificateFields.isPrefixOf ts
          else v :: ts == certificateFields
        | _ => false
      | none => false
  | _ => false

def isKey (bs : List UInt8) : Bool :=
  match next? bs with
  | some (tag, body, []) => tag == sequence && (tags? body).any (·.head? == some integer)
  | _ => false

end TokenCourier.Der
