import TokenCourier.Yaml.Lexer
import TokenCourier.Yaml.Plain

namespace TokenCourier.Yaml

inductive Node where
  | scalar (text : String) (style : Style) (tag : Option String)
  | settled (v : Plain)
  | seq (tag : Option String) (items : List Node)
  | map (tag : Option String) (entries : List (Node × Node))
  | loop
deriving Inhabited

namespace Node

def empty : Node := .scalar "" .plain none

/-- What is still to be read, the handles of tags, and the anchored nodes; a node that is not yet
complete has an anchor only. -/
structure Source where
  tokens : List Token
  handles : List (String × String)
  anchors : List (String × Option Node) := []

abbrev Parse := StateT Source Option

def standardHandles : List (String × String) := [("!", "!"), ("!!", "tag:yaml.org,2002:")]

def peek : Parse (Option Token) := do return (← get).tokens.head?

def drop : Parse Unit := modify fun s => { s with tokens := s.tokens.drop 1 }

def takeToken (t : Token) : Parse Bool := do
  if (← peek) = some t then
    drop
    return true
  else return false

def expect (t : Token) : Parse Unit := do guard (← takeToken t)

def nextIs (ts : List Token) : Parse Bool := do return (← peek).any ts.contains

def aliased (name : String) : Parse Node := do
  match (← get).anchors.lookup name with
  | some node => return node.getD .loop
  | none => failure

def anchoring (name : Option String) (node : Option Node) : Parse Unit :=
  match name with
  | some name => modify fun s => { s with anchors := (name, node) :: s.anchors }
  | none => pure ()

def resolve (handle suffix : String) : Parse String := do
  if handle = "" then return suffix
  match (← get).handles.lookup handle with
  | some meaning => return meaning ++ suffix
  | none => failure

def anchor? : Parse (Option String) := do
  match ← peek with
  | some (.anchor name) =>
    drop
    return some name
  | _ => return none

def tag? : Parse (Option String) := do
  match ← peek with
  | some (.tag handle suffix) =>
    drop
    return some (← resolve handle suffix)
  | _ => return none

def properties : Parse (Option String × Option String) := do
  match ← anchor? with
  | some name => return (some name, ← tag?)
  | none =>
    let tag ← tag?
    return (← anchor?, tag)

mutual

/-- A node. Blocks stand only outside brackets; a sequence that is a value of a mapping may stand as
far out as its key. -/
def node : Nat → Bool → Bool → Parse Node
  | 0, _, _ => failure
  | n + 1, inBlock, atKey => do
    if let some (.alias name) ← peek then
      drop
      return ← aliased name
    let (name, tag) ← properties
    anchoring name none
    let v ← content n inBlock atKey (name.isSome || tag.isSome) tag
    anchoring name (some v)
    return v

def content : Nat → Bool → Bool → Bool → Option String → Parse Node
  | 0, _, _, _, _ => failure
  | n + 1, inBlock, atKey, marked, tag => do
    match ← peek with
    | some (.scalar text style) =>
      drop
      return .scalar text style (tag.filter (· != "!"))
    | some .entry =>
      if atKey then return .seq tag (← outdented n)
      else if marked then return .scalar "" .plain tag
      else failure
    | some .flowSeqStart =>
      drop
      return .seq tag (← flowItems n true)
    | some .flowMapStart =>
      drop
      return .map tag (← flowEntries n true)
    | some .seqStart =>
      if inBlock then
        drop
        return .seq tag (← items n)
      else if marked then return .scalar "" .plain tag
      else failure
    | some .mapStart =>
      if inBlock then
        drop
        return .map tag (← entries n)
      else if marked then return .scalar "" .plain tag
      else failure
    | _ => if marked then return .scalar "" .plain tag else failure

def items : Nat → Parse (List Node)
  | 0 => failure
  | n + 1 => do
    if ← takeToken .entry then
      let v ← if ← nextIs [.entry, .blockEnd] then pure empty else node n true false
      return v :: (← items n)
    expect .blockEnd
    return []

def outdented : Nat → Parse (List Node)
  | 0 => failure
  | n + 1 => do
    if ← takeToken .entry then
      let v ← if ← nextIs [.entry, .key, .value, .blockEnd] then pure empty else node n true false
      return v :: (← outdented n)
    return []

def entries : Nat → Parse (List (Node × Node))
  | 0 => failure
  | n + 1 => do
    if ← takeToken .key then
      let k ← if ← nextIs [.key, .value, .blockEnd] then pure empty else node n true true
      let v ←
        if ← takeToken .value then
          if ← nextIs [.key, .value, .blockEnd] then pure empty else node n true true
        else pure empty
      return (k, v) :: (← entries n)
    expect .blockEnd
    return []

def flowItems : Nat → Bool → Parse (List Node)
  | 0, _ => failure
  | n + 1, first => do
    if ← takeToken .flowSeqEnd then return []
    if !first then
      expect .flowEntry
      if ← takeToken .flowSeqEnd then return []
    let v ←
      if ← takeToken .key then
        let k ←
          if ← nextIs [.value, .flowEntry, .flowSeqEnd] then do
            drop
            pure empty
          else node n false false
        let v ←
          if ← takeToken .value then
            if ← nextIs [.flowEntry, .flowSeqEnd] then pure empty else node n false false
          else pure empty
        pure (.map none [(k, v)])
      else node n false false
    return v :: (← flowItems n false)

def flowEntries : Nat → Bool → Parse (List (Node × Node))
  | 0, _ => failure
  | n + 1, first => do
    if ← takeToken .flowMapEnd then return []
    if !first then
      expect .flowEntry
      if ← takeToken .flowMapEnd then return []
    if ← takeToken .key then
      let k ←
        if ← nextIs [.value, .flowEntry, .flowMapEnd] then pure empty else node n false false
      let v ←
        if ← takeToken .value then
          if ← nextIs [.flowEntry, .flowMapEnd] then pure empty else node n false false
        else pure empty
      return (k, v) :: (← flowEntries n false)
    let k ← node n false false
    return (k, empty) :: (← flowEntries n false)

end

def directives :
    List Token → Bool → List (String × String) → Option (List (String × String) × List Token)
  | .version :: ts, versioned, hs => if versioned then none else directives ts true hs
  | .handle name meaning :: ts, versioned, hs =>
    if (hs.lookup name).isSome then none else directives ts versioned ((name, meaning) :: hs)
  | ts, _, hs => some (hs ++ standardHandles, ts)

def endings : List Token → List Token := List.dropWhile (· == .documentEnd)

def started (n : Nat) : Parse Node := do
  match ← peek with
  | none | some .version | some (.handle ..) | some .documentStart | some .documentEnd =>
    return empty
  | _ => node n true false

/-- The next document, and what follows it. The first one needs no mark; `none` within if there is
none. -/
def next? (first : Bool) (ts : List Token) : Option (Option (Node × List Token)) := do
  let ts := if first then ts else endings ts
  if ts.isEmpty then return none
  let n := 4 * ts.length + 4
  let (hs, rest) ← directives ts false []
  let (v, s) ←
    match rest with
    | .documentStart :: rest => (started n).run ⟨rest, hs, []⟩
    | rest =>
      if first && rest.length = ts.length then (node n true false).run ⟨rest, hs, []⟩ else none
  return some (v, s.tokens)

def ofTokens? (ts : List Token) : Option (Option Node) := do
  match ← next? true ts with
  | none => return none
  | some (v, rest) => if (endings rest).isEmpty then some (some v) else none

def parse? (text : String) : Option (Option Node) := (tokens? text).bind ofTokens?

end Node

end TokenCourier.Yaml
