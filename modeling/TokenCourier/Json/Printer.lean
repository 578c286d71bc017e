import TokenCourier.Json.Basic

namespace TokenCourier.Json

def hexDigit (n : Nat) : Char := Nat.digitChar (n % 16)

def escape (c : Char) : List Char :=
  if c = '"' then ['\\', '"']
  else if c = '\\' then ['\\', '\\']
  else if c = '\x08' then ['\\', 'b']
  else if c = '\x0c' then ['\\', 'f']
  else if c = '\n' then ['\\', 'n']
  else if c = '\r' then ['\\', 'r']
  else if c = '\t' then ['\\', 't']
  else if c.toNat < 32 then ['\\', 'u', '0', '0', hexDigit (c.toNat / 16), hexDigit c.toNat]
  else [c]

def quoteChars (s : String) : List Char := '"' :: s.toList.flatMap escape ++ ['"']

def quote (s : String) : String := String.ofList (quoteChars s)

mutual

def compact : Json → String
  | .null => "null"
  | .bool b => if b then "true" else "false"
  | .int n => toString n
  | .real t => t
  | .str s => quote s
  | .arr vs => "[" ++ compactItems vs ++ "]"
  | .obj ms => "\x7b" ++ compactMembers ms ++ "\x7d"
  | .unreadable => "null"

def compactItems : List Json → String
  | [] => ""
  | [v] => compact v
  | v :: vs => compact v ++ "," ++ compactItems vs

def compactMembers : List (String × Json) → String
  | [] => ""
  | [(n, v)] => quote n ++ ":" ++ compact v
  | (n, v) :: ms => quote n ++ ":" ++ compact v ++ "," ++ compactMembers ms

end

def newline (level : Nat) : String := "\n" ++ String.ofList (List.replicate (2 * level) ' ')

mutual

def prettyAt (level : Nat) : Json → String
  | .arr [] => "[]"
  | .arr (v :: vs) => "[" ++ prettyItems (level + 1) (v :: vs) ++ newline level ++ "]"
  | .obj [] => "\x7b\x7d"
  | .obj (m :: ms) => "\x7b" ++ prettyMembers (level + 1) (m :: ms) ++ newline level ++ "\x7d"
  | v => compact v

def prettyItems (level : Nat) : List Json → String
  | [] => ""
  | [v] => newline level ++ prettyAt level v
  | v :: vs => newline level ++ prettyAt level v ++ "," ++ prettyItems level vs

def prettyMembers (level : Nat) : List (String × Json) → String
  | [] => ""
  | [(n, v)] => newline level ++ quote n ++ ": " ++ prettyAt level v
  | (n, v) :: ms =>
    newline level ++ quote n ++ ": " ++ prettyAt level v ++ "," ++ prettyMembers level ms

end

def pretty (v : Json) : String := prettyAt 0 v

end TokenCourier.Json
