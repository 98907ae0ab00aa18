import Retained.Json.Value

/-!
# Printing JSON

A value is written as its tokens. `compact` puts them side by side; `indented` starts a line for
each item and each member and indents it by its depth, except that an empty array or object stays
closed.
-/

namespace Retained.Json

def escape (b : UInt8) : Bytes :=
  if b = 0x22 then ascii "\\\""
  else if b = 0x5C then ascii "\\\\"
  else if b = 0x08 then ascii "\\b"
  else if b = 0x0C then ascii "\\f"
  else if b = 0x0A then ascii "\\n"
  else if b = 0x0D then ascii "\\r"
  else if b = 0x09 then ascii "\\t"
  else if b < 0x20 then
    ascii "\\u00" ++
      [(Nat.digitChar (b.toNat / 16)).toUInt8, (Nat.digitChar (b.toNat % 16)).toUInt8]
  else [b]

def quote (bs : Bytes) : Bytes := ascii "\"" ++ bs.flatMap escape ++ ascii "\""

def Token.spell : Token → Bytes
  | .openArray => ascii "["
  | .closeArray => ascii "]"
  | .openObject => ascii "\x7b"
  | .closeObject => ascii "\x7d"
  | .comma => ascii ","
  | .colon => ascii ":"
  | .null => ascii "null"
  | .bool true => ascii "true"
  | .bool false => ascii "false"
  | .number spelling => spelling
  | .string t => quote t.bytes

def newLine (depth : Nat) : Bytes := 0x0A :: List.replicate (2 * depth) 0x20

/-- The tokens laid out in lines, beginning at a depth. -/
def Token.layOut : Nat → List Token → Bytes
  | _, [] => []
  | depth, .openArray :: .closeArray :: ts => ascii "[]" ++ layOut depth ts
  | depth, .openObject :: .closeObject :: ts => ascii "\x7b\x7d" ++ layOut depth ts
  | depth, t :: ts =>
    match t with
    | .openArray | .openObject => t.spell ++ newLine (depth + 1) ++ layOut (depth + 1) ts
    | .closeArray | .closeObject => newLine (depth - 1) ++ t.spell ++ layOut (depth - 1) ts
    | .comma => t.spell ++ newLine depth ++ layOut depth ts
    | .colon => t.spell ++ ascii " " ++ layOut depth ts
    | _ => t.spell ++ layOut depth ts

namespace Value

mutual

def tokens : Value → List Token
  | .null => [.null]
  | .bool b => [.bool b]
  | .number spelling => [.number spelling]
  | .string t => [.string t]
  | .array [] => [.openArray, .closeArray]
  | .array (v :: vs) => .openArray :: v.tokens ++ itemTokens vs
  | .object [] => [.openObject, .closeObject]
  | .object ((key, v) :: ms) =>
    .openObject :: .string key :: .colon :: v.tokens ++ memberTokens ms

/-- The tokens behind the first item of an array. -/
def itemTokens : List Value → List Token
  | [] => [.closeArray]
  | v :: vs => .comma :: v.tokens ++ itemTokens vs

def memberTokens : List (Text × Value) → List Token
  | [] => [.closeObject]
  | (key, v) :: ms => .comma :: .string key :: .colon :: v.tokens ++ memberTokens ms

end

/-- The value on one line, without blanks. -/
def compact (v : Value) : Bytes := v.tokens.flatMap Token.spell

/-- The value laid out over lines. -/
def indented (v : Value) : Bytes := Token.layOut 0 v.tokens

end Value

end Retained.Json
