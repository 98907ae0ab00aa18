import Std.Data.ExtTreeMap
import Retained.Json.Token

/-!
# JSON values

A value keeps its numbers as they are spelled and its strings as bytes, so that reading loses
nothing which a more particular reader may ask for: `nat?` wants a number without sign, fraction
or exponent, `text?` a string that is UTF-8, `bytes?` any string or an array of byte numbers. A
record is an object with certain members, or the array of their values in order.
-/

namespace Retained.Json

open Std (ExtTreeMap)

inductive Value where
  | null
  | bool (value : Bool)
  | number (spelling : Bytes)
  | string (text : Text)
  | array (items : List Value)
  | object (members : List (Text × Value))
  deriving Repr

def Text.text? (t : Text) : Option String := if t.strict then t.bytes.text? else none

def Text.ofString (s : String) : Text := { bytes := .utf8 s }

def decimal (n : Nat) : Bytes := (Nat.toDigits 10 n).map Char.toUInt8

def ofDecimal (bs : Bytes) : Nat := Nat.ofDigitChars 10 (bs.map Char.ofUInt8) 0

namespace Value

mutual

/-- No string in the value holds raw control characters. -/
def isStrict : Value → Bool
  | .string t => t.strict
  | .array items => areStrict items
  | .object members => areStrictMembers members
  | _ => true

def areStrict : List Value → Bool
  | [] => true
  | v :: vs => v.isStrict && areStrict vs

def areStrictMembers : List (Text × Value) → Bool
  | [] => true
  | (key, v) :: ms => key.strict && v.isStrict && areStrictMembers ms

end

def ofNat (n : Nat) : Value := .number (decimal n)

def ofString (s : String) : Value := .string (.ofString s)

def ofMembers (ms : List (String × Value)) : Value :=
  .object (ms.map fun (key, v) => (.ofString key, v))

/-- A number below `bound`, spelled with digits alone. -/
def nat? (bound : Nat) : Value → Option Nat
  | .number spelling =>
    if spelling.all isDigit && ofDecimal spelling < bound then some (ofDecimal spelling) else none
  | _ => none

def text? : Value → Option String
  | .string t => t.text?
  | _ => none

def items? : Value → Option (List Value)
  | .array items => some items
  | _ => none

def texts? (v : Value) : Option (List String) := v.items?.bind (·.mapM text?)

def bytes? : Value → Option Bytes
  | .string t => some t.bytes
  | .array items => items.mapM fun v => (v.nat? 256).map UInt8.ofNat
  | _ => none

def members? : Value → Option (List (String × Value))
  | .object members => members.mapM fun (key, v) => key.text?.map (·, v)
  | _ => none

/-- An object as a map: of several members with one key the last counts. -/
def map? {α : Type} (read : Value → Option α) (v : Value) : Option (ExtTreeMap String α) :=
  (v.members?.bind (·.mapM fun (key, v) => (read v).map (key, ·))).map (ExtTreeMap.ofList ·)

/-- The value of the only member with a key. -/
def member? (members : List (String × Value)) (key : String) : Option Value :=
  match members.filter (·.1 = key) with
  | [(_, v)] => some v
  | _ => none

/--
The values of the members with the given keys, in that order. Each has to occur once; others are
skipped if they are strict. An array stands for the values themselves.
-/
def record? (keys : List String) : Value → Option (List Value)
  | .array items => if items.length = keys.length then some items else none
  | v => do
    let members ← v.members?
    if members.all fun (key, v) => keys.contains key || v.isStrict then
      keys.mapM (member? members)
    else none

end Value

end Retained.Json
