import Retained.Json.Value

/-!
# Reading JSON

`Value.ofTokens?` builds the value of a token list with a stack of open arrays and objects, so
that documents may be nested to any depth. Each state says what may come next.
-/

namespace Retained.Json

/-- An array or object that is under way; what it has so far comes latest first. -/
inductive Frame where
  | array (items : List Value)
  /-- An object that awaits the value for `key`. -/
  | object (members : List (Text × Value)) (key : Text)

inductive Builder where
  /-- A value has to come. -/
  | value (outer : List Frame)
  /-- Just inside an array: a value or the end. -/
  | firstItem (outer : List Frame)
  /-- Just inside an object: a key or the end. -/
  | firstKey (outer : List Frame)
  /-- Behind a comma of an object: a key. -/
  | nextKey (members : List (Text × Value)) (outer : List Frame)
  | colon (members : List (Text × Value)) (key : Text) (outer : List Frame)
  /-- Behind an item: a comma or the end. -/
  | afterItem (items : List Value) (outer : List Frame)
  /-- Behind a member: a comma or the end. -/
  | afterMember (members : List (Text × Value)) (outer : List Frame)
  | done (v : Value)

namespace Builder

/-- Hands a finished value to what contains it. -/
def deliver (v : Value) : List Frame → Builder
  | [] => .done v
  | .array items :: outer => .afterItem (v :: items) outer
  | .object members key :: outer => .afterMember ((key, v) :: members) outer

def begin? (outer : List Frame) : Token → Option Builder
  | .openArray => some (.firstItem outer)
  | .openObject => some (.firstKey outer)
  | .null => some (deliver .null outer)
  | .bool b => some (deliver (.bool b) outer)
  | .number spelling => some (deliver (.number spelling) outer)
  | .string text => some (deliver (.string text) outer)
  | _ => none

def step? : Builder → Token → Option Builder
  | .value outer, t => begin? outer t
  | .firstItem outer, .closeArray => some (deliver (.array []) outer)
  | .firstItem outer, t => begin? (.array [] :: outer) t
  | .firstKey outer, .closeObject => some (deliver (.object []) outer)
  | .firstKey outer, .string key => some (.colon [] key outer)
  | .nextKey members outer, .string key => some (.colon members key outer)
  | .colon members key outer, .colon => some (.value (.object members key :: outer))
  | .afterItem items outer, .comma => some (.value (.array items :: outer))
  | .afterItem items outer, .closeArray => some (deliver (.array items.reverse) outer)
  | .afterMember members outer, .comma => some (.nextKey members outer)
  | .afterMember members outer, .closeObject => some (deliver (.object members.reverse) outer)
  | _, _ => none

def result? : Builder → Option Value
  | .done v => some v
  | _ => none

end Builder

namespace Value

def ofTokens? (ts : List Token) : Option Value :=
  (ts.foldlM Builder.step? (.value [])).bind Builder.result?

def ofBytes? (bs : Bytes) : Option Value := (Token.ofBytes? bs).bind ofTokens?

end Value

end Retained.Json
