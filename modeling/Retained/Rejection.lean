/-!
# Refused requests

A request is refused for its namespace's capacity or for a fault of its own. `kind` is the stable
code that goes with a refusal and `message` its text.
-/

namespace Retained

inductive Fault where
  | missingField (key : String)
  | emptyTopic
  | emptyFirstTopic
  /-- A topic to be stored or dropped names exactly one topic. -/
  | wildcards (topic : String)
  /-- The topic lies in another namespace than the one that the request names. -/
  | foreign (topic ns : String)
  | tooManyLevels (levels limit : Nat)
  | other (text : String)
  deriving Repr, DecidableEq

inductive Rejection where
  | capacityExceeded (ns : String) (limit : Nat)
  | malformed (fault : Fault)
  | internal (text : String)
  deriving Repr, DecidableEq

def Fault.message : Fault → String
  | missingField key => s!"missing '{key}'"
  | emptyTopic => "topic is empty"
  | emptyFirstTopic => "firstTopic is empty"
  | wildcards topic => s!"retained topic '{topic}' must not contain wildcards"
  | foreign topic ns => s!"topic '{topic}' does not belong to first topic '{ns}'"
  | tooManyLevels levels limit => s!"topic has {levels} levels, limit is {limit}"
  | other text => text

namespace Rejection

def internalKind : String := "INTERNAL"

/-- The code that a failure response carries. -/
def kind : Rejection → String
  | capacityExceeded .. => "CAPACITY_EXCEEDED"
  | malformed _ => "MALFORMED_REQUEST"
  | internal _ => internalKind

def message : Rejection → String
  | capacityExceeded ns limit =>
    s!"Exceeded maximum number of reserved topics limit ({limit}) for namespace '{ns}'."
  | malformed fault => s!"Malformed request: {fault.message}"
  | internal text => s!"Internal error: {text}"

end Rejection

end Retained
