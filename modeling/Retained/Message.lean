import Std.Data.ExtTreeMap
import Retained.Bytes
import Retained.Rejection

/-!
# Requests and responses

A request carries its parameters as named text fields. A write stores or drops one retained topic;
a read asks for one topic or for all that match a filter. A response brings data, a list of
payloads or the kind and message of a failure.
-/

namespace Retained

def retainedGroup : String := "retainedMsg"

/-! ## Names of fields and operations -/

def firstTopicField : String := "firstTopic"

def topicField : String := "topic"

def isEmptyField : String := "isEmpty"

/-- The read of one topic. Any other operation matches a filter. -/
def topicOperation : String := "topic"

def filterOperation : String := "trie"

/-! ## Requests -/

abbrev Fields := Std.ExtTreeMap String String

structure WriteRequest where
  group : String := ""
  fields : Fields := ∅
  data : Bytes := []

structure ReadRequest where
  group : String := ""
  operation : String := ""
  fields : Fields := ∅

/-- Stores a payload under a topic, or drops the topic if `isEmpty` is set. -/
def WriteRequest.ofTopic (first topic : String) (isEmpty : Bool) (data : Bytes) : WriteRequest where
  group := retainedGroup
  fields := .ofList
    [(firstTopicField, first), (topicField, topic),
      (isEmptyField, if isEmpty then "true" else "false")]
  data := data

def ReadRequest.ofTopic (topic : String) : ReadRequest where
  group := retainedGroup
  operation := topicOperation
  fields := .ofList [(topicField, topic)]

def ReadRequest.ofFilter (first filter : String) : ReadRequest where
  group := retainedGroup
  operation := filterOperation
  fields := .ofList [(firstTopicField, first), (topicField, filter)]

/-! ## Responses -/

inductive Response where
  /-- A failure that says nothing. -/
  | blank
  | data (bytes : Bytes)
  | payloads (list : List Bytes)
  | failure (kind message : String)
  deriving Repr, DecidableEq

namespace Response

def isSuccess : Response → Bool
  | data _ | payloads _ => true
  | blank | failure .. => false

def ofRejection (e : Rejection) : Response := .failure e.kind e.message

end Response

end Retained
