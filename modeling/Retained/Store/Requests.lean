import Retained.Json.Printer
import Retained.Message
import Retained.Store

/-!
# Requests to a store

A store answers the requests of its group. An accepted write is acknowledged by the JSON string of
the topic's normal form; a read of a topic that holds nothing is answered by the bytes of `null`.
-/

namespace Retained

/-- What a read of a topic that holds nothing answers. -/
def nullPayload : Bytes := [0x6E, 0x75, 0x6C, 0x6C]

def Fields.required (key : String) (fields : Fields) : Except Rejection String :=
  match fields[key]? with
  | some value => .ok value
  | none => .error (.malformed (.missingField key))

/-- The text is "true" but for blanks at its ends and the case of its letters. -/
def isTrue (s : String) : Bool := (Text.trim s).toList.map Char.toLower = ['t', 'r', 'u', 'e']

def WriteRequest.isEmpty (r : WriteRequest) : Bool := (r.fields[isEmptyField]?).any isTrue

/-- How an accepted write names the topic that it stored or dropped. -/
def acknowledgement (topic : String) : Bytes := Json.quote (.utf8 topic)

namespace Store

def apply (r : WriteRequest) (s : Store) : Except Rejection String × Store :=
  match r.fields.required firstTopicField, r.fields.required topicField with
  | .error e, _ => (.error e, s)
  | _, .error e => (.error e, s)
  | .ok first, .ok topic =>
    if r.isEmpty then s.remove first topic else s.put first topic r.data

def write (r : WriteRequest) (s : Store) : Response × Store :=
  match s.apply r with
  | (.ok topic, s) => (.data (acknowledgement topic), s)
  | (.error e, s) => (.ofRejection e, s)

def read (r : ReadRequest) (s : Store) : Response × Store :=
  match r.fields.required topicField with
  | .error e => (.ofRejection e, s)
  | .ok topic =>
    if r.operation = topicOperation then (.data ((s.get? topic).getD nullPayload), s)
    else
      match r.fields.required firstTopicField with
      | .error e => (.ofRejection e, s)
      | .ok first =>
        let (payloads, s) := s.matching first topic
        (.payloads payloads, s)

end Store

end Retained
