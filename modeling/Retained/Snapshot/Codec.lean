import Retained.Checksum
import Retained.Json.Printer
import Retained.Json.Reader
import Retained.Snapshot.Data
import Retained.Snapshot.Error

/-!
# The snapshot file

A file is a frame around a JSON document: the length of the document modulo 2^32 and its CRC-32,
four bytes each and high end first, then the document on one line. The document is a record of the
format's version and the data; payloads are arrays of byte numbers, and both maps are written in
key order.
-/

namespace Retained.Snapshot

open Json (Value)

/-- The format that is written, and the only one that is read. -/
def version : Nat := 1

def toJson (d : Snapshot) : Value :=
  .ofMembers
    [("payloads", .ofMembers (d.payloads.toList.map fun (topic, payload) =>
        (topic, .array (payload.map fun b => .ofNat b.toNat)))),
     ("namespaces", .ofMembers (d.namespaces.toList.map fun (ns, topics) =>
        (ns, .array (topics.map .ofString))))]

def ofJson? (v : Value) : Option Snapshot := do
  match ← v.record? ["payloads", "namespaces"] with
  | [payloads, namespaces] =>
    pure ⟨← payloads.map? Value.bytes?, ← namespaces.map? Value.texts?⟩
  | _ => none

def document (d : Snapshot) : Value :=
  .ofMembers [("version", .ofNat version), ("data", d.toJson)]

def ofDocument? (v : Value) : Option (Nat × Snapshot) := do
  match ← v.record? ["version", "data"] with
  | [version, data] => pure (← version.nat? UInt32.size, ← ofJson? data)
  | _ => none

def body (d : Snapshot) : Bytes := d.document.compact

def frame (body : Bytes) : Bytes :=
  Bytes.bigEndian (.ofNat body.length) ++ Bytes.bigEndian (Checksum.crc32 body) ++ body

def encode (d : Snapshot) : Bytes := frame d.body

/-- The body of a frame, if the header is that of this body. -/
def unframe : Bytes → Except Corruption Bytes
  | l₁ :: l₂ :: l₃ :: l₄ :: c₁ :: c₂ :: c₃ :: c₄ :: body =>
    let length := (Bytes.word l₁ l₂ l₃ l₄).toNat
    if body.length ≠ length then .error (.bodyLength length body.length)
    else if Checksum.crc32 body ≠ Bytes.word c₁ c₂ c₃ c₄ then .error .checksum
    else .ok body
  | _ => .error .truncatedHeader

/-- The data of a body. A version other than the one known is refused once all has been read. -/
def ofBody (body : Bytes) : Except CodecFault Snapshot :=
  match (Value.ofBytes? body).bind ofDocument? with
  | none => .error .unreadable
  | some (found, d) => if found = version then .ok d else .error (.version found)

def decode (raw : Bytes) : Except Error Snapshot := do
  let body ← (unframe raw).mapError .corrupt
  (ofBody body).mapError .codec

end Retained.Snapshot
