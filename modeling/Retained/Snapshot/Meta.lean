import Retained.Json.Printer
import Retained.Json.Reader

/-!
# The meta file

A snapshot directory is sealed by a meta file, a JSON document laid out in lines: the index of the
last write that the snapshot includes, the time of its creation, and the files that belong to it.
-/

namespace Retained.Snapshot

open Json (Value)

structure Meta where
  appliedIndex : Nat
  createdAt : String
  files : List String
  deriving Repr, DecidableEq

/-- The name of the meta file. -/
def metaFile : String := "snapshot_meta.json"

namespace Meta

def toJson (m : Meta) : Value :=
  .ofMembers
    [("applied_index", .ofNat m.appliedIndex), ("created_at", .ofString m.createdAt),
     ("files", .array (m.files.map .ofString))]

def ofJson? (v : Value) : Option Meta := do
  match ← v.record? ["applied_index", "created_at", "files"] with
  | [index, created, files] => pure ⟨← index.nat? UInt64.size, ← created.text?, ← files.texts?⟩
  | _ => none

def encode (m : Meta) : Bytes := m.toJson.indented

def decode? (bs : Bytes) : Option Meta := (Value.ofBytes? bs).bind ofJson?

end Meta

end Retained.Snapshot
