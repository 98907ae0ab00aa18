import Std.Data.ExtTreeMap
import Retained.Bytes

/-!
# Snapshot data

What a snapshot says of a store: the payload of every retained topic, and for every namespace the
list of its topics. Both maps are sorted by key, in the order of the UTF-8 bytes.
-/

namespace Retained

/-- The state of a store as plain data. -/
structure Snapshot where
  /-- Payloads by the normal form of their topic. -/
  payloads : Std.ExtTreeMap String Bytes := ∅
  /-- Topics by namespace. -/
  namespaces : Std.ExtTreeMap String (List String) := ∅
  deriving DecidableEq

end Retained
