import Retained.Json.Printer
import Retained.Store

/-!
# Summaries

What a store holds, in numbers: the topics in all, and for every namespace, sorted by name, its
topics and the nodes of its trie.
-/

namespace Retained

/-- One namespace in numbers. -/
structure Summary.Entry where
  name : String
  topics : Nat
  /-- The nodes of the namespace's trie below its root. -/
  nodes : Nat
  deriving Repr, DecidableEq

structure Summary where
  topics : Nat
  /-- The most topics that one namespace may hold. -/
  limit : Nat
  namespaces : List Summary.Entry
  deriving Repr, DecidableEq

def Store.summary (s : Store) : Summary where
  topics := s.size
  limit := s.limits.topics
  namespaces := s.tries.toList.map fun (name, t) => ⟨name, t.size, t.nodeCount⟩

namespace Summary

open Json (Value)

def Entry.toJson (e : Entry) : Value :=
  .ofMembers [("name", .ofString e.name), ("topics", .ofNat e.topics), ("nodes", .ofNat e.nodes)]

def toJson (m : Summary) : Value :=
  .ofMembers
    [("total_topics", .ofNat m.topics), ("max_per_namespace", .ofNat m.limit),
     ("namespaces", .array (m.namespaces.map Entry.toJson))]

end Summary

end Retained
