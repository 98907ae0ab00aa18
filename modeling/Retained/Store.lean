import Std.Data.ExtTreeMap
import Retained.Bytes
import Retained.Rejection
import Retained.Snapshot.Data
import Retained.Topic.Trie

/-!
# The store of retained messages

A payload for every retained topic, and for every namespace the trie of its topics. Each topic is
filed under its normal form, in the namespace that this form begins with. `put` and `remove` check
a request before they touch anything but the namespace's entry; `restore` takes over what a
snapshot holds in both of its halves.
-/

namespace Retained

open Std (ExtTreeMap)

structure Limits where
  /-- The most topics that one namespace may hold. -/
  topics : Nat := 10000
  /-- The most levels that a stored topic may have; zero is no limit. -/
  levels : Nat := 1024
  deriving Repr, DecidableEq

structure Store where
  limits : Limits := {}
  /-- Payloads by the normal form of their topic. -/
  payloads : ExtTreeMap String Bytes := ∅
  /-- The topics of each namespace. -/
  tries : ExtTreeMap String Trie := ∅

namespace Store

def empty (limits : Limits) : Store := { limits }

def size (s : Store) : Nat := s.payloads.size

/-- The trie of a namespace, empty if the store has none for it. -/
def trie (ns : String) (s : Store) : Trie := s.tries.getD ns ∅

def openNamespace (ns : String) (s : Store) : Store :=
  { s with tries := s.tries.insertIfNew ns ∅ }

/-! ## Reads -/

def get? (topic : String) (s : Store) : Option Bytes := s.payloads[Topic.normalize topic]?

/--
The payloads of the topics in the first topic's namespace that match a filter. A blank filter
matches nothing; any other one leaves an entry for the namespace behind.
-/
def matching (first filter : String) (s : Store) : List Bytes × Store :=
  if Text.isAllBlank filter then ([], s)
  else
    let ns := Topic.namespaceOf first
    let matched := (s.trie ns).matching (Topic.normalize filter)
    (matched.filterMap (s.payloads[·]?), s.openNamespace ns)

def namespaceSize (first : String) (s : Store) : Nat := (s.trie (Topic.namespaceOf first)).size

def hasNamespace (first : String) (s : Store) : Bool := s.tries.contains (Topic.namespaceOf first)

/-! ## Writes -/

/-- The namespace and the normal form that a write speaks of. -/
def resolve (first topic : String) : Except Rejection (String × String) :=
  if Text.isAllBlank topic then .error (.malformed .emptyTopic)
  else if Text.isAllBlank first then .error (.malformed .emptyFirstTopic)
  else if Topic.hasWildcard topic then .error (.malformed (.wildcards topic))
  else
    let ns := Topic.namespaceOf first
    let topic := Topic.normalize topic
    if Topic.namespaceOf topic = ns then .ok (ns, topic)
    else .error (.malformed (.foreign topic ns))

def admits (levels : Nat) (s : Store) : Bool := s.limits.levels == 0 || levels ≤ s.limits.levels

/-- A topic may be stored in a namespace that holds it already or has room for one more. -/
def hasRoom (ns topic : String) (s : Store) : Bool :=
  (s.trie ns).contains topic || (s.trie ns).size < s.limits.topics

def file (ns topic : String) (payload : Bytes) (s : Store) : Store :=
  { s with
    payloads := s.payloads.insert topic payload
    tries := s.tries.insert ns ((s.trie ns).insert topic).2 }

def discard (ns topic : String) (s : Store) : Store :=
  { s with
    payloads := s.payloads.erase topic
    tries := s.tries.insert ns ((s.trie ns).erase topic).2 }

/--
Stores or replaces the payload of a topic and answers its normal form. The namespace of a topic
with few enough levels gets its entry, with or without room left in it.
-/
def put (first topic : String) (payload : Bytes) (s : Store) : Except Rejection String × Store :=
  match resolve first topic with
  | .error e => (.error e, s)
  | .ok (ns, topic) =>
    let levels := (Topic.levels topic).length
    if s.admits levels then
      if s.hasRoom ns topic then (.ok topic, s.file ns topic payload)
      else (.error (.capacityExceeded ns s.limits.topics), s.openNamespace ns)
    else (.error (.malformed (.tooManyLevels levels s.limits.levels)), s)

/-- Drops a topic and answers its normal form; a topic that is not stored needs no dropping. -/
def remove (first topic : String) (s : Store) : Except Rejection String × Store :=
  match resolve first topic with
  | .error e => (.error e, s)
  | .ok (ns, topic) => (.ok topic, s.discard ns topic)

/-! ## Snapshots -/

def toSnapshot (s : Store) : Snapshot where
  payloads := s.payloads
  namespaces := s.tries.map fun _ t => t.toList.mergeSort

/-- A store under reconstruction, and the payloads whose topics have not been met so far. -/
structure Recovery where
  pending : ExtTreeMap String Bytes
  store : Store

namespace Recovery

/-- Takes over a topic listed under a namespace if it belongs there and its payload is pending. -/
def adopt (ns : String) (r : Recovery) (topic : String) : Recovery :=
  if Topic.namespaceOf topic = ns then
    match r.pending[topic]? with
    | some payload => ⟨r.pending.erase topic, r.store.file ns topic payload⟩
    | none => r
  else r

def adoptAll (r : Recovery) (ns : String) (topics : List String) : Recovery :=
  topics.foldl (adopt ns) { r with store := r.store.openNamespace ns }

end Recovery

/--
The store that a snapshot describes. A topic without a payload, a topic listed under a foreign
namespace and a payload whose topic is listed nowhere are dropped; of the former state only the
limits stay.
-/
def restore (d : Snapshot) (s : Store) : Store :=
  (d.namespaces.foldl Recovery.adoptAll ⟨d.payloads, empty s.limits⟩).store

end Store

end Retained
