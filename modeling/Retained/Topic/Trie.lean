import Retained.Topic
import Retained.Tree

/-!
# The topic trie

A trie is a set of topics, kept as a tree of their levels. A node is marked when a stored topic
ends there. Erasing works in two passes: `Node.removal?` reads the walk and decides what has to
go, and `Node.carryOut?` takes it away. `Node.matching` answers a filter by one recursion over its
levels.
-/

namespace Retained

/-- What erasing a stored topic takes out of a trie. -/
inductive Removal where
  /-- The node at the end of the first `cut` levels of the topic, and all below it. -/
  | branch (cut : Nat)
  /-- The mark alone, since topics further down still need the node. -/
  | mark
  deriving Repr, DecidableEq

namespace Node

def mark : List String → Node Bool → Node Bool
  | [], t => { t with value := true }
  | l :: ls, t => t.insertChild l (mark ls ((t.children.find? l).getD ⟨false, .nil⟩))

def isMarked (ls : List String) (t : Node Bool) : Bool := (t.at? ls).any (·.value)

/-- On the way to one topic, the node serves another as well: one ends here, or turns off here. -/
def isShared (t : Node Bool) : Bool := t.value || 1 < t.children.toList.length

/--
Follows the levels of a topic, of which `depth` are behind us. Answers the node at their end, and
the least number of levels (`cut` to begin with) from which on all nodes serve this topic only.
-/
def survey? (depth cut : Nat) : List String → Node Bool → Option (Nat × Node Bool)
  | [], t => some (cut, t)
  | l :: ls, t =>
    (t.children.find? l).bind fun child =>
      survey? (depth + 1) (if !ls.isEmpty && child.isShared then depth + 2 else cut) ls child

/-- The first pass of an erasure: what has to go, or nothing if the topic is not stored. -/
def removal? (ls : List String) (t : Node Bool) : Option Removal :=
  (t.survey? 0 1 ls).bind fun (cut, last) =>
    if last.value then some (if last.children.isEmpty then .branch cut else .mark) else none

/-- The second pass of an erasure. There is no answer where the tree has no such place. -/
def carryOut? (ls : List String) (t : Node Bool) : Removal → Option (Node Bool)
  | .branch cut => ls[cut - 1]?.bind fun l => t.modify? (·.eraseChild l) (ls.take (cut - 1))
  | .mark => t.modify? (fun last => { last with value := false }) ls

def matching : List String → Node Bool → List (List String)
  | [], t => if t.value then [[]] else []
  | p :: ps, t =>
    if p = Topic.multiLevelWildcard ∧ ps = [] then t.walks id
    else if p = Topic.singleLevelWildcard then
      t.children.toList.flatMap fun (l, child) => (matching ps child).map (l :: ·)
    else
      match t.children.find? p with
      | some child => (matching ps child).map (p :: ·)
      | none => []

end Node

structure Trie where
  root : Node Bool := ⟨false, .nil⟩
  /-- How many topics are stored. -/
  size : Nat := 0
  deriving Repr, DecidableEq

namespace Trie

def empty : Trie := {}

instance : EmptyCollection Trie := ⟨empty⟩

def isEmpty (t : Trie) : Bool := t.size == 0

def contains (topic : String) (t : Trie) : Bool := t.root.isMarked (Topic.levels topic)

def insert (topic : String) (t : Trie) : Bool × Trie :=
  let root := t.root.mark (Topic.levels topic)
  if t.contains topic then (false, { t with root }) else (true, ⟨root, t.size + 1⟩)

/-- Drops a topic with the nodes that served it alone, and tells whether it was stored. -/
def erase (topic : String) (t : Trie) : Bool × Trie :=
  let ls := Topic.levels topic
  match (t.root.removal? ls).bind (t.root.carryOut? ls) with
  | some root => (true, ⟨root, t.size - 1⟩)
  | none => (false, t)

/-- The stored topics that match a filter; the empty filter matches none. -/
def matching (filter : String) (t : Trie) : List String :=
  if filter = "" then [] else (t.root.matching (Topic.levels filter)).map Topic.ofLevels

def toList (t : Trie) : List String := (t.root.walks id).map Topic.ofLevels

def nodeCount (t : Trie) : Nat := t.root.children.size

end Trie

end Retained
