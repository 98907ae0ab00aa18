/-!
# Trees with named branches

A `Node` carries a value and a `Forest` of children; the children of one node have distinct names
and stand in increasing order of name. The levels of a topic and the names of a path are walks
through such a tree: `Node.at?` follows one, and `Node.modify?` changes what is at its end.
-/

namespace Retained

/-- The children of a node: a first branch with its own children, and the siblings after it. -/
inductive Forest (α : Type) where
  | nil
  | branch (name : String) (value : α) (children siblings : Forest α)
  deriving Repr, DecidableEq

structure Node (α : Type) where
  value : α
  children : Forest α := .nil
  deriving Repr, DecidableEq

namespace Forest

variable {α : Type}

def find? (name : String) : Forest α → Option (Node α)
  | nil => none
  | branch n v c r => if name = n then some ⟨v, c⟩ else r.find? name

/-- Puts a child at its place in the order, in the stead of one of the same name. -/
def insert (name : String) (node : Node α) : Forest α → Forest α
  | nil => branch name node.value node.children nil
  | branch n v c r =>
    if name = n then branch name node.value node.children r
    else if name < n then branch name node.value node.children (branch n v c r)
    else branch n v c (r.insert name node)

def erase (name : String) : Forest α → Forest α
  | nil => nil
  | branch n v c r => if name = n then r else branch n v c (r.erase name)

def toList : Forest α → List (String × Node α)
  | nil => []
  | branch n v c r => (n, ⟨v, c⟩) :: r.toList

def isEmpty : Forest α → Bool
  | nil => true
  | branch .. => false

/-- How many nodes there are, those below children included. -/
def size : Forest α → Nat
  | nil => 0
  | branch _ _ c r => 1 + c.size + r.size

/-- The walks that end at a value kept by `keep`. -/
def walks (keep : α → Bool) : Forest α → List (List String)
  | nil => []
  | branch n v c r =>
    (if keep v then [[n]] else []) ++ (c.walks keep).map (n :: ·) ++ r.walks keep

end Forest

namespace Node

variable {α : Type}

def at? : List String → Node α → Option (Node α)
  | [], t => some t
  | n :: ns, t => (t.children.find? n).bind (at? ns)

def insertChild (t : Node α) (name : String) (child : Node α) : Node α :=
  { t with children := t.children.insert name child }

def eraseChild (t : Node α) (name : String) : Node α :=
  { t with children := t.children.erase name }

/-- Changes the node at the end of a walk. There is no answer where the walk leaves the tree. -/
def modify? (f : Node α → Node α) : List String → Node α → Option (Node α)
  | [], t => some (f t)
  | n :: ns, t =>
    (t.children.find? n).bind fun child => (modify? f ns child).map (t.insertChild n)

def walks (keep : α → Bool) (t : Node α) : List (List String) :=
  (if keep t.value then [[]] else []) ++ t.children.walks keep

end Node

end Retained
