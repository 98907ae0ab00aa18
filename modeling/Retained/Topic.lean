import Retained.Text.Blank
import Retained.Text.Pieces

/-!
# Topics

A topic is a text whose levels stand between delimiters. Every key and every walk through a trie
uses the normal form of a topic: blank ends trimmed, and a delimiter appended to a topic that has
none. The first level of the normal form is the topic's namespace.
-/

namespace Retained.Topic

def delimiter : Char := '/'

/-- In a filter, stands for any one level. -/
def singleLevelWildcard : String := "+"

/-- As the last level of a filter, stands for any further levels. -/
def multiLevelWildcard : String := "#"

/-- The texts between the delimiters, empty ones included. -/
def levels (topic : String) : List String := Text.pieces delimiter topic

def ofLevels (ls : List String) : String := Text.join delimiter ls

def normalize (topic : String) : String :=
  let t := Text.trim topic
  if delimiter ∈ t.toList then t else t.push delimiter

/-- The namespace of a topic is the first level of its normal form. -/
@[irreducible]
def namespaceOf (topic : String) : String := (levels (normalize topic)).headD ""

def hasWildcard (topic : String) : Bool := topic.toList.any fun c => c == '+' || c == '#'

theorem levels_ne_nil (topic : String) : levels topic ≠ [] := Text.pieces_ne_nil _ _

@[simp]
theorem ofLevels_levels (topic : String) : ofLevels (levels topic) = topic := Text.join_pieces _ _

end Retained.Topic
