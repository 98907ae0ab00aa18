import Retained.Topic

/-!
# Filters

`Topic.Matches ps ls` says that the levels `ls` of a topic match the levels `ps` of a filter. A
plus sign takes the place of one level, a number sign at the end that of any further ones, and
whatever else stands in a filter, a number sign before the end included, stands for itself.
-/

namespace Retained.Topic

inductive Matches : List String → List String → Prop
  | nil : Matches [] []
  | further (ls : List String) : Matches [multiLevelWildcard] ls
  | one {ps ls : List String} (l : String) : Matches ps ls →
      Matches (singleLevelWildcard :: ps) (l :: ls)
  | same {ps ls : List String} (l : String) : Matches ps ls → Matches (l :: ps) (l :: ls)

end Retained.Topic
