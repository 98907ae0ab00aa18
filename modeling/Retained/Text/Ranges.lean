/-!
# Sets of characters as ranges

A Unicode property is given as the list of its ranges of code points, both ends included.
-/

namespace Retained.Text

def inRanges (ranges : List (Nat × Nat)) (n : Nat) : Bool :=
  ranges.any fun (first, last) => first ≤ n && n ≤ last

end Retained.Text
