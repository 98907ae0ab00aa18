/-!
# Pieces of a text

A text is cut at each occurrence of a character, and nothing is lost: `join_pieces` puts it
together again.
-/

namespace Retained.Text

/-- The texts between the occurrences of a character, empty ones included. There is at least
one. -/
def pieces (c : Char) (s : String) : List String := (s.toList.splitOn c).map .ofList

def join (c : Char) (ps : List String) : String := .ofList ([c].intercalate (ps.map String.toList))

theorem pieces_ne_nil (c : Char) (s : String) : pieces c s ≠ [] := by
  simp [pieces, List.splitOn]

@[simp]
theorem join_pieces (c : Char) (s : String) : join c (pieces c s) = s := by
  simp [join, pieces, Function.comp_def, List.intercalate_splitOn]

end Retained.Text
