/-!
# Blank characters

`isBlank` is the Unicode property `White_Space`: twenty-five characters, of which six are ASCII.
`trim` drops them at both ends of a text and nowhere else.
-/

namespace Retained.Text

/-- The Unicode property `White_Space`. -/
def isBlank (c : Char) : Bool :=
  let n := c.toNat
  (0x09 ≤ n && n ≤ 0x0D) || n == 0x20 || n == 0x85 || n == 0xA0 || n == 0x1680 ||
    (0x2000 ≤ n && n ≤ 0x200A) || n == 0x2028 || n == 0x2029 || n == 0x202F || n == 0x205F ||
    n == 0x3000

def trimEnd (cs : List Char) : List Char := (cs.reverse.dropWhile isBlank).reverse

def trim (s : String) : String := .ofList (trimEnd (s.toList.dropWhile isBlank))

/-- A text of blank characters alone, the empty text included. -/
def isAllBlank (s : String) : Bool := s.toList.all isBlank

end Retained.Text
