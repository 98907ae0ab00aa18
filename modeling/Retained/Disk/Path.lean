import Retained.Text.Pieces
import Retained.Text.Quoted

/-!
# Paths

A path is the list of the pieces between its slashes. An empty piece and a dot are idle: behind a
name they lead nowhere. The last piece that is not idle is the path's file name, unless it leads
upwards.
-/

namespace Retained

structure Path where
  pieces : List String
  deriving Repr, DecidableEq

namespace Path

def ofString (s : String) : Path := ⟨Text.pieces '/' s⟩

def text (p : Path) : String := Text.join '/' p.pieces

def quoted (p : Path) : String := Text.quoted p.text

def isIdle (piece : String) : Bool := piece = "" || piece = "."

def isAbsolute (p : Path) : Bool := p.pieces.head? = some "" && 1 < p.pieces.length

/-- Pieces less the idle ones at their end; the first piece says where a path begins and stays. -/
def trimEnd : List String → List String
  | [] => []
  | p :: ps => p :: (ps.reverse.dropWhile isIdle).reverse

def join (dir p : Path) : Path :=
  if p.isAbsolute then p
  else ⟨(if dir.pieces.getLast? = some "" then dir.pieces.dropLast else dir.pieces) ++ p.pieces⟩

def fileName? (p : Path) : Option String :=
  (trimEnd p.pieces).getLast?.filter fun name => !isIdle name && name != ".."

/-- The path beside this one whose file name has a suffix more. -/
def sibling (suffix : String) (p : Path) : Path :=
  match p.fileName? with
  | some name => ⟨trimEnd (trimEnd p.pieces).dropLast ++ [name ++ "." ++ suffix]⟩
  | none => p.join ⟨["snapshot." ++ suffix]⟩

/--
The paths whose pieces are beginnings of these (given last first), the longest first. The root
does not count.
-/
def beginnings : List String → List Path
  | [] | [""] => []
  | p :: ps =>
    if isIdle p && !ps.isEmpty then beginnings ps else ⟨(p :: ps).reverse⟩ :: beginnings ps

/-- The directories above a path, the nearest first. -/
def above (p : Path) : List Path := beginnings (trimEnd p.pieces).dropLast.reverse

end Path

end Retained
