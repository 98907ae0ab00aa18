import Retained.Config.Environment
import Retained.Text.Alphanumeric
import Retained.Text.Blank

/-!
# Environment files

An environment file sets variables line by line, `KEY=VALUE` with an optional `export` ahead.
Values may be quoted: between single quotes every character stands for itself, elsewhere a
backslash escapes and a dollar sign names a variable to be put in. A variable that is set already
keeps its value, and the first malformed line ends the file.
-/

namespace Retained

namespace Dotenv

/-- Where in a value a character stands. What is seen of a variable's name comes latest first. -/
inductive Position where
  /-- In text, within double quotes or without. -/
  | text (quoted : Bool)
  /-- Between single quotes. -/
  | literal
  /-- Behind a backslash. -/
  | escape (quoted : Bool)
  /-- Behind a dollar sign and the beginning of a name. -/
  | name (quoted : Bool) (seen : List Char)
  /-- Behind a dollar sign, an opening brace and the beginning of a name. -/
  | braced (quoted : Bool) (seen : List Char)
  /-- Behind a blank that ended the value: only a comment may follow. -/
  | tail
  | comment
  deriving Repr, DecidableEq

/-- A value that is being read; its characters so far come latest first. -/
structure Reading where
  position : Position := .text false
  value : List Char := []
  deriving Repr, DecidableEq

namespace Reading

def push (c : Char) (r : Reading) : Reading := { r with value := c :: r.value }

/-- Puts in the value of the variable whose name was seen. One that is not set has none. -/
def substitute (env : Environment) (seen : List Char) (r : Reading) : Reading :=
  { r with value := ((env.lookup? seen.reverse).getD []).reverse ++ r.value }

def escaped? : Char → Option Char
  | 'n' => some '\n'
  | c => if c ∈ ['\\', '\'', '"', '$', ' '] then some c else none

/--
Takes one character. The character that ends a bare variable name stands for itself, even if it is
a quotation mark or a blank; only another dollar sign begins another name.
-/
def step? (env : Environment) (r : Reading) (c : Char) : Option Reading :=
  match r.position with
  | .comment => some r
  | .tail =>
    if c = ' ' || c = '\t' then some r
    else if c = '#' then some { r with position := .comment }
    else none
  | .escape quoted => (escaped? c).map fun e => { r.push e with position := .text quoted }
  | .literal =>
    some (if c = '\'' then { r with position := .text false } else r.push c)
  | .name quoted seen =>
    if Text.isAlphanumeric c then some { r with position := .name quoted (c :: seen) }
    else if c = '\x7b' && seen.isEmpty then some { r with position := .braced quoted [] }
    else
      let r := r.substitute env seen
      if c = '$' then some { r with position := .name quoted [] }
      else some { r.push c with position := .text quoted }
  | .braced quoted seen =>
    if c = '\x7d' then some { r.substitute env seen with position := .text quoted }
    else some { r with position := .braced quoted (c :: seen) }
  | .text quoted =>
    if c = '$' then some { r with position := .name quoted [] }
    else if c = '\\' then some { r with position := .escape quoted }
    else if c = '"' then some { r with position := .text (!quoted) }
    else if quoted then some (r.push c)
    else if c = '\'' then some { r with position := .literal }
    else if c = ' ' || c = '\t' then some { r with position := .tail }
    else some (r.push c)

/-- The value at the end of a line, where no quotation and no brace may be open. -/
def finish? (env : Environment) (r : Reading) : Option String :=
  match r.position with
  | .text true | .escape true | .name true _ | .literal | .braced .. => none
  | .name false seen => some (.ofList (r.substitute env seen).value.reverse)
  | .text false | .escape false | .tail | .comment => some (.ofList r.value.reverse)

end Reading

def value? (env : Environment) : List Char → Option String
  | [] => some ""
  | '#' :: _ => some ""
  | cs => (cs.foldlM (Reading.step? env) {}).bind (Reading.finish? env)

def skipBlanks (cs : List Char) : List Char := cs.dropWhile Text.isBlank

/-- A key begins with an ASCII letter or an underscore; digits and dots may follow too. -/
def key? (cs : List Char) : Option (String × List Char) :=
  match cs with
  | [] => none
  | c :: _ =>
    if c.isAlpha || c = '_' then
      let inKey (c : Char) : Bool := c.isAlphanum || c = '_' || c = '.'
      some (.ofList (cs.takeWhile inKey), cs.dropWhile inKey)
    else none

def behindEquals? (cs : List Char) : Option (List Char) :=
  match skipBlanks cs with
  | '=' :: cs => some cs
  | _ => none

/-- The key of a line and what is behind its equals sign; `export` is a key only if one follows
it. -/
def binding? (cs : List Char) : Option (String × List Char) := do
  let (key, rest) ← key? cs
  match behindEquals? rest with
  | some value => pure (key, value)
  | none =>
    if key = "export" then
      let (key, rest) ← key? (skipBlanks rest)
      pure (key, ← behindEquals? rest)
    else none

/-- What a line says: nothing in a blank line or a comment, no answer if it is malformed. -/
def line? (env : Environment) (line : List Char) : Option (Option (String × String)) :=
  match skipBlanks (Text.trimEnd line) with
  | [] => some none
  | '#' :: _ => some none
  | cs => do
    let (key, rest) ← binding? cs
    pure (some (key, ← value? env (skipBlanks rest)))

/-- Reads lines in order. Each sees the variables that those before it set. -/
def readLines (env : Environment) : List (List Char) → Environment
  | [] => env
  | l :: ls =>
    match line? env l with
    | none => env
    | some none => readLines env ls
    | some (some (key, value)) => readLines (env.insertIfNew key value) ls

def read (text : String) (env : Environment) : Environment :=
  readLines env (text.toList.splitOn '\n')

end Dotenv

end Retained
