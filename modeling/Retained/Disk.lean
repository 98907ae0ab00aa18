import Retained.Bytes
import Retained.Disk.Path
import Retained.Tree

/-!
# Disks

A disk is a tree of directories and files, seen from a working directory. A path that begins with
a slash is followed from the root and any other from there, one piece at a time: all that comes
before a piece has to be a directory, and two dots lead to the directory above. Whatever changes
the disk either does so as a whole or answers an error and changes nothing, but for two:
`makeDirs` keeps the directories that it made before it failed, and `removeTree` cannot do away
with a directory by a path that ends in dots, only with what it holds.
-/

namespace Retained

inductive Content where
  | directory
  | file (bytes : Bytes)
  deriving Repr, DecidableEq

def Content.isFile : Content → Bool
  | directory => false
  | file _ => true

/-- The names that lead from the root of a disk to a directory or file. -/
abbrev Place := List String

structure Disk where
  root : Node Content := ⟨.directory, .nil⟩
  workDir : Place := []
  deriving Repr, DecidableEq

namespace Disk

/-- The disk that holds nothing but the directories down to the working directory. -/
def bare (workDir : Place) : Disk where
  root := workDir.foldr (fun name below => ⟨.directory, .branch name .directory below.children .nil⟩)
    ⟨.directory, .nil⟩
  workDir := workDir

inductive Error where
  | notFound
  | notDirectory
  | isDirectory
  | alreadyExists
  | notEmpty
  /-- The path ends in dots, where a name is needed. -/
  | noName
  /-- A directory cannot be moved into itself. -/
  | intoItself
  | nameTooLong
  /-- A name cannot hold the character zero. -/
  | badName
  deriving Repr, DecidableEq

def Error.message : Error → String
  | notFound => "No such file or directory"
  | notDirectory => "Not a directory"
  | isDirectory => "Is a directory"
  | alreadyExists => "File exists"
  | notEmpty => "Directory not empty"
  | noName => "Device or resource busy"
  | intoItself => "Invalid argument"
  | nameTooLong => "File name too long"
  | badName => "file name contained an unexpected NUL byte"

def maxName : Nat := 255

def maxPath : Nat := 4095

def checkPath (p : Path) : Except Error Unit :=
  if p.text = "" then .error .notFound
  else if p.text.toList.contains '\x00' then .error .badName
  else if maxPath < p.text.utf8ByteSize then .error .nameTooLong
  else .ok ()

/-- Goes from a place, which has to be a directory, along one piece of a path. -/
def enter (d : Disk) (here : Place) (piece : String) : Except Error Place :=
  match d.root.at? here with
  | none => .error .notFound
  | some ⟨.file _, _⟩ => .error .notDirectory
  | some ⟨.directory, _⟩ =>
    if Path.isIdle piece then .ok here
    else if piece = ".." then .ok here.dropLast
    else if maxName < piece.utf8ByteSize then .error .nameTooLong
    else .ok (here ++ [piece])

/-- Goes along the pieces of a path. Nothing need be at the place where they end. -/
def follow (d : Disk) (here : Place) : List String → Except Error Place
  | [] => .ok here
  | p :: ps => (d.enter here p).bind fun next => d.follow next ps

def origin (p : Path) (d : Disk) : Place := if p.isAbsolute then [] else d.workDir

def find (p : Path) (d : Disk) : Except Error (Place × Node Content) := do
  checkPath p
  let place ← d.follow (d.origin p) p.pieces
  match d.root.at? place with
  | some node => pure (place, node)
  | none => throw .notFound

def has (p : Path) (d : Disk) : Bool := (d.find p).isOk

def isDirectory (p : Path) (d : Disk) : Bool :=
  match d.find p with
  | .ok (_, node) => !node.value.isFile
  | .error _ => false

def isFile (p : Path) (d : Disk) : Bool :=
  match d.find p with
  | .ok (_, node) => node.value.isFile
  | .error _ => false

def read (p : Path) (d : Disk) : Except Error Bytes := do
  match ← d.find p with
  | (_, ⟨.file bytes, _⟩) => pure bytes
  | (_, ⟨.directory, _⟩) => throw .isDirectory

/-- A path ends in a slash, so that only a directory can be meant. -/
def isSlashed (p : Path) : Bool := p.pieces.getLast? = some ""

/--
The directory that a path's last name stands in, and that name. The directory has to exist;
slashes behind the name do not count.
-/
def slot (p : Path) (d : Disk) : Except Error (Place × String) := do
  checkPath p
  match p.pieces.reverse.dropWhile (· = "") with
  | [] => throw .noName
  | name :: before =>
    let dir ← d.follow (d.origin p) before.reverse
    let _ ← d.enter dir name
    if name = "." || name = ".." then throw .noName
    pure (dir, name)

def look (slot : Place × String) (d : Disk) : Option (Node Content) :=
  d.root.at? (slot.1 ++ [slot.2])

def fill (slot : Place × String) (node : Node Content) (d : Disk) : Disk :=
  match d.root.modify? (·.insertChild slot.2 node) slot.1 with
  | some root => { d with root }
  | none => d

def vacate (slot : Place × String) (d : Disk) : Disk :=
  match d.root.modify? (·.eraseChild slot.2) slot.1 with
  | some root => { d with root }
  | none => d

def makeDir (p : Path) (d : Disk) : Except Error Disk := do
  let slot ← d.slot p
  match d.look slot with
  | some _ => throw .alreadyExists
  | none => pure (d.fill slot ⟨.directory, .nil⟩)

/-- Writes a file, a new one or in the stead of its former content. -/
def write (p : Path) (bytes : Bytes) (d : Disk) : Except Error Disk := do
  if isSlashed p then throw .isDirectory
  let slot ← d.slot p
  match d.look slot with
  | some ⟨.directory, _⟩ => throw .isDirectory
  | _ => pure (d.fill slot ⟨.file bytes, .nil⟩)

def removeFile (p : Path) (d : Disk) : Except Error Disk := do
  let (_, node) ← d.find p
  if node.value.isFile then pure (d.vacate (← d.slot p)) else throw .isDirectory

def clearOut (place : Place) (d : Disk) : Disk :=
  match d.root.modify? (fun node => { node with children := .nil }) place with
  | some root => { d with root }
  | none => d

/--
Removes a directory with all that it holds. By a path that ends in dots only what it holds can be
removed; if that takes a directory on the way with it, nothing is left to fail on.
-/
def removeTree (p : Path) (d : Disk) : Disk × Option Error :=
  match d.find p with
  | .error e => (d, some e)
  | .ok (place, node) =>
    if node.value.isFile then (d, some .notDirectory)
    else
      match d.slot p with
      | .ok slot => (d.vacate slot, none)
      | .error e =>
        let d := d.clearOut place
        (d, if d.has p then some e else none)

/--
Moves a file or a directory. It may take the place of its like, but a directory only that of an
empty one; a slash behind either path asks for a directory.
-/
def move (source target : Path) (d : Disk) : Except Error Disk := do
  let a ← d.slot source
  let b ← d.slot target
  let here := a.1 ++ [a.2]
  let there := b.1 ++ [b.2]
  match d.look a with
  | none => throw .notFound
  | some node =>
    if node.value.isFile && (isSlashed source || isSlashed target) then throw .notDirectory
    if here = there then return d
    if here.isPrefixOf there then throw .intoItself
    if there.isPrefixOf here then throw .notEmpty
    match d.look b with
    | none => pure ()
    | some old =>
      if old.value.isFile && !node.value.isFile then throw .notDirectory
      if !old.value.isFile && node.value.isFile then throw .isDirectory
      if !old.children.isEmpty then throw .notEmpty
    pure ((d.vacate a).fill b node)

/--
Makes a directory where those above it may be missing, given the nearest first. A directory that
is there already will do.
-/
def makeDirsBelow (p : Path) (d : Disk) : List Path → Disk × Option Error
  | [] => settle d
  | dir :: above =>
    match d.makeDir p with
    | .error .notFound =>
      match makeDirsBelow dir d above with
      | (d, none) => settle d
      | failed => failed
    | _ => settle d
where
  /-- Makes the directory itself. -/
  settle (d : Disk) : Disk × Option Error :=
    match d.makeDir p with
    | .ok d => (d, none)
    | .error e => (d, if d.isDirectory p then none else some e)

def makeDirs (p : Path) (d : Disk) : Disk × Option Error :=
  if p.text = "" then (d, none) else d.makeDirsBelow p p.above

/--
The paths of all directories below the working directory, each with a slash behind it, and of all
files, in order.
-/
def listing (d : Disk) : List String :=
  match d.root.at? d.workDir with
  | none => []
  | some here =>
    let files := here.children.walks Content.isFile
    let dirs := here.children.walks (!·.isFile)
    (files.map (fun ns => (Path.mk ns).text) ++
      dirs.map (fun ns => (Path.mk ns).text ++ "/")).mergeSort

end Disk

end Retained
