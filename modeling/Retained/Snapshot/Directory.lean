import Retained.Disk.Script
import Retained.Snapshot.Codec
import Retained.Snapshot.Meta

/-!
# Snapshot directories

A snapshot is a directory that holds the files which a state machine registered and the meta file.
It is written in a staging directory beside the target and published by renames: the snapshot that
it replaces is parked beside the target meanwhile, so that one of the two can be opened whenever a
crash comes. Opening takes the target if it is sealed, and the parked snapshot otherwise.
-/

namespace Retained.Snapshot

def dataFile : String := "retained_msg.snapshot"

/-! ## Writing the data file -/

/-- What the files of a snapshot are written to. -/
class Sink (ω : Type) where
  /-- The directory of the files. -/
  dir : ω → Path
  /-- Registers a file that has been written, or refuses it. -/
  register : String → Disk → ω → Bool × ω

/-- Writes the data under another name first, so that the file appears as a whole. -/
def saveSteps (dir : Path) (d : Snapshot) : List Disk.Step :=
  let file := dir.join (.ofString dataFile)
  let unfinished := dir.join (.ofString (dataFile ++ ".tmp"))
  [.write unfinished d.encode, .move unfinished file]

/-- Writes the data file to a sink and registers it. Answers what went wrong, if anything. -/
def save {ω : Type} [Sink ω] (d : Snapshot) (w : ω) (disk : Disk) : Option Error × ω × Disk :=
  match Disk.run (saveSteps (Sink.dir w) d) disk with
  | (disk, some e) => (some (.io (.disk e)), w, disk)
  | (disk, none) =>
    match Sink.register dataFile disk w with
    | (true, w) => (none, w, disk)
    | (false, w) => (some (.io (.notRegistered dataFile)), w, disk)

/-! ## Publishing a directory -/

/-- Where the snapshot of a directory is written before it is published. -/
def stagingDir (target : Path) : Path := target.sibling "staging"

/-- Where the snapshot of a directory is kept while another takes its place. -/
def parkedDir (target : Path) : Path := target.sibling "prev"

structure Staging where
  target : Path
  appliedIndex : Nat
  /-- The registered files, in order of first registration. -/
  files : List String := []
  deriving Repr, DecidableEq

namespace Staging

def dir (w : Staging) : Path := stagingDir w.target

/-- Only a file that is there can be registered; once is enough. -/
def register (name : String) (disk : Disk) (w : Staging) : Bool × Staging :=
  if disk.isFile (w.dir.join (.ofString name)) then
    (true, if name ∈ w.files then w else { w with files := w.files ++ [name] })
  else (false, w)

instance : Sink Staging := ⟨dir, register⟩

def startSteps (target : Path) : List Disk.Step :=
  [.clear (stagingDir target), .makeDirs (stagingDir target)]

def start (target : Path) (appliedIndex : Nat) (disk : Disk) : Except Error Staging × Disk :=
  match Disk.run (startSteps target) disk with
  | (disk, some e) => (.error (.io (.disk e)), disk)
  | (disk, none) => (.ok { target, appliedIndex }, disk)

def toMeta (createdAt : String) (w : Staging) : Meta := ⟨w.appliedIndex, createdAt, w.files⟩

/-- Seals the snapshot, parks the one that is published, and takes its place. -/
def publishSteps (createdAt : String) (w : Staging) : List Disk.Step :=
  [.write (w.dir.join (.ofString metaFile)) (w.toMeta createdAt).encode,
   .clear (parkedDir w.target),
   .moveAside w.target (parkedDir w.target),
   .move w.dir w.target,
   .clear (parkedDir w.target)]

def publish (createdAt : String) (w : Staging) (disk : Disk) : Option Error × Disk :=
  match Disk.run (w.publishSteps createdAt) disk with
  | (disk, some e) => (some (.io (.disk e)), disk)
  | (disk, none) => (none, disk)

end Staging

/-! ## Reading -/

structure Source where
  dir : Path
  files : List String
  deriving Repr, DecidableEq

def load (r : Source) (disk : Disk) : Except Error Snapshot :=
  if dataFile ∈ r.files then
    match disk.read (r.dir.join (.ofString dataFile)) with
    | .error e => .error (.io (.disk e))
    | .ok raw => decode raw
  else .error (.unavailable (.notListed dataFile r.dir))

structure Opened where
  dir : Path
  info : Meta
  deriving Repr, DecidableEq

def Opened.source (o : Opened) : Source := ⟨o.dir, o.info.files⟩

def isSealed (dir : Path) (disk : Disk) : Bool := disk.has (dir.join (.ofString metaFile))

def isPublished (dir : Path) (disk : Disk) : Bool :=
  isSealed dir disk || isSealed (parkedDir dir) disk

def openSealed (dir : Path) (disk : Disk) : Except Error Opened :=
  match disk.read (dir.join (.ofString metaFile)) with
  | .error e => .error (.io (.disk e))
  | .ok bytes =>
    match Meta.decode? bytes with
    | some info => .ok ⟨dir, info⟩
    | none => .error (.codec .unreadable)

/-- Opens the snapshot of a directory, or the parked one where there is none. -/
def openDir (dir : Path) (disk : Disk) : Except Error Opened :=
  if isSealed dir disk then openSealed dir disk
  else if isSealed (parkedDir dir) disk then openSealed (parkedDir dir) disk
  else .error (.unavailable (.noSnapshot dir))

end Retained.Snapshot
