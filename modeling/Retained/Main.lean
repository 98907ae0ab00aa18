import Retained.ApplyLoop
import Retained.Config
import Retained.Store.Summary

/-!
# The command line

Reads the configuration from the environment and from the file `.env`, warms a replica up with the
snapshot that the configuration names, and prints the summary of what it then holds.
-/

namespace Retained.Main

/-- The environment that a block of entries spells, each ended by a zero byte. -/
def ofBlock (block : Bytes) : Environment :=
  .ofEntries ((block.splitOn 0).filterMap Bytes.text?)

/-- The content of a file, or nothing if it cannot be read. -/
def readFile (path : String) : IO Bytes := do
  try
    return .ofByteArray (← IO.FS.readBinFile path)
  catch _ => return []

def environment : IO Environment := do
  let env := ofBlock (← readFile "/proc/self/environ")
  return Dotenv.read ((Bytes.text? (← readFile ".env")).getD "") env

/-- The files of a snapshot directory and of its parked predecessor. -/
def snapshotFiles (dir : Path) : IO Disk := do
  let mut disk : Disk := {}
  for holder in [dir, Snapshot.parkedDir dir] do
    for name in [Snapshot.metaFile, Snapshot.dataFile] do
      let file := holder.join (.ofString name)
      let content ← readFile file.text
      unless content.isEmpty do
        disk := (Disk.run [.makeDirs holder, .write file content] disk).1
  return disk

def report (dir : Path) : Reply → IO Unit
  | .snapshot (.ok index) => IO.eprintln s!"Recovered retained state at index {index}"
  | .snapshot (.error e) => IO.eprintln s!"Failed to recover snapshot {dir.quoted}: {e.message}"
  | _ => return

end Retained.Main

open Retained in
def main : IO UInt32 := do
  match Config.load (← Main.environment) with
  | .error e =>
    IO.eprintln e.message
    return 1
  | .ok config =>
    let dir := Path.ofString config.snapshotPath
    let disk ← Main.snapshotFiles dir
    let mut replica := Replica.empty config.limits
    if Snapshot.isPublished dir disk then
      let (replies, warm, _) := replica.submit [.load dir] disk
      replies.forM (Main.report dir)
      replica := warm
    IO.println ((Bytes.text? replica.machine.summary.toJson.compact).getD "")
    return 0
