import Retained.Disk

/-!
# Scripts

A change that a crash may cut short is written as a list of steps, so that what it leaves behind
after any of them can be told: `run` stops at the first step that fails and keeps what came
before.
-/

namespace Retained.Disk

inductive Step where
  /-- Removes the directory at a path, if something is there. -/
  | clear (p : Path)
  | makeDirs (p : Path)
  | write (p : Path) (bytes : Bytes)
  | move (source target : Path)
  /-- Moves what is at a path, if something is there. -/
  | moveAside (source target : Path)
  deriving Repr, DecidableEq

/-- A change that happens as a whole or not at all. -/
def attempt (change : Disk → Except Error Disk) (d : Disk) : Disk × Option Error :=
  match change d with
  | .ok d => (d, none)
  | .error e => (d, some e)

def Step.run : Step → Disk → Disk × Option Error
  | .clear p, d => if d.has p then d.removeTree p else (d, none)
  | .makeDirs p, d => d.makeDirs p
  | .write p bytes, d => d.attempt (Disk.write p bytes)
  | .move source target, d => d.attempt (Disk.move source target)
  | .moveAside source target, d =>
    if d.has source then d.attempt (Disk.move source target) else (d, none)

/-- Runs the steps in order, up to the first that fails. -/
def run : List Step → Disk → Disk × Option Error
  | [], d => (d, none)
  | s :: rest, d =>
    match s.run d with
    | (d, none) => run rest d
    | failed => failed

theorem run_append (first second : List Step) (d : Disk) :
    run (first ++ second) d =
      match run first d with
      | (d, none) => run second d
      | failed => failed := by
  induction first generalizing d with
  | nil => rfl
  | cons s rest ih =>
    simp only [List.cons_append, run]
    cases s.run d with
    | mk d' e => cases e with
      | none => exact ih d'
      | some e => rfl

end Retained.Disk
