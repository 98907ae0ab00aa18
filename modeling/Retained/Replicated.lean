import Retained.Snapshot.Directory
import Retained.Store.Requests

/-!
# Replicated state machines

A state machine that is replicated takes writes one at a time, in the same order on every replica,
and saves and takes over snapshots. It may crash, and it may let go of the report that a save
owes. A retained store does neither: `Store.save` and `Store.load` say what it does instead.
-/

namespace Retained

inductive SaveReport where
  | reported (ok : Bool) (cause : Option Snapshot.Error)
  /-- No report will ever come. -/
  | dropped
  | crashed
  deriving Repr, DecidableEq

/-- A state machine with states in `σ`. Where there is no answer, it crashed. -/
class Replicated (σ : Type) where
  /-- The group of requests that it answers. -/
  group : String
  write : WriteRequest → σ → Option Response × σ
  save {ω : Type} [Snapshot.Sink ω] : ω → Disk → σ → SaveReport × ω × Disk × σ
  /-- Takes over a snapshot, or refuses it. -/
  load : Snapshot.Source → Disk → σ → Option Bool × σ

namespace Store

def save {ω : Type} [Snapshot.Sink ω] (w : ω) (disk : Disk) (s : Store) :
    SaveReport × ω × Disk × Store :=
  match s.toSnapshot.save w disk with
  | (none, w, disk) => (.reported true none, w, disk, s)
  | (some e, w, disk) => (.reported false (some e), w, disk, s)

/-- Takes over the state of a snapshot, unless it cannot be read. -/
def load (r : Snapshot.Source) (disk : Disk) (s : Store) : Bool × Store :=
  match Snapshot.load r disk with
  | .ok d => (true, s.restore d)
  | .error _ => (false, s)

instance : Replicated Store where
  group := retainedGroup
  write r s := let (response, s) := s.write r; (some response, s)
  save := Store.save
  load r disk s := let (accepted, s) := s.load r disk; (some accepted, s)

end Store

end Retained
