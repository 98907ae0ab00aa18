import Retained.Replicated

/-!
# Machines and what they are called for

A state machine knows a sink by its class alone, so all that it can do to one is to register files
(`LawfulReplicated`). `Recorded` keeps a record of the writes that a machine is called for, with
its answers, and leaves all else to the machine.
-/

namespace Retained

namespace Snapshot

/-- What registrations make of a sink. -/
inductive Registered {ω : Type} [Sink ω] (w : ω) : ω → Prop where
  | refl : Registered w w
  | register {v : ω} (name : String) (disk : Disk) (h : Registered w v) :
    Registered w (Sink.register name disk v).2

theorem Registered.staging {w v : Staging} (h : Registered w v) :
    v.target = w.target ∧ v.appliedIndex = w.appliedIndex := by
  induction h with
  | refl => exact ⟨rfl, rfl⟩
  | register name disk _ ih =>
    dsimp only [Sink.register, Staging.register]
    split
    · split
      · exact ih
      · exact ih
    · exact ih

theorem registered_save {ω : Type} [Sink ω] (x : Snapshot) (w : ω) (disk : Disk) :
    Registered w (x.save w disk).2.1 := by
  unfold Snapshot.save
  cases Disk.run (saveSteps (Sink.dir w) x) disk with
  | mk disk e =>
  cases e with
  | some e => exact .refl
  | none =>
    have one := Registered.refl (w := w) |>.register dataFile disk
    dsimp only
    split <;> next registered => rw [registered] at one; exact one

end Snapshot

/-- A save does nothing to a sink but register files. -/
class LawfulReplicated (σ : Type) [Replicated σ] : Prop where
  registered {ω : Type} [Snapshot.Sink ω] (w : ω) (disk : Disk) (s : σ) :
    Snapshot.Registered w (Replicated.save w disk s).2.1

instance : LawfulReplicated Store where
  registered w disk s := by
    have done := Snapshot.registered_save s.toSnapshot w disk
    dsimp only [Replicated.save, Store.save]
    split <;> next saved => rw [saved] at done; exact done

/-- A machine with a record of the writes that it was called for. -/
structure Recorded (σ : Type) where
  machine : σ
  /-- What it answered to each; there is no answer in a crash. -/
  writes : List (WriteRequest × Option Response) := []

instance {σ : Type} [Replicated σ] : Replicated (Recorded σ) where
  group := Replicated.group σ
  write r s :=
    let (response, machine) := Replicated.write r s.machine
    (response, ⟨machine, s.writes ++ [(r, response)]⟩)
  save w disk s :=
    let (report, w, disk, machine) := Replicated.save w disk s.machine
    (report, w, disk, { s with machine })
  load source disk s :=
    let (accepted, machine) := Replicated.load source disk s.machine
    (accepted, { s with machine })

end Retained
