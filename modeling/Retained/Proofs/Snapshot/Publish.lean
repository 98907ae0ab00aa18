import Retained.Proofs.Snapshot.Family

/-!
# What a crash leaves of a save

A save is the script of its file operations (`Save.script`). Its steps take the three directories
from one stage to the next (`Save.Stage`), so it is known what can be read back after any number
of them (`Save.readBack_cut`).
-/

namespace Retained.Snapshot

open Disk Retained.Path

/-- A save of data to a directory, as of a write, under a time of creation. -/
structure Save where
  dir : Path
  appliedIndex : Nat
  createdAt : String
  data : Snapshot

namespace Save

def script (s : Save) : List Disk.Step :=
  Staging.startSteps s.dir ++ saveSteps (stagingDir s.dir) s.data ++
    (Staging.mk s.dir s.appliedIndex [dataFile]).publishSteps s.createdAt

def outcome (s : Save) : Meta × Snapshot := (⟨s.appliedIndex, s.createdAt, [dataFile]⟩, s.data)

/-! ## Stages -/

/-- So far neither the target nor the parked snapshot has been touched. -/
structure Kept (s : Save) (d₀ d : Disk) : Prop extends Frame s.dir d₀ d where
  target : d.root.at? (d₀.place s.dir) = d₀.root.at? (d₀.place s.dir)
  parked : d.root.at? (d₀.place (parkedDir s.dir)) = d₀.root.at? (d₀.place (parkedDir s.dir))

def Staged (s : Save) (P : Node Content → Prop) (d₀ d : Disk) : Prop :=
  ∃ t, d.root.at? (d₀.place (stagingDir s.dir)) = some t ∧ P t

structure Cleared (s : Save) (d₀ d : Disk) : Prop extends Frame s.dir d₀ d where
  target : d.root.at? (d₀.place s.dir) = d₀.root.at? (d₀.place s.dir)
  parked : d.root.at? (d₀.place (parkedDir s.dir)) = none
  staged : s.Staged (Holds · s.outcome) d₀ d

/-- The target has been parked, unless there was no directory. -/
structure Aside (s : Save) (d₀ d : Disk) : Prop extends Frame s.dir d₀ d where
  swapped : d.root.at? (d₀.place s.dir) = none ∧
      d.root.at? (d₀.place (parkedDir s.dir)) = d₀.root.at? (d₀.place s.dir) ∨
    d.root.at? (d₀.place s.dir) = d₀.root.at? (d₀.place s.dir) ∧
      d.root.at? (d₀.place (parkedDir s.dir)) = none ∧ ¬ d₀.IsDir (d₀.place s.dir)
  staged : s.Staged (Holds · s.outcome) d₀ d

structure Published (s : Save) (d₀ d : Disk) : Prop extends Frame s.dir d₀ d where
  holds : ∃ t, d.root.at? (d₀.place s.dir) = some t ∧ Holds t s.outcome

/-- None of the paths beside the target is too long. -/
abbrev Room (s : Save) : Prop := Fits (stagingDir s.dir) unfinishedFile

/-- What is known of a disk after so many steps of a save. -/
def Stage (s : Save) (d₀ : Disk) : Nat → Disk → Prop
  | 0, d | 1, d | 2, d => s.Kept d₀ d
  | 3, d => s.Kept d₀ d ∧ s.Room ∧ s.Staged (HoldsFile unfinishedFile s.data.encode) d₀ d
  | 4, d => s.Kept d₀ d ∧ s.Room ∧ s.Staged (HoldsFile dataFile s.data.encode) d₀ d
  | 5, d => s.Kept d₀ d ∧ s.Room ∧ s.Staged (Holds · s.outcome) d₀ d
  | 6, d => s.Cleared d₀ d ∧ s.Room
  | 7, d => s.Aside d₀ d ∧ s.Room
  | _, d => s.Published d₀ d ∧ s.Room

variable {s : Save} {name : String} {d₀ d d' : Disk}

theorem script_eq (s : Save) :
    s.script =
      [.clear (stagingDir s.dir),
       .makeDirs (stagingDir s.dir),
       .write ((stagingDir s.dir).join ⟨[unfinishedFile]⟩) s.data.encode,
       .move ((stagingDir s.dir).join ⟨[unfinishedFile]⟩) ((stagingDir s.dir).join ⟨[dataFile]⟩),
       .write ((stagingDir s.dir).join ⟨[metaFile]⟩)
         (Meta.encode ⟨s.appliedIndex, s.createdAt, [dataFile]⟩),
       .clear (parkedDir s.dir),
       .moveAside s.dir (parkedDir s.dir),
       .move (stagingDir s.dir) s.dir,
       .clear (parkedDir s.dir)] := by
  unfold script Staging.startSteps saveSteps Staging.publishSteps Staging.dir Staging.toMeta
  rw [← ofString_unfinishedFile, ← ofString_dataFile, ← ofString_metaFile]
  rfl

section Steps

variable (named : s.dir.fileName? = some name)

include named

theorem Kept.of_within {places : List Place} (K : s.Kept d₀ d) (F : Frame s.dir d₀ d')
    (W : Within places d d') (below : ∀ v ∈ places, d₀.place (stagingDir s.dir) <+: v) :
    s.Kept d₀ d' := by
  have same {w : Place} (h : Apart (d₀.place (stagingDir s.dir)) w) :
      d'.root.at? w = d.root.at? w :=
    W.at?_eq w fun v hv => h.mono (below v hv) (List.prefix_refl w)
  exact ⟨F, (same (apart_target_staging named).symm).trans K.target,
    (same (apart_staging_parked named)).trans K.parked⟩

variable (det : Detached s.dir d₀)

include det

theorem Kept.clear (K : s.Kept d₀ d)
    (h : (Step.clear (stagingDir s.dir)).run d = (d', none)) : s.Kept d₀ d' := by
  obtain ⟨F, W, -⟩ := frame_clear K.toFrame det (staging_mem_family s.dir) (names_staging named) h
  exact K.of_within named F W (by simp)

theorem Kept.makeDirs (K : s.Kept d₀ d)
    (h : (Step.makeDirs (stagingDir s.dir)).run d = (d', none)) : s.Kept d₀ d' := by
  obtain ⟨F, W⟩ := frame_makeDirs K.toFrame named det h
  exact K.of_within named F W (by simp)

theorem stage_write (K : s.Kept d₀ d)
    (h : (Step.write ((stagingDir s.dir).join ⟨[unfinishedFile]⟩) s.data.encode).run d =
      (d', none)) : s.Stage d₀ 3 d' := by
  obtain ⟨F, fits, W, isDir, file⟩ := frame_write K.toFrame named det isName_unfinishedFile h
  obtain ⟨t, found, directory, within⟩ := exists_node isDir file
  exact ⟨K.of_within named F W (by simp), fits, t, found, directory, within⟩

theorem stage_rename (h : s.Stage d₀ 3 d)
    (done : (Step.move ((stagingDir s.dir).join ⟨[unfinishedFile]⟩)
      ((stagingDir s.dir).join ⟨[dataFile]⟩)).run d = (d', none)) : s.Stage d₀ 4 d' := by
  obtain ⟨K, room, t, found, directory, file⟩ := h
  obtain ⟨u, there, F, W, data⟩ :=
    frame_rename K.toFrame det isName_unfinishedFile isName_dataFile (by decide) done
  obtain rfl : u = ⟨.file s.data.encode, .nil⟩ := by
    rw [Node.at?_append_some found, file] at there
    exact (Option.some.inj there).symm
  have isDir : d'.IsDir (d₀.place (stagingDir s.dir)) :=
    (W.isDir_iff _ (by simp [not_prefix_append])).2 ⟨t, found, directory⟩
  obtain ⟨t', found', directory', within⟩ := exists_node isDir data
  exact ⟨K.of_within named F W (by simp), room, t', found', directory', within⟩

theorem stage_seal (index : s.appliedIndex < 2 ^ 64) (short : s.data.body.length < 2 ^ 32)
    (h : s.Stage d₀ 4 d)
    (done : (Step.write ((stagingDir s.dir).join ⟨[metaFile]⟩)
      (Meta.encode ⟨s.appliedIndex, s.createdAt, [dataFile]⟩)).run d = (d', none)) :
    s.Stage d₀ 5 d' := by
  obtain ⟨K, room, t, found, -, file⟩ := h
  obtain ⟨F, -, W, isDir, info⟩ := frame_write K.toFrame named det isName_metaFile done
  have kept : d'.root.at? (d₀.place (stagingDir s.dir) ++ [dataFile]) =
      some ⟨.file s.data.encode, .nil⟩ := by
    rw [W.at?_eq _ (by simpa using apart_of_ne (by decide)), Node.at?_append_some found, file]
  obtain ⟨t', found', directory, data⟩ := exists_node isDir kept
  rw [Node.at?_append_some found'] at info
  have decoded : Meta.decode? (Meta.encode ⟨s.appliedIndex, s.createdAt, [dataFile]⟩) =
      some s.outcome.1 := by
    rw [Meta.decode?_encode, if_pos index]
    rfl
  exact ⟨K.of_within named F W (by simp), room, t', found', directory, ⟨_, _, info, decoded⟩,
    List.mem_singleton.2 rfl, _, _, data, decode_encode_short short⟩

theorem stage_clear (h : s.Stage d₀ 5 d)
    (done : (Step.clear (parkedDir s.dir)).run d = (d', none)) : s.Stage d₀ 6 d' := by
  obtain ⟨K, room, t, found, holds⟩ := h
  obtain ⟨F, W, gone⟩ :=
    frame_clear K.toFrame det (parked_mem_family s.dir) (names_parked named) done
  refine ⟨⟨F, ?_, ?_, t, ?_, holds⟩, room⟩
  · exact (W.at?_eq _ (by simpa using (apart_target_parked named).symm)).trans K.target
  · cases there : d'.root.at? (d₀.place (parkedDir s.dir)) with
    | none => rfl
    | some u => cases gone.symm.trans (has_parked named room F there)
  · exact (W.at?_eq _ (by simpa using (apart_staging_parked named).symm)).trans found

theorem stage_aside (check : checkPath (s.dir.join ⟨[dataFile]⟩) = .ok ()) (h : s.Stage d₀ 6 d)
    (done : (Step.moveAside s.dir (parkedDir s.dir)).run d = (d', none)) : s.Stage d₀ 7 d' := by
  obtain ⟨C, room⟩ := h
  obtain ⟨t, found, holds⟩ := C.staged
  rcases moveAside_cases done with ⟨-, done⟩ | ⟨absent, rfl⟩
  · obtain ⟨u, target, F, W, left, right⟩ := frame_move C.toFrame det
      ⟨_, dir_mem_family s.dir, List.prefix_refl _⟩ ⟨_, parked_mem_family s.dir, List.prefix_refl _⟩
      (apart_target_parked named) done
    refine ⟨⟨F, .inl ⟨left, ?_⟩, t, ?_, holds⟩, room⟩
    · rw [right, ← C.target, target]
    · refine (W.at?_eq _ ?_).trans found
      simpa using ⟨apart_target_staging named, (apart_staging_parked named).symm⟩
  · have no_dir : ¬ d₀.IsDir (d₀.place s.dir) := fun isDir => by
      have here : d'.IsDir (d₀.place s.dir) := by rwa [IsDir, C.target]
      cases absent.symm.trans (has_target named room C.toFrame check here)
    exact ⟨⟨C.toFrame, .inr ⟨C.target, C.parked, no_dir⟩, t, found, holds⟩, room⟩

theorem stage_publish (h : s.Stage d₀ 7 d)
    (done : (Step.move (stagingDir s.dir) s.dir).run d = (d', none)) : s.Stage d₀ 8 d' := by
  obtain ⟨A, room⟩ := h
  obtain ⟨t, found, holds⟩ := A.staged
  obtain ⟨u, source, F, -, -, target⟩ := frame_move A.toFrame det
    ⟨_, staging_mem_family s.dir, List.prefix_refl _⟩ ⟨_, dir_mem_family s.dir, List.prefix_refl _⟩
    (apart_target_staging named).symm done
  obtain rfl : u = t := Option.some.inj (source.symm.trans found)
  exact ⟨⟨F, u, target, holds⟩, room⟩

theorem Published.clear (P : s.Published d₀ d)
    (h : (Step.clear (parkedDir s.dir)).run d = (d', none)) : s.Published d₀ d' := by
  obtain ⟨t, found, holds⟩ := P.holds
  obtain ⟨F, W, -⟩ := frame_clear P.toFrame det (parked_mem_family s.dir) (names_parked named) h
  exact ⟨F, t, (W.at?_eq _ (by simpa using (apart_target_parked named).symm)).trans found, holds⟩

end Steps

theorem Stage.frame : ∀ {i : Nat}, s.Stage d₀ i d → Frame s.dir d₀ d
  | 0, K | 1, K | 2, K => K.toFrame
  | 3, h | 4, h | 5, h => h.1.toFrame
  | 6, h => h.1.toFrame
  | 7, h => h.1.toFrame
  | _ + 8, h => h.1.toFrame

section Run

variable (named : s.dir.fileName? = some name) (det : Detached s.dir d₀)
  (check : checkPath (s.dir.join (.ofString dataFile)) = .ok ())
  (index : s.appliedIndex < 2 ^ 64) (short : s.data.body.length < 2 ^ 32)

include named

theorem run_error {st : Step} {e : Disk.Error} (F : Frame s.dir d₀ d) (hst : st ∈ s.script)
    (h : st.run d = (d', some e)) : d' = d := by
  have beside {p : Path} {n : String} (names : p.Names s.dir.way n)
      (h : (Step.clear p).run d = (d', some e)) : d' = d := by
    rcases clear_of_names names (d := d) with ⟨_, h'⟩ | ⟨-, h'⟩ | ⟨_, -, h'⟩
    · exact (Prod.mk.inj (h.symm.trans h')).1
    · cases h.symm.trans h'
    · cases h.symm.trans h'
  rw [script_eq] at hst
  simp only [List.mem_cons, List.not_mem_nil, or_false] at hst
  rcases hst with rfl | rfl | rfl | rfl | rfl | rfl | rfl | rfl | rfl
  · exact beside (names_staging named) h
  · have dirs := F.dirs_family named (staging_mem_family s.dir)
    rw [(names_staging named).core] at dirs
    rcases makeDirs_of_names (names_staging named) dirs with ⟨_, h'⟩ | ⟨_, -, h' | h'⟩
    · exact (Prod.mk.inj (h.symm.trans h')).1
    · cases h.symm.trans h'
    · cases h.symm.trans h'
  · exact eq_of_attempt h
  · exact eq_of_attempt h
  · exact eq_of_attempt h
  · exact beside (names_parked named) h
  · unfold Step.run at h
    dsimp only at h
    split at h
    · exact eq_of_attempt h
    · cases h
  · exact eq_of_attempt h
  · exact beside (names_parked named) h

include det check index short

theorem stage_succ {i : Nat} {st : Step} (hst : s.script[i]? = some st) (h : s.Stage d₀ i d)
    (done : st.run d = (d', none)) : s.Stage d₀ (i + 1) d' := by
  rw [ofString_dataFile] at check
  rw [script_eq] at hst
  match i, hst, h with
  | 0, rfl, K => exact K.clear named det done
  | 1, rfl, K => exact K.makeDirs named det done
  | 2, rfl, K => exact stage_write named det K done
  | 3, rfl, h => exact stage_rename named det h done
  | 4, rfl, h => exact stage_seal named det index short h done
  | 5, rfl, h => exact stage_clear named det h done
  | 6, rfl, h => exact stage_aside named det check h done
  | 7, rfl, h => exact stage_publish named det h done
  | 8, rfl, h => exact ⟨h.1.clear named det done, h.2⟩
  | _ + 9, hst, _ => cases hst

theorem stage_run (F : Frame s.dir d₀ d₀) (k : Nat) :
    s.Stage d₀ (progress (s.script.take k) d₀) (run (s.script.take k) d₀).1 := by
  have within {i : Nat} {st : Step} (h : (s.script.take k)[i]? = some st) :
      s.script[i]? = some st := by
    rw [List.getElem?_take] at h
    split at h
    · exact h
    · cases h
  refine run_stage (fun i st d d' hst h done => ?_) (fun i st d d' e hst h failed => ?_) ⟨F, rfl, rfl⟩
  · exact stage_succ named det check index short (within hst) h done
  · rwa [run_error named h.frame (List.mem_of_getElem? (within hst)) failed]

end Run

/-! ## Reading at each stage -/

section Reading

variable {x : Meta × Snapshot} (named : s.dir.fileName? = some name) (F : Frame s.dir d₀ d₀)
  (old : readBack s.dir d₀ = .ok x)

include named

theorem Published.readBack_eq (P : s.Published d₀ d) (room : s.Room)
    (check : checkPath (s.dir.join ⟨[dataFile]⟩) = .ok ()) : readBack s.dir d = .ok s.outcome := by
  have member := dir_mem_family s.dir
  have check' : checkPath (s.dir.join ⟨[metaFile]⟩) = .ok () :=
    checkPath_join_of_le check (by decide) (by decide) (by decide)
  obtain ⟨t, found, holds⟩ := P.holds
  have fits := fits_target named room (by decide) check'
  have fits' := fits_target named room (by decide) check
  rw [Snapshot.readBack_eq, P.toFrame.isSealed_of_holds named member fits found holds]
  exact (P.toFrame.readSealed_iff named member).2 ⟨fits, fits', t, found, holds⟩

include F

theorem isSealed_eq {p : Path} (G : Frame s.dir d₀ d) (hp : p ∈ family s.dir)
    (same : d.root.at? (d₀.place p) = d₀.root.at? (d₀.place p)) :
    isSealed p d = isSealed p d₀ := by
  rw [Bool.eq_iff_iff, G.isSealed_iff named hp, F.isSealed_iff named hp, same]

theorem readSealed_ok_iff {p : Path} (G : Frame s.dir d₀ d) (hp : p ∈ family s.dir)
    (same : d.root.at? (d₀.place p) = d₀.root.at? (d₀.place p)) :
    readSealed p d = .ok x ↔ readSealed p d₀ = .ok x := by
  rw [G.readSealed_iff named hp, F.readSealed_iff named hp, same]

include old

/-- Before anything is cleared, the old snapshot is read where it was. -/
theorem Kept.readBack_eq (K : s.Kept d₀ d) : readBack s.dir d = .ok x := by
  rw [Snapshot.readBack_eq] at old ⊢
  rw [isSealed_eq named F K.toFrame (dir_mem_family s.dir) K.target,
    isSealed_eq named F K.toFrame (parked_mem_family s.dir) K.parked]
  split
  · next target =>
    rw [if_pos target] at old
    exact (readSealed_ok_iff named F K.toFrame (dir_mem_family s.dir) K.target).2 old
  · next target =>
    rw [if_neg target] at old
    split
    · next parked =>
      rw [if_pos parked] at old
      exact (readSealed_ok_iff named F K.toFrame (parked_mem_family s.dir) K.parked).2 old
    · next parked =>
      rw [if_neg parked] at old
      cases old

/-- With the parked snapshot cleared, only a sealed target can still be read. -/
theorem Cleared.readBack_eq (C : s.Cleared d₀ d) :
    readBack s.dir d =
      if isSealed s.dir d₀ = false then .error (.unavailable (.noSnapshot s.dir)) else .ok x := by
  have parked := C.toFrame.isSealed_of_none named (parked_mem_family s.dir) C.parked
  rw [Snapshot.readBack_eq] at old ⊢
  rw [isSealed_eq named F C.toFrame (dir_mem_family s.dir) C.target, parked]
  cases target : isSealed s.dir d₀ with
  | true =>
    rw [target] at old
    exact (readSealed_ok_iff named F C.toFrame (dir_mem_family s.dir) C.target).2 old
  | false => rfl

/-- A sealed target is read where it has been put aside; one that is not sealed is of no use
there. -/
theorem Aside.readBack_eq (A : s.Aside d₀ d) (room : s.Room)
    (check : checkPath (s.dir.join ⟨[dataFile]⟩) = .ok ()) :
    readBack s.dir d =
      if isSealed s.dir d₀ = false then .error (.unavailable (.noSnapshot s.dir)) else .ok x := by
  have member := parked_mem_family s.dir
  have fits : Fits (parkedDir s.dir) metaFile := fits_parked named room (by decide) (by decide)
  have fits' : Fits (parkedDir s.dir) dataFile := fits_parked named room (by decide) (by decide)
  rw [Snapshot.readBack_eq] at old ⊢
  cases target : isSealed s.dir d₀ with
  | true =>
    rw [target] at old
    obtain ⟨-, -, t, found, holds⟩ := (F.readSealed_iff named (dir_mem_family s.dir)).1 old
    rcases A.swapped with ⟨left, right⟩ | ⟨-, -, no_dir⟩
    · have there := right.trans found
      rw [A.toFrame.isSealed_of_none named (dir_mem_family s.dir) left,
        A.toFrame.isSealed_of_holds named member fits there holds]
      exact (A.toFrame.readSealed_iff named member).2 ⟨fits, fits', t, there, holds⟩
    · exact absurd ⟨t, found, holds.directory⟩ no_dir
  | false =>
    have unsealed : isSealed s.dir d = false ∧ isSealed (parkedDir s.dir) d = false := by
      rcases A.swapped with ⟨left, right⟩ | ⟨left, right, -⟩
      · refine ⟨A.toFrame.isSealed_of_none named (dir_mem_family s.dir) left, ?_⟩
        -- a meta file there would have sealed the target before
        rw [← Bool.not_eq_true, A.toFrame.isSealed_iff named member]
        rintro ⟨-, t, found, directory, info⟩
        have check' : checkPath (s.dir.join ⟨[metaFile]⟩) = .ok () :=
          checkPath_join_of_le check (by decide) (by decide) (by decide)
        have before : isSealed s.dir d₀ = true :=
          (F.isSealed_iff named (dir_mem_family s.dir)).2
            ⟨fits_target named room (by decide) check', t, right.symm.trans found, directory, info⟩
        rw [before] at target
        cases target
      · exact ⟨(isSealed_eq named F A.toFrame (dir_mem_family s.dir) left).trans target,
          A.toFrame.isSealed_of_none named member right⟩
    rw [unsealed.1, unsealed.2]
    rfl

end Reading

/-! ## Crashes -/

/--
What is read back when a crash cuts a save off after any of its steps, in terms of how many steps
were done. Up to the eighth step, which publishes the directory, it is the old snapshot, unless
that was only to be had from the parked directory: then the sixth step, which clears that
directory, loses it, and nothing can be read until the eighth.
-/
theorem readBack_cut {s : Save} {disk : Disk} {name : String} {old : Meta × Snapshot}
    (named : s.dir.fileName? = some name) (ordered : disk.Ordered) (detached : Detached s.dir disk)
    (check : checkPath (s.dir.join (.ofString dataFile)) = .ok ())
    (index : s.appliedIndex < 2 ^ 64) (short : s.data.body.length < 2 ^ 32)
    (readable : readBack s.dir disk = .ok old) (k : Nat) :
    readBack s.dir (Disk.run (s.script.take k) disk).1 =
      if 8 ≤ Disk.progress (s.script.take k) disk then .ok s.outcome
      else if 6 ≤ Disk.progress (s.script.take k) disk ∧ isSealed s.dir disk = false then
        .error (.unavailable (.noSnapshot s.dir))
      else .ok old := by
  have F := frame_of_readBack named ordered readable
  have stage := stage_run named detached check index short F k
  rw [ofString_dataFile] at check
  revert stage
  generalize progress (s.script.take k) disk = i
  generalize (run (s.script.take k) disk).1 = cut
  intro stage
  match i, stage with
  | 0, K | 1, K | 2, K => exact K.readBack_eq named F readable
  | 3, h | 4, h | 5, h => exact h.1.readBack_eq named F readable
  | 6, h =>
    rw [if_neg (by omega), h.1.readBack_eq named F readable]
    simp
  | 7, h =>
    rw [if_neg (by omega), h.1.readBack_eq named F readable h.2 check]
    simp
  | i + 8, h =>
    rw [if_pos (by omega)]
    exact h.1.readBack_eq named h.2 check

def blank (index : Nat) : Save := ⟨⟨["snap"]⟩, index, "", {}⟩

/-- What a crash leaves of a second save between its two renames. -/
def parkedDisk : Disk := (Disk.run ((blank 2).script.take 7) (Disk.run (blank 1).script {}).1).1

/-- The third save loses the snapshot that the second one left parked. -/
theorem readBack_cut_parked :
    readBack ⟨["snap"]⟩ parkedDisk = .ok (blank 1).outcome ∧
      readBack ⟨["snap"]⟩ (Disk.run ((blank 3).script.take 6) parkedDisk).1 =
        .error (.unavailable (.noSnapshot ⟨["snap"]⟩)) := by
  have old : readBack ⟨["snap"]⟩ parkedDisk = .ok (blank 1).outcome := by
    have value : (readBack ⟨["snap"]⟩ parkedDisk).toOption = some (blank 1).outcome := by
      decide +kernel
    revert value
    cases readBack ⟨["snap"]⟩ parkedDisk with
    | error e => nofun
    | ok x => exact fun h => congrArg _ (Option.some.inj h)
  have cut := readBack_cut (by decide : (blank 3).dir.fileName? = some "snap")
    (by decide +kernel : parkedDisk.Ordered) (by decide +kernel) (by decide +kernel) (by decide)
    (by decide +kernel) old 6
  have steps : Disk.progress ((blank 3).script.take 6) parkedDisk = 6 := by decide +kernel
  have unsealed : isSealed (blank 3).dir parkedDisk = false := by decide +kernel
  rw [steps, unsealed] at cut
  exact ⟨old, cut⟩

end Save

end Retained.Snapshot
