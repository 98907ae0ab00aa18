import Retained.Proofs.Snapshot.Publish

/-!
# What a finished save hands over

Publishing swaps the staging directory for the target (`Swap`). A published directory has the meta
file that its snapshot was sealed with (`Staging.info_of_publish`). A save whose last step
succeeded leaves its two files there (`Save.filed_of_run`), whatever the way to the directory leads
through. As long as the directory does not change, nothing but what was saved can be read back
(`Save.readBack_done`): the parked one is looked at only where the target is not sealed, and it is
reached only where the target is reached as well (`reaches_of_parked`).
-/

namespace Retained.Snapshot

open Disk Retained.Path

variable {dir : Path} {d d' : Disk} {t : Node Content}

/-! ## Publishing -/

theorem Staging.start_eq_ok {w : Staging} {n : Nat} (h : start dir n d = (.ok w, d')) :
    w = ⟨dir, n, []⟩ ∧ Keeps d d' := by
  unfold start at h
  split at h
  · cases h
  · next done =>
    cases h
    exact ⟨rfl, .of_run done⟩

theorem fileName?_of_move {p q : Path} (h : (Step.move p q).run d = (d', none)) :
    ∃ name, q.fileName? = some name := by
  obtain ⟨-, slot, -, -, target, -⟩ := move_eq_ok (attempt_eq_none.1 h)
  exact ⟨slot.2, slot_fileName? target⟩

/-- The steps that make a staging directory the target, with the disks that they leave. -/
structure Swap (dir : Path) (d d₁ d₂ d₃ d' : Disk) : Prop where
  clear : (Step.clear (parkedDir dir)).run d = (d₁, none)
  aside : (Step.moveAside dir (parkedDir dir)).run d₁ = (d₂, none)
  publish : (Step.move (stagingDir dir) dir).run d₂ = (d₃, none)
  done : (Step.clear (parkedDir dir)).run d₃ = (d', none)

namespace Swap

variable {d₁ d₂ d₃ : Disk} (h : Swap dir d d₁ d₂ d₃ d')

include h

theorem exists_fileName? : ∃ name, dir.fileName? = some name := fileName?_of_move h.publish

theorem keeps₁ : Keeps d d₁ := .of_step h.clear

theorem keeps₂ : Keeps d d₂ := h.keeps₁.trans (.of_step h.aside)

theorem keeps₃ : Keeps d d₃ := h.keeps₂.trans (.of_step h.publish)

theorem keeps : Keeps d d' := h.keeps₃.trans (.of_step h.done)

theorem within_aside : Within [d.place dir, d.place (parkedDir dir)] d₁ d₂ := by
  obtain ⟨name, named⟩ := h.exists_fileName?
  rw [← h.keeps₁.place_eq, ← h.keeps₁.place_eq]
  rcases moveAside_cases h.aside with ⟨-, moved⟩ | ⟨-, rfl⟩
  · obtain ⟨-, -, W, -⟩ := move_places (apart_target_parked named) moved
    exact W
  · exact .refl _ _

/-- Until it is published, the staging directory is left alone. -/
theorem staged : d₂.root.at? (d.place (stagingDir dir)) =
    d.root.at? (d.place (stagingDir dir)) := by
  obtain ⟨name, named⟩ := h.exists_fileName?
  rw [h.within_aside.at?_eq _ (by simpa using
      ⟨apart_target_staging named, (apart_staging_parked named).symm⟩),
    (clear_place (names_parked named) h.clear).1.at?_eq _
      (by simpa using (apart_staging_parked named).symm)]

theorem target (staged : d.root.at? (d.place (stagingDir dir)) = some t) :
    d'.root.at? (d'.place dir) = some t := by
  obtain ⟨name, named⟩ := h.exists_fileName?
  obtain ⟨u, source, -, -, target⟩ := move_places (apart_target_staging named).symm h.publish
  have W₄ := (clear_place (names_parked named) h.done).1
  rw [h.keeps₂.place_eq] at source target
  obtain rfl : u = t := Option.some.inj (source.symm.trans (h.staged.trans staged))
  rw [(Keeps.of_step h.done).place_eq,
    W₄.at?_eq _ (by simpa using (apart_target_parked named).symm), h.keeps₃.place_eq, target]

end Swap

theorem data_of_steps {p : Path} {bytes : Bytes} {d₁ : Disk}
    (write : (Step.write (p.join ⟨[unfinishedFile]⟩) bytes).run d = (d₁, none))
    (rename : (Step.move (p.join ⟨[unfinishedFile]⟩) (p.join ⟨[dataFile]⟩)).run d₁ = (d', none)) :
    Fits p unfinishedFile ∧
      d'.root.at? (d'.place p ++ [dataFile]) = some ⟨.file bytes, .nil⟩ := by
  obtain ⟨reaches, -, -, written⟩ := write_join isName_unfinishedFile write
  obtain ⟨u, source, -, -, target⟩ := move_places
    (by rw [place_join isName_unfinishedFile, place_join isName_dataFile]; exact apart_of_ne (by decide))
    rename
  rw [place_join isName_unfinishedFile, (Keeps.of_step write).place_eq] at source
  obtain rfl : u = ⟨.file bytes, .nil⟩ := Option.some.inj (source.symm.trans written)
  rw [place_join isName_dataFile, ← (Keeps.of_step rename).place_eq] at target
  exact ⟨⟨reaches.check, reaches.way_open.short⟩, target⟩

theorem Staging.publish_eq_none {w : Staging} {createdAt : String} :
    w.publish createdAt d = (none, d') ↔ run (w.publishSteps createdAt) d = (d', none) := by
  unfold publish
  cases run (w.publishSteps createdAt) d with
  | mk d₁ e =>
    cases e with
    | none => simp
    | some e => simp

/-- A publication that succeeds seals the staging directory and makes it the target. -/
theorem Staging.exists_swap {w : Staging} {createdAt : String}
    (h : w.publish createdAt d = (none, d')) :
    ∃ d₀ d₁ d₂ d₃, (Step.write (w.dir.join ⟨[metaFile]⟩) (w.toMeta createdAt).encode).run d =
        (d₀, none) ∧ Swap w.target d₀ d₁ d₂ d₃ d' := by
  have steps := publish_eq_none.1 h
  unfold Staging.publishSteps at steps
  rw [ofString_metaFile] at steps
  simp only [run_cons_eq_none] at steps
  obtain ⟨d₀, sealing, d₁, clear, d₂, aside, d₃, publish, d₄, done, last⟩ := steps
  obtain rfl : d₄ = d' := congrArg Prod.fst last
  exact ⟨d₀, d₁, d₂, d₃, sealing, clear, aside, publish, done⟩

/-- The meta file of a published directory says what the snapshot was sealed with. -/
theorem Staging.info_of_publish {w : Staging} {createdAt : String}
    (h : w.publish createdAt d = (none, d')) :
    d'.root.at? (d'.place w.target ++ [metaFile]) =
      some ⟨.file (w.toMeta createdAt).encode, .nil⟩ := by
  obtain ⟨d₀, d₁, d₂, d₃, sealing, swap⟩ := exists_swap h
  obtain ⟨-, -, isDir, info⟩ := write_join isName_metaFile sealing
  rw [← (Keeps.of_step sealing).place_eq] at isDir info
  obtain ⟨t, staged, -, info⟩ := exists_node isDir info
  rw [Node.at?_append_some (swap.target staged), info]

/-! ## Saves -/

/-- Whoever gets to the meta file of the parked directory gets to that of the target, if it is
there. -/
theorem reaches_of_parked {name : String} (named : dir.fileName? = some name)
    (h : d.Reaches (parkedDir dir) metaFile) (isDir : d.IsDir (d.place dir))
    (check : checkPath (dir.join ⟨[metaFile]⟩) = .ok ()) : d.Reaches dir metaFile := by
  have same_origin : d.origin (parkedDir dir) = d.origin dir := by
    rw [Disk.origin, Disk.origin, parkedDir, isAbsolute_sibling named]
  have way_open := h.way_open
  rw [(names_parked named).core, same_origin] at way_open
  have dirs := (forall_stops_concat.1 way_open.dirs).1
  obtain ⟨short, meta_short⟩ := short_concat.1 way_open.short
  obtain ⟨way_short, parked_short⟩ := short_concat.1 short
  have beside := parked_short (names_parked named).isName
  simp only [String.utf8ByteSize_append] at beside
  refine ⟨check, ?_⟩
  rw [Disk.place, ← lead_core] at isDir
  rw [core_of_fileName? named] at isDir ⊢
  rw [forall_stops_concat] at dirs
  exact ⟨forall_stops_concat.2 ⟨forall_stops_concat.2 dirs, isDir⟩,
    short_concat.2 ⟨short_concat.2 ⟨way_short, fun _ => by omega⟩, meta_short⟩⟩

namespace Save

variable {s : Save} {x : Meta × Snapshot}

structure Filed (s : Save) (t : Node Content) : Prop where
  info : t.at? [metaFile] = some ⟨.file s.outcome.1.encode, .nil⟩
  data : t.at? [dataFile] = some ⟨.file s.data.encode, .nil⟩

/-- The files say what was saved, or cannot be read. -/
theorem Filed.eq_outcome (h : s.Filed t) (holds : Holds t x) : x = s.outcome := by
  obtain ⟨bytes, c, info, decoded⟩ := holds.info
  obtain ⟨raw, c', data, decodes⟩ := holds.data
  obtain rfl : bytes = s.outcome.1.encode := by
    have := info.symm.trans h.info
    simp_all
  obtain rfl : raw = s.data.encode := by
    have := data.symm.trans h.data
    simp_all
  rw [Meta.decode?_encode] at decoded
  refine Prod.ext ?_ ?_
  · split at decoded
    · exact (Option.some.inj decoded).symm
    · cases decoded
  · by_cases short : s.data.body.length < 2 ^ 32
    · rw [decode_encode_short short] at decodes
      exact (Except.ok.inj decodes).symm
    · rw [decode_encode_long short] at decodes
      cases decodes

theorem exists_fileName? (h : run s.script d = (d', none)) :
    ∃ name, s.dir.fileName? = some name := by
  rw [script_eq] at h
  simp only [run_cons_eq_none] at h
  obtain ⟨_, -, _, -, _, -, _, -, _, -, _, -, d₇, -, _, publish, -⟩ := h
  exact fileName?_of_move publish

theorem filed_staging {d₃ d₄ : Disk}
    (write : (Step.write ((stagingDir s.dir).join ⟨[unfinishedFile]⟩) s.data.encode).run d =
      (d₃, none))
    (rename : (Step.move ((stagingDir s.dir).join ⟨[unfinishedFile]⟩)
      ((stagingDir s.dir).join ⟨[dataFile]⟩)).run d₃ = (d₄, none))
    (sealed : (Step.write ((stagingDir s.dir).join ⟨[metaFile]⟩) s.outcome.1.encode).run d₄ =
      (d', none)) :
    ∃ t, d'.root.at? (d'.place (stagingDir s.dir)) = some t ∧ t.value = .directory ∧ s.Filed t := by
  obtain ⟨-, target⟩ := data_of_steps write rename
  obtain ⟨-, W, isDir, info⟩ := write_join isName_metaFile sealed
  rw [← W.at?_eq _ (by simpa using apart_of_ne (by decide))] at target
  rw [← (Keeps.of_step sealed).place_eq] at target isDir info
  obtain ⟨t, found, directory, data⟩ := exists_node isDir target
  exact ⟨t, found, directory, (Node.at?_append_some found).symm.trans info, data⟩

theorem filed_of_run (h : run s.script d = (d', none)) :
    ∃ t, d'.root.at? (d'.place s.dir) = some t ∧ t.value = .directory ∧ s.Filed t := by
  rw [script_eq] at h
  simp only [run_cons_eq_none] at h
  obtain ⟨d₁, h₁, d₂, h₂, d₃, h₃, d₄, h₄, d₅, h₅, d₆, h₆, d₇, h₇, d₈, h₈, d₉, h₉, last⟩ := h
  obtain rfl : d₉ = d' := congrArg Prod.fst last
  obtain ⟨t, staged, directory, filed⟩ := filed_staging h₃ h₄ h₅
  have swap : Swap s.dir d₅ d₆ d₇ d₈ d₉ := ⟨h₆, h₇, h₈, h₉⟩
  exact ⟨t, swap.target staged, directory, filed⟩

/--
As long as the directory is what it was when the save was done, nothing but what was saved can be
read back, unless the path to its meta file is too long. What the parked directory has become does
not matter.
-/
theorem readBack_done {e : Disk} (h : run s.script d = (d', none))
    (check : checkPath (s.dir.join (.ofString metaFile)) = .ok ())
    (same : e.root.at? (e.place s.dir) = d'.root.at? (d'.place s.dir))
    (read : readBack s.dir e = .ok x) : x = s.outcome := by
  obtain ⟨t, there, directory, filed⟩ := filed_of_run h
  obtain ⟨name, named⟩ := exists_fileName? h
  rw [← same] at there
  rw [ofString_metaFile] at check
  rw [readBack_eq] at read
  split at read
  · obtain ⟨-, -, u, found, holds⟩ := readSealed_eq_ok.1 read
    obtain rfl : u = t := Option.some.inj (found.symm.trans there)
    exact filed.eq_outcome holds
  split at read
  · next unsealed parked =>
    have reaches := reaches_of_parked named (isSealed_iff.1 parked).1 ⟨t, there, directory⟩ check
    have info := (Node.at?_append_some there).trans filed.info
    exact absurd (isSealed_iff.2 ⟨reaches, _, info⟩) unsealed
  · cases read

end Save

end Retained.Snapshot
