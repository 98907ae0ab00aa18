import Retained.Proofs.Snapshot.Handover

/-!
# Snapshots published as a whole

A snapshot is under way from its start on: files are registered, data is saved, and more may be
written to the staging directory (`UnderWay`). Once it is published, the target is what the
staging directory was, with the meta file, and both directories beside it are gone
(`UnderWay.published`).

A path is followed anew whenever it is used. One that leads through its own staging directory
(`ThroughStaging`) leads nowhere once this has become the target, so that the target is not found
by it; any other path that a snapshot could be published to still leads there
(`Swap.find_target`).
-/

namespace Retained.Snapshot

open Disk Retained.Path

/-- On its way, the path of the directory passes the staging directory or something below it. -/
def ThroughStaging (dir : Path) (d : Disk) : Prop :=
  ∃ st ∈ stops (d.origin dir) (core dir.pieces), d.place (stagingDir dir) <+: st

instance (dir : Path) (d : Disk) : Decidable (ThroughStaging dir d) :=
  inferInstanceAs (Decidable (∃ st ∈ _, _))

variable {dir : Path} {name : String} {d d' : Disk} {t : Node Content} {st : Place}

/-! ## Where the target can be found -/

namespace Swap

variable {d₁ d₂ d₃ : Disk} (h : Swap dir d d₁ d₂ d₃ d') (ordered : d.Ordered)

include h

theorem exists_slot : ∃ s, d₁.slot dir = .ok s := by
  rcases moveAside_cases h.aside with ⟨-, moved⟩ | ⟨-, rfl⟩
  · obtain ⟨s, -, -, slot, -⟩ := move_eq_ok (attempt_eq_none.1 moved)
    exact ⟨s, slot⟩
  · obtain ⟨-, s, -, -, slot, -⟩ := move_eq_ok (attempt_eq_none.1 h.publish)
    exact ⟨s, slot⟩

include ordered

theorem parked_cleared (room : Fits (stagingDir dir) unfinishedFile) :
    d₁.root.at? (d.place (parkedDir dir)) = none := by
  obtain ⟨name, named⟩ := h.exists_fileName?
  obtain ⟨s, slot⟩ := h.exists_slot
  have gone := (clear_place (names_parked named) h.clear).2 ordered
  have F : Frame dir d₁ d₁ := ⟨rfl, h.keeps₁.ordered ordered, slot_dirs slot⟩
  rw [← h.keeps₁.place_eq]
  cases there : d₁.root.at? (d₁.place (parkedDir dir)) with
  | none => rfl
  | some u => cases gone.symm.trans (has_parked named room F there)

theorem not_isDir_target (staged : d.IsDir (d.place (stagingDir dir)))
    (below : d.place dir <+: st) :
    ¬ d₂.IsDir st := by
  obtain ⟨name, named⟩ := h.exists_fileName?
  rintro ⟨u, found, -⟩
  obtain ⟨w, rfl⟩ := below
  obtain ⟨old, there, -⟩ := Node.exists_at?_of_append found
  rw [← h.keeps₂.place_eq] at there
  rcases moveAside_cases h.aside with ⟨-, moved⟩ | ⟨absent, rfl⟩
  · obtain ⟨-, -, -, gone, -⟩ := move_places (apart_target_parked named) moved
    rw [← (Keeps.of_step h.aside).place_eq] at gone
    cases there.symm.trans (gone (h.keeps₁.ordered ordered))
  · -- nothing was put aside, so what the move could replace would have been found
    have staged : d₂.IsDir (d₂.place (stagingDir dir)) := by
      rwa [IsDir, h.keeps₂.place_eq, h.staged]
    have isDir := isDir_of_move (apart_target_staging named).symm staged h.publish there
    obtain ⟨s, slot⟩ := h.exists_slot
    obtain ⟨check, short⟩ := slot_fits slot
    cases absent.symm.trans
      (has_eq_true.2 ⟨_, _, find_of_isDir check short (slot_dirs slot) isDir there⟩)

theorem staging_vacated : d'.root.at? (d'.place (stagingDir dir)) = none := by
  obtain ⟨name, named⟩ := h.exists_fileName?
  obtain ⟨-, -, -, gone, -⟩ := move_places (apart_target_staging named).symm h.publish
  have W := (clear_place (names_parked named) h.done).1
  rw [(Keeps.of_step h.done).place_eq,
    W.at?_eq _ (by simpa using (apart_staging_parked named).symm), (Keeps.of_step h.publish).place_eq]
  exact gone (h.keeps₂.ordered ordered)

/-- Of the directories on the way to the target, the staging directory and those in it are
gone. -/
theorem isDir_stop_iff (room : Fits (stagingDir dir) unfinishedFile)
    (staged : d.IsDir (d.place (stagingDir dir)))
    (hst : st ∈ stops (d'.origin dir) (core dir.pieces)) :
    d'.IsDir st ↔ ¬ d'.place (stagingDir dir) <+: st := by
  obtain ⟨name, named⟩ := h.exists_fileName?
  have origin : d'.origin dir = d₂.origin dir := by
    rw [Disk.origin, Disk.origin, h.keeps.workDir, h.keeps₂.workDir]
  constructor
  · rintro ⟨u, found, -⟩ ⟨w, rfl⟩
    obtain ⟨v, there, -⟩ := Node.exists_at?_of_append found
    cases there.symm.trans (h.staging_vacated ordered)
  · intro not_staging
    obtain ⟨-, s, -, -, slot, -⟩ := move_eq_ok (attempt_eq_none.1 h.publish)
    have isDir : d₂.IsDir st := slot_dirs slot st (origin ▸ hst)
    -- the way was open for the move, so it does not pass what the swap has changed
    have not_target : ¬ d.place dir <+: st := fun below =>
      h.not_isDir_target ordered staged below isDir
    have not_parked : ¬ d.place (parkedDir dir) <+: st := by
      rintro ⟨w, rfl⟩
      obtain ⟨s, slot⟩ := h.exists_slot
      have origin₁ : d₂.origin dir = d₁.origin dir := by
        rw [Disk.origin, Disk.origin, (Keeps.of_step h.aside).workDir]
      obtain ⟨u, found, -⟩ := slot_dirs slot _ (origin₁ ▸ origin ▸ hst)
      obtain ⟨v, there, -⟩ := Node.exists_at?_of_append found
      cases there.symm.trans (h.parked_cleared ordered room)
    obtain ⟨-, -, W, -⟩ := move_places (apart_target_staging named).symm h.publish
    have W' := (clear_place (names_parked named) h.done).1
    rw [h.keeps.place_eq] at not_staging
    rw [W'.isDir_iff _ (by simpa [h.keeps₃.place_eq] using not_parked),
      W.isDir_iff _ (by simpa [h.keeps₂.place_eq] using ⟨not_staging, not_target⟩)]
    exact isDir

/-- The target is found, unless its path leads through the staging directory. -/
theorem find_target (room : Fits (stagingDir dir) unfinishedFile)
    (staged : d.root.at? (d.place (stagingDir dir)) = some t) (directory : t.value = .directory) :
    (d'.find dir).toOption.map Prod.snd = if ThroughStaging dir d' then none else some t := by
  have isDir_stop {st : Place} (hst : st ∈ stops (d'.origin dir) (core dir.pieces)) :=
    h.isDir_stop_iff ordered room ⟨t, staged, directory⟩ hst
  have target := h.target staged
  split
  · next through =>
    obtain ⟨st, hst, below⟩ := through
    cases found : d'.find dir with
    | error e => rfl
    | ok x =>
      obtain ⟨here, u⟩ := x
      obtain ⟨-, -, -, rfl, there⟩ := find_eq_ok.1 found
      obtain rfl : t = u := Option.some.inj (target.symm.trans there)
      exact absurd below ((isDir_stop hst).1 (find_dirs found directory st hst))
  · next open_way =>
    obtain ⟨s, slot⟩ := h.exists_slot
    obtain ⟨check, short⟩ := slot_fits slot
    have dirs : ∀ st ∈ stops (d'.origin dir) (core dir.pieces), d'.IsDir st := fun st hst =>
      (isDir_stop hst).2 fun below => open_way ⟨st, hst, below⟩
    rw [find_of_isDir check short dirs ⟨t, target, directory⟩ target]
    rfl

end Swap

/-! ## Snapshots under way -/

/--
A snapshot under way to a directory, with the names whose registration was accepted, in order, and
the data that was saved last. In between the disk may change in any way that leaves the data file
alone once it is written.
-/
inductive UnderWay (dir : Path) (index : Nat) :
    List String → Option Snapshot → Staging → Disk → Prop where
  | start {d d' : Disk} {w : Staging} (ordered : d.Ordered)
    (h : Staging.start dir index d = (.ok w, d')) : UnderWay dir index [] none w d'
  | add {names : List String} {saved : Option Snapshot} {w : Staging} {d : Disk} (name : String)
    (h : UnderWay dir index names saved w d) :
    UnderWay dir index (if (w.register name d).1 then names ++ [name] else names) saved
      (w.register name d).2 d
  | save {names : List String} {saved : Option Snapshot} {w w' : Staging} {d d' : Disk}
    {data : Snapshot} (h : UnderWay dir index names saved w d)
    (done : data.save w d = (none, w', d')) :
    UnderWay dir index (names ++ [dataFile]) (some data) w' d'
  | change {names : List String} {saved : Option Snapshot} {w : Staging} {d d' : Disk}
    (h : UnderWay dir index names saved w d) (keeps : Keeps d d')
    (kept : saved.isSome → d'.root.at? (d'.place w.dir ++ [dataFile]) =
      d.root.at? (d.place w.dir ++ [dataFile])) :
    UnderWay dir index names saved w d'

structure Tracked (dir : Path) (index : Nat) (names : List String) (saved : Option Snapshot)
    (w : Staging) (d : Disk) : Prop where
  target : w.target = dir
  appliedIndex : w.appliedIndex = index
  files : w.files = names.eraseDups
  ordered : d.Ordered
  listed : saved.isSome → dataFile ∈ names
  room : saved.isSome → Fits (stagingDir dir) unfinishedFile
  data : ∀ x, saved = some x →
    d.root.at? (d.place (stagingDir dir) ++ [dataFile]) = some ⟨.file x.encode, .nil⟩

theorem eraseDups_concat (names : List String) (name : String) :
    (names ++ [name]).eraseDups =
      if name ∈ names then names.eraseDups else names.eraseDups ++ [name] := by
  rw [List.eraseDups_append, List.removeAll]
  by_cases known : name ∈ names
  · simp [known]
  · simp [known, List.eraseDups_cons]

variable {index : Nat} {names : List String} {saved : Option Snapshot} {w w' : Staging} {x : Snapshot}

namespace Tracked

variable (h : Tracked dir index names saved w d)

include h

theorem add (name : String) :
    Tracked dir index (if (w.register name d).1 then names ++ [name] else names) saved
      (w.register name d).2 d := by
  unfold Staging.register
  split
  · rw [if_pos rfl]
    have known_iff : name ∈ w.files ↔ name ∈ names := by rw [h.files, List.mem_eraseDups]
    have listed (some : saved.isSome) : dataFile ∈ names ++ [name] :=
      List.mem_append_left _ (h.listed some)
    dsimp only
    split
    · next known =>
      have files : w.files = (names ++ [name]).eraseDups := by
        rw [eraseDups_concat, if_pos (known_iff.1 known), h.files]
      exact { h with files, listed }
    · next new =>
      have files : w.files ++ [name] = (names ++ [name]).eraseDups := by
        rw [eraseDups_concat, if_neg (new ∘ known_iff.2), h.files]
      exact { h with files, listed }
  · exact h

theorem save (done : x.save w d = (none, w', d')) :
    Tracked dir index (names ++ [dataFile]) (some x) w' d' := by
  unfold Snapshot.save at done
  split at done
  · cases done
  next steps =>
  split at done
  · next registered =>
    cases done
    have keeps : Keeps d d' := .of_run steps
    have written : Tracked dir index names none w d' :=
      ⟨h.target, h.appliedIndex, h.files, keeps.ordered h.ordered, nofun, nofun, nofun⟩
    have accepted := written.add dataFile
    rw [show w.register dataFile d' = (true, w') from registered, if_pos rfl] at accepted
    rw [show Sink.dir w = stagingDir dir from congrArg stagingDir h.target, saveSteps,
      ofString_dataFile, show dataFile ++ ".tmp" = unfinishedFile from rfl, ofString_unfinishedFile]
      at steps
    simp only [run_cons_eq_none] at steps
    obtain ⟨d₁, write, d₂, rename, last⟩ := steps
    obtain rfl : d₂ = d' := congrArg Prod.fst last
    obtain ⟨room, data⟩ := data_of_steps write rename
    refine ⟨accepted.target, accepted.appliedIndex, accepted.files, accepted.ordered, ?_, ?_, ?_⟩
    · exact fun _ => List.mem_append_right _ (List.mem_singleton_self _)
    · exact fun _ => room
    · intro y saved
      obtain rfl := Option.some.inj saved
      exact data
  · cases done

end Tracked

theorem UnderWay.tracked (h : UnderWay dir index names saved w d) :
    Tracked dir index names saved w d := by
  induction h with
  | start ordered h =>
    obtain ⟨rfl, keeps⟩ := Staging.start_eq_ok h
    exact ⟨rfl, rfl, rfl, keeps.ordered ordered, nofun, nofun, nofun⟩
  | add name h ih => exact ih.add name
  | save h done ih => exact ih.save done
  | change h keeps kept ih =>
    refine { ih with ordered := keeps.ordered ih.ordered, data := fun x hx => ?_ }
    have kept := kept (by rw [hx]; rfl)
    rw [Staging.dir, ih.target] at kept
    exact kept.trans (ih.data x hx)

/-! ## Reading what was published -/

/-- The path leads to the published directory, and the one to its meta file is not too long. -/
structure Openable (dir : Path) (d : Disk) : Prop where
  apart : ¬ ThroughStaging dir d
  check : checkPath (dir.join (.ofString metaFile)) = .ok ()

instance (dir : Path) (d : Disk) : Decidable (Openable dir d) :=
  decidable_of_iff (¬ ThroughStaging dir d ∧ checkPath (dir.join (.ofString metaFile)) = .ok ())
    ⟨fun ⟨apart, check⟩ => ⟨apart, check⟩, fun h => ⟨h.apart, h.check⟩⟩

/-- A load of the directory finds the same there, and in the parked one beside it, on both
disks. -/
def Unaltered (dir : Path) (d d' : Disk) : Prop :=
  ∀ p ∈ [dir, parkedDir dir],
    (d'.find p).toOption.map Prod.snd = (d.find p).toOption.map Prod.snd

theorem Unaltered.has_eq (h : Unaltered dir d d') {p : Path} (hp : p ∈ [dir, parkedDir dir]) :
    d'.has p = d.has p := by
  rw [has_eq_isSome, has_eq_isSome, h p hp]

section Reading

variable {later : Disk} {info : Meta}
  (found : (later.find dir).toOption.map Prod.snd = if ThroughStaging dir d then none else some t)

include found

/-- Only a directory that its path leads to is sealed. -/
theorem openable_of_isSealed (named : dir.fileName? = some name) (h : isSealed dir later = true) :
    Openable dir d := by
  obtain ⟨isName, before, idles, pieces, -⟩ := exists_of_fileName? named
  have there : later.has dir = true := has_of_isSealed h (q := name) (by simp [pieces]) isName.ne_empty
  refine ⟨fun through => ?_, ?_⟩
  · rw [has_eq_isSome, found, if_pos through] at there
    cases there
  · rw [ofString_metaFile]
    exact (isSealed_iff.1 h).1.check

variable (directory : t.value = .directory)

include directory

theorem openDir_eq (named : dir.fileName? = some name) (no_parked : later.has (parkedDir dir) = false)
    (sealed : t.at? [metaFile] = some ⟨.file info.encode, .nil⟩) (index : info.appliedIndex < 2 ^ 64) :
    openDir dir later =
      if Openable dir d then .ok ⟨dir, info⟩ else .error (.unavailable (.noSnapshot dir)) := by
  split
  · next openable =>
    have check := openable.check
    rw [if_neg openable.apart] at found
    rw [ofString_metaFile] at check
    obtain ⟨here, found⟩ := find_snd_eq_some.1 found
    exact openDir_of_find found directory sealed index check
  · next lost =>
    have names := names_parked named
    obtain ⟨ps, pieces, -⟩ := names.pieces
    have unsealed : isSealed dir later = false :=
      Bool.not_eq_true _ ▸ fun h => lost (openable_of_isSealed found named h)
    have unsealed' : isSealed (parkedDir dir) later = false := by
      rw [← Bool.not_eq_true]
      intro h
      cases no_parked.symm.trans
        (has_of_isSealed h (q := name ++ "." ++ "prev") (by simp [pieces]) names.isName.ne_empty)
    unfold openDir
    rw [unsealed, unsealed']
    rfl

theorem load_eq_ok_iff {files : List String} (data : t.at? [dataFile] = some ⟨.file x.encode, .nil⟩)
    (listed : dataFile ∈ files) (short : x.body.length < 2 ^ 32) (openable : Openable dir d) :
    load ⟨dir, files⟩ later = .ok x ↔ checkPath (dir.join (.ofString dataFile)) = .ok () := by
  rw [if_neg openable.apart] at found
  obtain ⟨here, found⟩ := find_snd_eq_some.1 found
  rw [ofString_dataFile]
  exact load_eq_ok_of_find found directory data listed short

end Reading

/--
A snapshot that was saved to its staging directory and published: the target is what the staging
directory was, with the meta file, and neither the staging nor the parked directory is there. As
long as none of this changes, the directory opens with the index and the accepted names in order
of first registration, without repeats, if its path still leads to it and the one to the meta file
is not too long, and else no snapshot is found. The data that it gives is what was saved, unless
the path to the data file is too long.
-/
theorem UnderWay.published {createdAt : String} (made : UnderWay dir index names (some x) w d)
    (done : w.publish createdAt d = (none, d')) (fits : index < 2 ^ 64)
    (short : x.body.length < 2 ^ 32) :
    let info : Meta := ⟨index, createdAt, names.eraseDups⟩
    (∃ t, d.root.at? (d.place (stagingDir dir)) = some t ∧
        d'.root.at? (d'.place dir) = some (t.insertChild metaFile ⟨.file info.encode, .nil⟩)) ∧
      d'.has (stagingDir dir) = false ∧ d'.has (parkedDir dir) = false ∧
      ∀ later, Unaltered dir d' later →
        (openDir dir later =
          if Openable dir d' then .ok ⟨dir, info⟩ else .error (.unavailable (.noSnapshot dir))) ∧
        (Openable dir d' → (load ⟨dir, info.files⟩ later = .ok x ↔
          checkPath (dir.join (.ofString dataFile)) = .ok ())) := by
  intro info
  have tracked := made.tracked
  obtain rfl := tracked.target
  have sealed : w.toMeta createdAt = info := by
    rw [Staging.toMeta, tracked.appliedIndex, tracked.files]
  obtain ⟨d₀, d₁, d₂, d₃, sealing, swap⟩ := Staging.exists_swap done
  rw [sealed] at sealing
  obtain ⟨name, named⟩ := swap.exists_fileName?
  have keeps : Keeps d d₀ := .of_step sealing
  have ordered : d₀.Ordered := keeps.ordered tracked.ordered
  obtain ⟨t, staged, directory, filled⟩ := write_join_node isName_metaFile sealing
  have filled : d₀.root.at? (d₀.place (stagingDir w.target)) =
      some (t.insertChild metaFile ⟨.file info.encode, .nil⟩) := (keeps.place_eq _).symm ▸ filled
  have no_staging : d'.has (stagingDir w.target) = false := by
    rw [← Bool.not_eq_true, has_eq_true]
    rintro ⟨place, u, found⟩
    obtain ⟨-, -, -, rfl, there⟩ := find_eq_ok.1 found
    cases there.symm.trans (swap.staging_vacated ordered)
  have no_parked : d'.has (parkedDir w.target) = false :=
    (clear_place (names_parked named) swap.done).2 (swap.keeps₃.ordered ordered)
  refine ⟨⟨t, staged, swap.target filled⟩, no_staging, no_parked, fun later same => ?_⟩
  have found := (same w.target (by simp)).trans
    (swap.find_target ordered (tracked.room rfl) filled directory)
  have data : (t.insertChild metaFile ⟨.file info.encode, .nil⟩).at? [dataFile] =
      some ⟨.file x.encode, .nil⟩ := by
    rw [Node.at?_insertChild, if_neg (by decide), ← Node.at?_append_some staged]
    exact tracked.data x rfl
  refine ⟨openDir_eq found directory named ((same.has_eq (by simp)).trans no_parked) ?_ fits,
    load_eq_ok_iff found directory data (List.mem_eraseDups.2 (tracked.listed rfl)) short⟩
  rw [Node.at?_insertChild, if_pos rfl, Node.at?_nil]

/-! ## Saves of no data -/

def holding (name : String) (files : Forest Content) : Disk where
  root := ⟨.directory, .branch "a" .directory (.branch name .directory files .nil) .nil⟩

def leftovers (staged : Forest Content) : Disk where
  root := ⟨.directory, .branch "a" .directory
    (.branch "snap" .directory (.branch metaFile (.file []) .nil .nil)
      (.branch "snap.prev" .directory .nil (.branch "snap.staging" .directory staged .nil))) .nil⟩

def savedFiles : Forest Content := .branch dataFile (.file ({} : Snapshot).encode) .nil .nil

def sealedFiles : Forest Content :=
  savedFiles.insert metaFile ⟨.file (Meta.encode ⟨7, "", [dataFile]⟩), .nil⟩

/-- A save of no data, as of the seventh write, goes through and leaves this disk. -/
def SavesNothing (dir : Path) (d d' : Disk) : Prop :=
  ∃ w d₁ d₂, Staging.start dir 7 d = (.ok ⟨dir, 7, []⟩, d₁) ∧
    ({} : Snapshot).save (⟨dir, 7, []⟩ : Staging) d₁ = (none, w, d₂) ∧ w.publish "" d₂ = (none, d')

/-- A save over what others have left, with the data file registered once more. -/
theorem UnderWay.published_over_leftovers :
    let junk : Forest Content := .branch "junk" (.file []) .nil .nil
    let dir : Path := ⟨["a", "snap"]⟩
    let d' := holding "snap" sealedFiles
    SavesNothing dir (leftovers junk) d' ∧ openDir dir d' = .ok ⟨dir, 7, "", [dataFile]⟩ ∧
      load ⟨dir, [dataFile]⟩ d' = .ok {} := by
  intro junk dir d'
  let w : Staging := ⟨dir, 7, [dataFile]⟩
  have started : Staging.start dir 7 (leftovers junk) = (.ok ⟨dir, 7, []⟩, leftovers .nil) := by
    decide +kernel
  have saved : ({} : Snapshot).save (⟨dir, 7, []⟩ : Staging) (leftovers .nil) =
      (none, w, leftovers savedFiles) := by decide +kernel
  have done : w.publish "" (leftovers savedFiles) = (none, d') := by decide +kernel
  have made := ((UnderWay.start (by decide +kernel) started).save saved).add dataFile
  rw [show w.register dataFile (leftovers savedFiles) = (true, w) by decide +kernel, if_pos rfl] at made
  obtain ⟨-, -, -, read⟩ := made.published done (by decide) (by decide +kernel)
  obtain ⟨opened, loaded⟩ := read _ (fun _ _ => rfl)
  have openable : Openable dir d' := by decide +kernel
  rw [if_pos openable] at opened
  exact ⟨⟨w, _, _, started, saved, done⟩, opened, (loaded openable).2 (by decide +kernel)⟩

/-! ### Paths that are long -/

@[irreducible]
def dotted (n : Nat) : Path := ⟨"a" :: List.replicate n "." ++ ["snap"]⟩

section Dotted

variable {n : Nat} {f : String} {files : Forest Content}

theorem pieces_dotted (n : Nat) : (dotted n).pieces = "a" :: List.replicate n "." ++ ["snap"] := by
  rw [dotted]

theorem fileName?_dotted (n : Nat) : (dotted n).fileName? = some "snap" :=
  fileName?_of_pieces (pieces_dotted n) (by decide) nofun

theorem names_dotted (n : Nat) : (dotted n).Names ["a"] "snap" := by
  have dots : core (List.replicate n ".") = [] :=
    core_eq_nil fun p hp => by rw [List.eq_of_mem_replicate hp]; decide
  refine ⟨by decide, _, pieces_dotted n, ?_⟩
  rw [← List.singleton_append, core_append, dots]
  decide

theorem origin_dotted (n : Nat) : (holding name files).origin (dotted n) = [] := by
  simp [origin, isAbsolute, pieces_dotted, holding]

theorem place_dotted {d : Disk} (h : d.workDir = []) (n : Nat) : d.place (dotted n) = ["a", "snap"] := by
  have relative : (dotted n).isAbsolute = false := by simp [isAbsolute, pieces_dotted]
  rw [Disk.place, origin, relative, if_neg (by decide), h, ← lead_core, (names_dotted n).core]
  rfl

theorem sibling_dotted (n : Nat) (suffix : String) :
    (dotted n).sibling suffix = ⟨["a", "snap" ++ "." ++ suffix]⟩ := by
  have name : isIdle "snap" = false := by decide
  have dot : isIdle "." = true := by decide
  have whole : trimEnd ("a" :: List.replicate n "." ++ ["snap"]) =
      "a" :: List.replicate n "." ++ ["snap"] := by simp [trimEnd, name]
  have dots : trimEnd ("a" :: List.replicate n ".") = ["a"] := by simp [trimEnd, dot]
  rw [sibling, fileName?_dotted, pieces_dotted]
  dsimp only
  rw [whole, List.dropLast_concat, dots]
  rfl

theorem stagingDir_dotted (n : Nat) : stagingDir (dotted n) = ⟨["a", "snap.staging"]⟩ :=
  sibling_dotted n "staging"

theorem parkedDir_dotted (n : Nat) : parkedDir (dotted n) = ⟨["a", "snap.prev"]⟩ :=
  sibling_dotted n "prev"

theorem size_dotted (n : Nat) (more : List String) :
    (Path.mk ((dotted n).pieces ++ more)).text.utf8ByteSize =
      2 * n + 6 + ((more.map String.utf8ByteSize).sum + more.length) := by
  have nonempty : (dotted n).pieces ++ more ≠ [] := by simp [pieces_dotted]
  have size := size_text nonempty
  have sizes : "a".utf8ByteSize = 1 ∧ ".".utf8ByteSize = 1 ∧ "snap".utf8ByteSize = 4 := by decide
  simp only [pieces_dotted, List.cons_append, List.append_assoc, List.map_cons, List.map_append,
    List.map_replicate, List.map_nil, List.sum_cons, List.sum_append, List.sum_replicate_nat,
    List.sum_nil, List.length_cons, List.length_append, List.length_replicate, List.length_nil, sizes]
    at size ⊢
  omega

theorem checkPath_dotted_append {more : List String} (clean : ∀ q ∈ more, '\x00' ∉ q.toList) :
    checkPath ⟨(dotted n).pieces ++ more⟩ = .ok () ↔
      2 * n + 6 + ((more.map String.utf8ByteSize).sum + more.length) ≤ maxPath := by
  have some_text : (Path.mk ((dotted n).pieces ++ more)).text ≠ "" := by
    have named : "snap" ∈ (dotted n).pieces ++ more := by simp [pieces_dotted]
    exact text_ne_empty named (by decide)
  have no_zero : '\x00' ∉ (Path.mk ((dotted n).pieces ++ more)).text.toList := by
    rw [mem_text (by decide)]
    rintro ⟨q, hq, zero⟩
    simp only [pieces_dotted, List.mem_append, List.mem_cons, List.mem_replicate, List.not_mem_nil,
      or_false] at hq
    rcases hq with ((rfl | ⟨-, rfl⟩) | rfl) | hq
    · exact absurd zero (by decide)
    · exact absurd zero (by decide)
    · exact absurd zero (by decide)
    · exact clean q hq zero
  rw [checkPath_eq_ok, size_dotted, and_iff_right some_text, and_iff_right no_zero]

theorem checkPath_dotted : checkPath (dotted n) = .ok () ↔ 2 * n + 6 ≤ maxPath := by
  have check : checkPath ⟨(dotted n).pieces ++ []⟩ = .ok () ↔ 2 * n + 6 + 0 ≤ maxPath :=
    checkPath_dotted_append nofun
  rwa [List.append_nil] at check

theorem checkPath_dotted_join (clean : '\x00' ∉ f.toList) :
    checkPath ((dotted n).join ⟨[f]⟩) = .ok () ↔ 2 * n + 7 + f.utf8ByteSize ≤ maxPath := by
  rw [join_of_names (names_dotted n), checkPath_dotted_append (by simpa using clean)]
  simp only [List.map_cons, List.map_nil, List.sum_cons, List.sum_nil, List.length_cons,
    List.length_nil]
  omega

theorem open_of_root {d : Disk} {kids : Forest Content}
    (h : d.root = ⟨.directory, .branch "a" .directory kids .nil⟩) (size : name.utf8ByteSize ≤ maxName) :
    d.Open [] ["a"] name where
  dirs := by
    intro st hst
    rcases List.mem_pair.1 hst with rfl | rfl
    · exact ⟨_, by rw [h]; rfl, rfl⟩
    · exact ⟨_, by rw [h]; rfl, rfl⟩
  short := by
    intro q hq _
    rcases List.mem_pair.1 hq with rfl | rfl
    · decide
    · exact size

theorem open_holding : (holding name files).Open [] ["a"] "snap" := open_of_root rfl (by decide)

theorem slot_dotted (short : 2 * n + 6 ≤ maxPath) :
    (holding name files).slot (dotted n) = .ok (["a"], "snap") := by
  rw [slot_of_names (names_dotted n), origin_dotted]
  exact ⟨checkPath_dotted.2 short, open_holding, rfl⟩

theorem find_dotted (short : 2 * n + 6 ≤ maxPath) :
    (holding "snap" files).find (dotted n) = .ok (["a", "snap"], ⟨.directory, files⟩) := by
  rw [find_of_names (names_dotted n), origin_dotted]
  exact ⟨checkPath_dotted.2 short, open_holding, rfl, rfl⟩

theorem has_dotted (n : Nat) : (holding "snap.staging" files).has (dotted n) = false := by
  rw [← Bool.not_eq_true, has_eq_true]
  rintro ⟨place, u, found⟩
  rw [find_of_names (names_dotted n), origin_dotted] at found
  obtain ⟨-, -, rfl, there⟩ := found
  cases there

theorem start_dotted (n : Nat) :
    Staging.start (dotted n) 7 {} = (.ok ⟨dotted n, 7, []⟩, holding "snap.staging" .nil) := by
  have steps : run (Staging.startSteps (dotted n)) {} = (holding "snap.staging" .nil, none) := by
    unfold Staging.startSteps
    rw [stagingDir_dotted]
    decide +kernel
  unfold Staging.start
  rw [steps]

theorem save_dotted (n : Nat) :
    ({} : Snapshot).save (⟨dotted n, 7, []⟩ : Staging) (holding "snap.staging" .nil) =
      (none, ⟨dotted n, 7, [dataFile]⟩, holding "snap.staging" savedFiles) := by
  have steps : run (saveSteps (stagingDir (dotted n)) {}) (holding "snap.staging" .nil) =
      (holding "snap.staging" savedFiles, none) := by
    unfold saveSteps
    rw [stagingDir_dotted]
    decide +kernel
  have there : (holding "snap.staging" savedFiles).isFile
      ((stagingDir (dotted n)).join (.ofString dataFile)) = true := by
    rw [stagingDir_dotted]
    decide +kernel
  have registered : Sink.register dataFile (holding "snap.staging" savedFiles)
      (⟨dotted n, 7, []⟩ : Staging) = (true, ⟨dotted n, 7, [dataFile]⟩) := if_pos there
  unfold Snapshot.save
  rw [show Sink.dir (⟨dotted n, 7, []⟩ : Staging) = stagingDir (dotted n) from rfl, steps]
  dsimp only
  rw [registered]

theorem publish_dotted (short : 2 * n + 6 ≤ maxPath) :
    Staging.publish "" ⟨dotted n, 7, [dataFile]⟩ (holding "snap.staging" savedFiles) =
      (none, holding "snap" sealedFiles) := by
  have sealing : (Step.write ((⟨["a", "snap.staging"]⟩ : Path).join (.ofString metaFile))
      (Meta.encode ⟨7, "", [dataFile]⟩)).run (holding "snap.staging" savedFiles) =
        (holding "snap.staging" sealedFiles, none) := by decide +kernel
  have clear : (Step.clear ⟨["a", "snap.prev"]⟩).run (holding "snap.staging" sealedFiles) =
      (holding "snap.staging" sealedFiles, none) := by decide +kernel
  have aside : (Step.moveAside (dotted n) ⟨["a", "snap.prev"]⟩).run
      (holding "snap.staging" sealedFiles) = (holding "snap.staging" sealedFiles, none) :=
    if_neg (by rw [has_dotted]; nofun)
  have publish : (Step.move ⟨["a", "snap.staging"]⟩ (dotted n)).run
      (holding "snap.staging" sealedFiles) = (holding "snap" sealedFiles, none) := by
    have no_slash : isSlashed (dotted n) = false := by
      rw [isSlashed, pieces_dotted, List.getLast?_concat]
      decide
    refine attempt_eq_none.2 ?_
    unfold move
    rw [slot_dotted short, no_slash]
    decide +kernel
  have done : (Step.clear ⟨["a", "snap.prev"]⟩).run (holding "snap" sealedFiles) =
      (holding "snap" sealedFiles, none) := by decide +kernel
  have steps : run (Staging.publishSteps "" ⟨dotted n, 7, [dataFile]⟩)
      (holding "snap.staging" savedFiles) = (holding "snap" sealedFiles, none) := by
    unfold Staging.publishSteps Staging.dir Staging.toMeta
    dsimp only
    rw [stagingDir_dotted, parkedDir_dotted]
    simp only [run_cons_eq_none]
    exact ⟨_, sealing, _, clear, _, aside, _, publish, _, done, rfl⟩
  exact Staging.publish_eq_none.2 steps

theorem savesNothing_dotted (short : 2 * n + 6 ≤ maxPath) :
    SavesNothing (dotted n) {} (holding "snap" sealedFiles) :=
  ⟨_, _, _, start_dotted n, save_dotted n, publish_dotted short⟩

theorem isSealed_dotted (long : maxPath < 2 * n + 25) (d : Disk) :
    isSealed (dotted n) d = false := by
  have size : metaFile.utf8ByteSize = 18 := by decide
  rw [← Bool.not_eq_true, isSealed_iff]
  rintro ⟨reaches, -⟩
  have := (checkPath_dotted_join (by decide)).1 reaches.check
  omega

/-- No snapshot is found in a directory whose path leaves no room for the name of the meta
file. -/
theorem openDir_dotted (long : maxPath < 2 * n + 25) :
    openDir (dotted n) (holding "snap" sealedFiles) =
      .error (.unavailable (.noSnapshot (dotted n))) := by
  have no_parked : isSealed (parkedDir (dotted n)) (holding "snap" sealedFiles) = false := by
    rw [parkedDir_dotted]
    decide +kernel
  unfold openDir
  rw [isSealed_dotted long, no_parked]
  rfl

/-- Of a directory whose path has room for the name of the meta file, but not for that of the data
file, the data is not read. -/
theorem load_dotted (room : 2 * n + 25 ≤ maxPath) (long : maxPath < 2 * n + 28) :
    openDir (dotted n) (holding "snap" sealedFiles) = .ok ⟨dotted n, 7, "", [dataFile]⟩ ∧
      load ⟨dotted n, [dataFile]⟩ (holding "snap" sealedFiles) ≠ .ok {} := by
  have found : (holding "snap" sealedFiles).find (dotted n) =
      .ok (["a", "snap"], ⟨.directory, sealedFiles⟩) := find_dotted (by omega)
  have sizes : metaFile.utf8ByteSize = 18 ∧ dataFile.utf8ByteSize = 21 := by decide
  constructor
  · refine openDir_of_find found rfl (by decide +kernel) (by decide) ?_
    rw [checkPath_dotted_join (by decide)]
    omega
  · rw [ne_eq, load_eq_ok_of_find found rfl (by decide +kernel) (by decide) (by decide +kernel),
      checkPath_dotted_join (by decide)]
    omega

end Dotted

/-- A snapshot is not found by way of its own staging directory, nor by a path that leaves no room
for the name of its meta file, and its data is not read by a path that leaves no room for that of
the data file. -/
theorem not_every_published_reads_back :
    let through : Path := ⟨["a", "snap.staging", "..", "snap"]⟩
    let d := holding "snap" sealedFiles
    (through.fileName? = some "snap" ∧ SavesNothing through {} d ∧
        openDir through d = .error (.unavailable (.noSnapshot through))) ∧
      ((dotted 2040).fileName? = some "snap" ∧ SavesNothing (dotted 2040) {} d ∧
        openDir (dotted 2040) d = .error (.unavailable (.noSnapshot (dotted 2040)))) ∧
      (dotted 2035).fileName? = some "snap" ∧ SavesNothing (dotted 2035) {} d ∧
        openDir (dotted 2035) d = .ok ⟨dotted 2035, 7, "", [dataFile]⟩ ∧
          load ⟨dotted 2035, [dataFile]⟩ d ≠ .ok {} := by
  intro through d
  have saved : SavesNothing through {} d := by
    refine ⟨⟨through, 7, [dataFile]⟩, holding "snap.staging" .nil, holding "snap.staging" savedFiles,
      ?_, ?_, ?_⟩
    · decide +kernel
    · decide +kernel
    · decide +kernel
  refine ⟨⟨by decide, saved, by decide +kernel⟩, ?_, ?_⟩
  · exact ⟨fileName?_dotted _, savesNothing_dotted (by decide), openDir_dotted (by decide)⟩
  · exact ⟨fileName?_dotted _, savesNothing_dotted (by decide), load_dotted (by decide) (by decide)⟩

end Retained.Snapshot
