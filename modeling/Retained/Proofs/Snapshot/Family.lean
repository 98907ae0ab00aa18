import Retained.Proofs.Disk.Change
import Retained.Proofs.Snapshot.Reading

/-!
# The directories of a save

A save of a directory works on three directories that stand beside each other (`family`). Whatever
it does there keeps the way to them open (`Frame`), as long as that way does not lead through one
of them (`Detached`). For each kind of step, what it changes when it succeeds.
-/

namespace Retained.Snapshot

open Disk Retained.Path

/-- The directory and the two that a save sets beside it. -/
def family (dir : Path) : List Path := [dir, stagingDir dir, parkedDir dir]

theorem dir_mem_family (dir : Path) : dir ∈ family dir := by simp [family]

theorem staging_mem_family (dir : Path) : stagingDir dir ∈ family dir := by simp [family]

theorem parked_mem_family (dir : Path) : parkedDir dir ∈ family dir := by simp [family]

/-- No place on the way to a directory is one that a save of the directory moves or clears. -/
def Detached (dir : Path) (d : Disk) : Prop :=
  ∀ st ∈ stops (d.origin dir) (core dir.pieces), ∀ p ∈ family dir, ¬ d.place p <+: st

instance (dir : Path) (d : Disk) : Decidable (Detached dir d) :=
  inferInstanceAs (Decidable (∀ st ∈ _, _))

variable {dir p q : Path} {name f : String} {d₀ d d' : Disk} {slot : Place × String}
  {t u : Node Content} {w : Place}

/-! ## The places of the three directories -/

section Places

variable (named : dir.fileName? = some name)

include named

theorem names_staging : (stagingDir dir).Names dir.way (name ++ "." ++ "staging") :=
  names_sibling named (by decide)

theorem names_parked : (parkedDir dir).Names dir.way (name ++ "." ++ "prev") :=
  names_sibling named (by decide)

theorem origin_staging : d.origin (stagingDir dir) = d.origin dir := by
  rw [origin, origin, stagingDir, isAbsolute_sibling named]

theorem origin_parked : d.origin (parkedDir dir) = d.origin dir := by
  rw [origin, origin, parkedDir, isAbsolute_sibling named]

theorem origin_family (hp : p ∈ family dir) : d.origin p = d.origin dir := by
  simp only [family, List.mem_cons, List.not_mem_nil, or_false] at hp
  rcases hp with rfl | rfl | rfl
  · rfl
  · exact origin_staging named
  · exact origin_parked named

theorem core_family (hp : p ∈ family dir) : ∃ n, IsName n ∧ core p.pieces = dir.way ++ [n] := by
  simp only [family, List.mem_cons, List.not_mem_nil, or_false] at hp
  rcases hp with rfl | rfl | rfl
  · exact ⟨name, (exists_of_fileName? named).1, core_of_fileName? named⟩
  · exact ⟨_, (names_staging named).isName, (names_staging named).core⟩
  · exact ⟨_, (names_parked named).isName, (names_parked named).core⟩

theorem place_of_core {n : String} (hp : p ∈ family dir) (isName : IsName n)
    (hc : core p.pieces = dir.way ++ [n]) : d.place p = lead (d.origin dir) dir.way ++ [n] := by
  rw [place, origin_family named hp, ← lead_core, hc, lead_name isName]

theorem place_dir : d.place dir = lead (d.origin dir) dir.way ++ [name] :=
  place_of_core named (dir_mem_family dir) (exists_of_fileName? named).1 (core_of_fileName? named)

theorem place_staging :
    d.place (stagingDir dir) = lead (d.origin dir) dir.way ++ [name ++ "." ++ "staging"] :=
  place_of_core named (staging_mem_family dir) (names_staging named).isName (names_staging named).core

theorem place_parked :
    d.place (parkedDir dir) = lead (d.origin dir) dir.way ++ [name ++ "." ++ "prev"] :=
  place_of_core named (parked_mem_family dir) (names_parked named).isName (names_parked named).core

omit named in
theorem apart_of_length {m n : String} (h : m.length ≠ n.length) : Apart (w ++ [m]) (w ++ [n]) :=
  apart_of_ne fun e => h (congrArg String.length e)

theorem apart_target_staging : Apart (d.place dir) (d.place (stagingDir dir)) := by
  rw [place_dir named, place_staging named]
  have : ".".length = 1 := rfl
  exact apart_of_length (by simp only [String.length_append]; omega)

theorem apart_target_parked : Apart (d.place dir) (d.place (parkedDir dir)) := by
  rw [place_dir named, place_parked named]
  have : ".".length = 1 := rfl
  exact apart_of_length (by simp only [String.length_append]; omega)

theorem apart_staging_parked : Apart (d.place (stagingDir dir)) (d.place (parkedDir dir)) := by
  rw [place_staging named, place_parked named]
  have : "staging".length = 7 := rfl
  have : "prev".length = 4 := rfl
  exact apart_of_length (by simp only [String.length_append]; omega)

end Places

/-! ## The way stays open -/

/-- What every step of a save leaves as it is: the names in order, and the way to the
directory. -/
structure Frame (dir : Path) (d₀ d : Disk) : Prop where
  workDir : d.workDir = d₀.workDir
  ordered : d.Ordered
  dirs : ∀ st ∈ stops (d₀.origin dir) (core dir.pieces), d.IsDir st

/-- No path within a directory to its file `f` is too long to be asked for. -/
structure Fits (p : Path) (f : String) : Prop where
  check : checkPath (p.join ⟨[f]⟩) = .ok ()
  short : Short (core p.pieces ++ [f])

namespace Frame

variable (F : Frame dir d₀ d)

include F

theorem origin_eq (p : Path) : d.origin p = d₀.origin p := by
  rw [origin, origin, F.workDir]

theorem place_eq (p : Path) : d.place p = d₀.place p := by
  rw [place, place, F.origin_eq]

theorem step (det : Detached dir d₀) {st : Step} {places : List Place}
    (h : st.run d = (d', none)) (W : Within places d d')
    (below : ∀ v ∈ places, ∃ p ∈ family dir, d₀.place p <+: v) : Frame dir d₀ d' := by
  have K := Keeps.of_step h
  refine ⟨K.workDir.trans F.workDir, K.ordered F.ordered, fun st hst => ?_⟩
  refine (W.isDir_iff st fun v hv above => ?_).2 (F.dirs st hst)
  obtain ⟨p, hp, up⟩ := below v hv
  exact det st hst p hp (up.trans above)

variable (named : dir.fileName? = some name)

include named

theorem dirs_family (hp : p ∈ family dir) : ∀ st ∈ stops (d.origin p) (core p.pieces), d.IsDir st := by
  obtain ⟨n, -, hc⟩ := core_family named hp
  have dirs := F.dirs
  rw [core_of_fileName? named, stops_concat] at dirs
  rw [hc, origin_family named hp, F.origin_eq, stops_concat]
  exact dirs

theorem reaches_iff (hp : p ∈ family dir) :
    d.Reaches p f ↔ Fits p f ∧ d.IsDir (d₀.place p) := by
  constructor
  · intro h
    exact ⟨⟨h.check, h.way_open.short⟩, F.place_eq p ▸ h.isDir⟩
  · rintro ⟨fits, dir⟩
    refine ⟨fits.check, forall_stops_concat.2 ⟨F.dirs_family named hp, ?_⟩, fits.short⟩
    rw [lead_core]
    show d.IsDir (d.place p)
    rwa [F.place_eq]

end Frame

theorem exists_node {u : Node Content} (dir : d.IsDir w) (h : d.root.at? (w ++ [f]) = some u) :
    ∃ t, d.root.at? w = some t ∧ t.value = .directory ∧ t.at? [f] = some u := by
  obtain ⟨t, ht, directory⟩ := dir
  exact ⟨t, ht, directory, (Node.at?_append_some ht).symm.trans h⟩

def HoldsFile (f : String) (bytes : Bytes) (t : Node Content) : Prop :=
  t.value = .directory ∧ t.at? [f] = some ⟨.file bytes, .nil⟩

/-- Where the data is written before its file appears. -/
def unfinishedFile : String := dataFile ++ ".tmp"

theorem ofString_unfinishedFile : Path.ofString unfinishedFile = ⟨[unfinishedFile]⟩ := by decide

theorem isName_unfinishedFile : IsName unfinishedFile := by decide

/-! ## The steps, where they succeed -/

section Steps

variable (F : Frame dir d₀ d) (named : dir.fileName? = some name) (det : Detached dir d₀)

include F named det

omit named in
theorem frame_clear {n : String} (hp : p ∈ family dir) (names : p.Names dir.way n)
    (h : (Step.clear p).run d = (d', none)) :
    Frame dir d₀ d' ∧ Within [d₀.place p] d d' ∧ d'.has p = false := by
  obtain ⟨W, gone⟩ := clear_place names h
  rw [F.place_eq] at W
  exact ⟨F.step det h W fun v hv => ⟨p, hp, List.mem_singleton.1 hv ▸ List.prefix_refl _⟩, W, gone F.ordered⟩

theorem frame_makeDirs (h : (Step.makeDirs (stagingDir dir)).run d = (d', none)) :
    Frame dir d₀ d' ∧ Within [d₀.place (stagingDir dir)] d d' := by
  have member := staging_mem_family dir
  have names := names_staging named
  have dirs := F.dirs_family named member
  rw [names.core] at dirs
  have W : Within [d₀.place (stagingDir dir)] d d' := by
    rcases makeDirs_of_names names dirs with ⟨e, h'⟩ | ⟨slot, found, h' | h'⟩
    · cases h.symm.trans h'
    · cases h.symm.trans h'
      exact .refl _ _
    · cases h.symm.trans h'
      rw [← F.place_eq, ← slot_place found]
      exact .fill
  exact ⟨F.step det h W fun v hv => ⟨_, member, List.mem_singleton.1 hv ▸ List.prefix_refl _⟩, W⟩

theorem frame_write {bytes : Bytes} (hf : IsName f)
    (h : (Step.write ((stagingDir dir).join ⟨[f]⟩) bytes).run d = (d', none)) :
    Frame dir d₀ d' ∧ Fits (stagingDir dir) f ∧ Within [d₀.place (stagingDir dir) ++ [f]] d d' ∧
      d'.IsDir (d₀.place (stagingDir dir)) ∧
      d'.root.at? (d₀.place (stagingDir dir) ++ [f]) = some ⟨.file bytes, .nil⟩ := by
  have member := staging_mem_family dir
  obtain ⟨reaches, W, isDir, there⟩ := write_join hf h
  rw [F.place_eq] at W isDir there
  refine ⟨F.step det h W fun v hv => ⟨_, member, ?_⟩, ((F.reaches_iff named member).1 reaches).1, W,
    isDir, there⟩
  rw [List.mem_singleton.1 hv]
  exact List.prefix_append _ _

omit named in
theorem frame_move (hp : ∃ r ∈ family dir, d₀.place r <+: d₀.place p)
    (hq : ∃ r ∈ family dir, d₀.place r <+: d₀.place q) (apart : Apart (d₀.place p) (d₀.place q))
    (h : (Step.move p q).run d = (d', none)) :
    ∃ t, d.root.at? (d₀.place p) = some t ∧ Frame dir d₀ d' ∧
      Within [d₀.place p, d₀.place q] d d' ∧ d'.root.at? (d₀.place p) = none ∧
      d'.root.at? (d₀.place q) = some t := by
  rw [← F.place_eq p, ← F.place_eq q] at apart
  obtain ⟨t, source, W, gone, target⟩ := move_places apart h
  rw [F.place_eq] at source gone target
  rw [F.place_eq, F.place_eq] at W
  refine ⟨t, source, F.step det h W fun v hv => ?_, W, gone F.ordered, target⟩
  simp only [List.mem_cons, List.not_mem_nil, or_false] at hv
  rcases hv with rfl | rfl
  · exact hp
  · exact hq

omit named in
theorem frame_rename {g : String} (hf : IsName f) (hg : IsName g) (ne : f ≠ g)
    (h : (Step.move ((stagingDir dir).join ⟨[f]⟩) ((stagingDir dir).join ⟨[g]⟩)).run d = (d', none)) :
    ∃ t, d.root.at? (d₀.place (stagingDir dir) ++ [f]) = some t ∧ Frame dir d₀ d' ∧
      Within [d₀.place (stagingDir dir) ++ [f], d₀.place (stagingDir dir) ++ [g]] d d' ∧
      d'.root.at? (d₀.place (stagingDir dir) ++ [g]) = some t := by
  have member := staging_mem_family dir
  rw [← place_join hf, ← place_join hg]
  obtain ⟨t, source, G, W, -, target⟩ := frame_move F det (p := (stagingDir dir).join ⟨[f]⟩)
    (q := (stagingDir dir).join ⟨[g]⟩) ⟨_, member, place_join hf ▸ List.prefix_append _ _⟩
    ⟨_, member, place_join hg ▸ List.prefix_append _ _⟩
    (by rw [place_join hf, place_join hg]; exact apart_of_ne ne) h
  exact ⟨t, source, G, W, target⟩

end Steps

/-! ## Room for the names -/

section Room

variable (named : dir.fileName? = some name) (room : Fits (stagingDir dir) unfinishedFile)

include named room

/-- The staging directory has the longest name and holds the file with the longest name. -/
theorem short_of_room {n : String} (hn : n.utf8ByteSize ≤ name.utf8ByteSize + 8) :
    Short (dir.way ++ [n]) := by
  have short := room.short
  rw [(names_staging named).core, short_concat, short_concat] at short
  have long := short.1.2 (names_staging named).isName
  refine short_concat.2 ⟨short.1.1, fun _ => ?_⟩
  rw [String.utf8ByteSize_append, String.utf8ByteSize_append] at long
  have : ".".utf8ByteSize = 1 := rfl
  have : "staging".utf8ByteSize = 7 := rfl
  omega

theorem short_parked : Short (dir.way ++ [name ++ "." ++ "prev"]) := by
  refine short_of_room named room ?_
  rw [String.utf8ByteSize_append, String.utf8ByteSize_append]
  have : ".".utf8ByteSize = 1 := rfl
  have : "prev".utf8ByteSize = 4 := rfl
  omega

/-- The paths by way of the parked directory are shorter than those by way of the staging one. -/
theorem checkPath_parked {files : List String} (count : files.length ≤ 1)
    (size : (files.map String.utf8ByteSize).sum ≤ unfinishedFile.utf8ByteSize)
    (zero : ∀ f ∈ files, '\x00' ∉ f.toList) :
    checkPath ⟨(parkedDir dir).pieces ++ files⟩ = .ok () := by
  have check := room.check
  rw [join_of_names (names_staging named)] at check
  obtain ⟨before, idles, -, -, beside⟩ := sibling_eq named
  rw [stagingDir, beside, List.append_assoc] at check
  rw [parkedDir, beside, List.append_assoc]
  refine checkPath_of_le check (q := name ++ "." ++ "prev") (by simp) ?_ ?_ ?_
  · exact (names_parked named).isName.ne_empty
  · have : "prev".utf8ByteSize = 4 := rfl
    have : "staging".utf8ByteSize = 7 := rfl
    simp only [List.map_append, List.sum_append, List.length_append, List.map_cons, List.map_nil,
      List.sum_cons, List.sum_nil, List.length_cons, List.length_nil, String.utf8ByteSize_append]
    omega
  · intro b hb hz
    rcases List.mem_append.1 hb with hb | hb
    · rw [List.mem_singleton.1 hb] at hz
      refine ⟨name ++ "." ++ "staging", by simp, ?_⟩
      have : '\x00' ∉ "prev".toList := by decide
      simp only [String.toList_append, List.mem_append] at hz ⊢
      tauto
    · exact absurd hz (zero b hb)

theorem fits_parked (size : f.utf8ByteSize ≤ unfinishedFile.utf8ByteSize)
    (zero : '\x00' ∉ f.toList) : Fits (parkedDir dir) f := by
  refine ⟨?_, ?_⟩
  · rw [join_of_names (names_parked named)]
    exact checkPath_parked named room (by simp) (by simpa using size) (by simpa using zero)
  · rw [(names_parked named).core]
    exact short_concat.2 ⟨short_parked named room, fun _ => size.trans (by decide)⟩

theorem fits_target (size : f.utf8ByteSize ≤ maxName)
    (check : checkPath (dir.join ⟨[f]⟩) = .ok ()) :
    Fits dir f := by
  refine ⟨check, ?_⟩
  rw [core_of_fileName? named]
  exact short_concat.2 ⟨short_of_room named room (by omega), fun _ => size⟩

theorem has_parked (F : Frame dir d₀ d) (h : d.root.at? (d₀.place (parkedDir dir)) = some u) :
    d.has (parkedDir dir) = true := by
  have member := parked_mem_family dir
  have names := names_parked named
  have check : checkPath (parkedDir dir) = .ok () := by
    have := checkPath_parked named room (show ([] : List String).length ≤ 1 by simp) (by simp)
      (by simp)
    rwa [List.append_nil] at this
  have dirs := F.dirs_family named member
  rw [names.core] at dirs
  have way_open : d.Open (d.origin (parkedDir dir)) dir.way (name ++ "." ++ "prev") :=
    ⟨dirs, short_parked named room⟩
  refine has_eq_true.2 ⟨_, u, (find_of_names names).2 ⟨check, way_open, rfl, ?_⟩⟩
  rwa [← F.place_eq, place_parked named, ← origin_parked named] at h

theorem has_target (F : Frame dir d₀ d) (check : checkPath (dir.join ⟨[f]⟩) = .ok ())
    (isDir : d.IsDir (d₀.place dir)) : d.has dir = true := by
  obtain ⟨u, found, -⟩ := id isDir
  have short : Short dir.pieces := by
    rw [← short_core, core_of_fileName? named]
    exact short_of_room named room (by omega)
  obtain ⟨isName, before, idles, pieces, -, -⟩ := exists_of_fileName? named
  have check : checkPath dir = .ok () :=
    checkPath_of_join check (q := name) (by simp [pieces]) isName.ne_empty
  rw [← F.place_eq] at found isDir
  exact has_eq_true.2 ⟨_, u, find_of_isDir check short (F.origin_eq dir ▸ F.dirs) isDir found⟩

end Room

/-! ## What is read from one of the family -/

section Read

variable {x : Meta × Snapshot} (F : Frame dir d₀ d) (named : dir.fileName? = some name)
  (hp : p ∈ family dir)

include F named hp

theorem Frame.isSealed_iff :
    isSealed p d = true ↔
      Fits p metaFile ∧ ∃ t, d.root.at? (d₀.place p) = some t ∧ t.value = .directory ∧
        ∃ u, t.at? [metaFile] = some u := by
  rw [Snapshot.isSealed_iff, F.reaches_iff named hp, F.place_eq]
  constructor
  · rintro ⟨⟨fits, isDir⟩, u, found⟩
    obtain ⟨t, ht, directory, within⟩ := exists_node isDir found
    exact ⟨fits, t, ht, directory, u, within⟩
  · rintro ⟨fits, t, ht, directory, u, within⟩
    exact ⟨⟨fits, t, ht, directory⟩, u, (Node.at?_append_some ht).trans within⟩

theorem Frame.readSealed_iff :
    readSealed p d = .ok x ↔
      Fits p metaFile ∧ Fits p dataFile ∧ ∃ t, d.root.at? (d₀.place p) = some t ∧ Holds t x := by
  rw [readSealed_eq_ok, F.reaches_iff named hp, F.reaches_iff named hp, F.place_eq]
  constructor
  · rintro ⟨⟨fits, -⟩, ⟨fits', -⟩, rest⟩
    exact ⟨fits, fits', rest⟩
  · rintro ⟨fits, fits', t, ht, holds⟩
    exact ⟨⟨fits, t, ht, holds.directory⟩, ⟨fits', t, ht, holds.directory⟩, t, ht, holds⟩

theorem Frame.isSealed_of_holds (fits : Fits p metaFile) (ht : d.root.at? (d₀.place p) = some t)
    (holds : Holds t x) : isSealed p d = true := by
  obtain ⟨bytes, c, within, -⟩ := holds.info
  exact (F.isSealed_iff named hp).2 ⟨fits, t, ht, holds.directory, _, within⟩

theorem Frame.isSealed_of_none (gone : d.root.at? (d₀.place p) = none) : isSealed p d = false := by
  rw [← Bool.not_eq_true, F.isSealed_iff named hp, gone]
  rintro ⟨-, t, ht, -⟩
  cases ht

end Read

/-- Where a snapshot is read back, the way to the directory is open. -/
theorem frame_of_readBack {x : Meta × Snapshot} (named : dir.fileName? = some name)
    (ordered : d.Ordered) (h : readBack dir d = .ok x) : Frame dir d d := by
  have way {p : Path} (hp : p ∈ family dir) (read : readSealed p d = .ok x) : Frame dir d d := by
    obtain ⟨reaches, -, -⟩ := readSealed_eq_ok.1 read
    obtain ⟨n, -, hc⟩ := core_family named hp
    have dirs := reaches.way_open.dirs
    rw [origin_family named hp, hc, forall_stops_concat, stops_concat] at dirs
    refine ⟨rfl, ordered, ?_⟩
    rw [core_of_fileName? named, stops_concat]
    exact dirs.1
  rw [readBack_eq] at h
  split at h
  · exact way (dir_mem_family dir) h
  split at h
  · exact way (parked_mem_family dir) h
  · cases h

end Retained.Snapshot
