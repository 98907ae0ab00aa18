import Retained.Proofs.Disk.Place
import Retained.Proofs.Snapshot.Codec
import Retained.Proofs.Tree
import Retained.Snapshot.Directory

/-!
# Reading a snapshot back

`readBack` opens a directory and loads what it holds. What it answers depends on the disk only
through the two directories, the target and the parked one: `isSealed_iff` and `readSealed_eq_ok`
say how.
-/

namespace Retained.Snapshot

open Disk Retained.Path

def readOpened (o : Opened) (disk : Disk) : Except Error (Meta × Snapshot) :=
  (load o.source disk).map fun d => (o.info, d)

def readBack (dir : Path) (disk : Disk) : Except Error (Meta × Snapshot) :=
  (openDir dir disk).bind fun o => readOpened o disk

/-- The node of a directory that holds a whole snapshot. -/
structure Holds (t : Node Content) (x : Meta × Snapshot) : Prop where
  directory : t.value = .directory
  info : ∃ bytes c, t.at? [metaFile] = some ⟨.file bytes, c⟩ ∧ Meta.decode? bytes = some x.1
  listed : dataFile ∈ x.1.files
  data : ∃ bytes c, t.at? [dataFile] = some ⟨.file bytes, c⟩ ∧ decode bytes = .ok x.2

theorem isName_metaFile : IsName metaFile := by decide

theorem isName_dataFile : IsName dataFile := by decide

@[simp]
theorem ofString_metaFile : Path.ofString metaFile = ⟨[metaFile]⟩ := by decide

@[simp]
theorem ofString_dataFile : Path.ofString dataFile = ⟨[dataFile]⟩ := by decide

variable {p dir : Path} {disk : Disk} {x : Meta × Snapshot}

theorem isSealed_iff :
    isSealed p disk = true ↔
      disk.Reaches p metaFile ∧ ∃ u, disk.root.at? (disk.place p ++ [metaFile]) = some u := by
  rw [isSealed, ofString_metaFile, has_eq_true]
  constructor
  · rintro ⟨here, u, found⟩
    obtain ⟨reaches, rfl, found⟩ := (find_join isName_metaFile).1 found
    exact ⟨reaches, u, found⟩
  · rintro ⟨reaches, u, found⟩
    exact ⟨_, u, (find_join isName_metaFile).2 ⟨reaches, rfl, found⟩⟩

theorem read_join {f : String} {bytes : Bytes} (hf : IsName f) :
    disk.read (p.join ⟨[f]⟩) = .ok bytes ↔
      disk.Reaches p f ∧ ∃ c, disk.root.at? (disk.place p ++ [f]) = some ⟨.file bytes, c⟩ := by
  rw [read_eq_ok]
  constructor
  · rintro ⟨here, c, found⟩
    obtain ⟨reaches, rfl, found⟩ := (find_join hf).1 found
    exact ⟨reaches, c, found⟩
  · rintro ⟨reaches, c, found⟩
    exact ⟨_, c, (find_join hf).2 ⟨reaches, rfl, found⟩⟩

theorem openSealed_eq_ok {o : Opened} :
    openSealed p disk = .ok o ↔
      ∃ bytes, disk.read (p.join ⟨[metaFile]⟩) = .ok bytes ∧ Meta.decode? bytes = some o.info ∧
        o.dir = p := by
  unfold openSealed
  rw [ofString_metaFile]
  cases disk.read (p.join ⟨[metaFile]⟩) with
  | error e => simp
  | ok bytes =>
    dsimp only
    obtain ⟨dir, info⟩ := o
    cases decoded : Meta.decode? bytes with
    | none => simp [decoded]
    | some info => simp [decoded, and_comm, eq_comm]

theorem appliedIndex_lt {o : Opened} (opened : openDir dir disk = .ok o) :
    o.info.appliedIndex < 2 ^ 64 := by
  unfold openDir at opened
  split at opened
  · obtain ⟨bytes, -, decoded, -⟩ := openSealed_eq_ok.1 opened
    exact Meta.appliedIndex_lt decoded
  split at opened
  · obtain ⟨bytes, -, decoded, -⟩ := openSealed_eq_ok.1 opened
    exact Meta.appliedIndex_lt decoded
  · cases opened

theorem load_eq_ok {r : Source} {d : Snapshot} :
    load r disk = .ok d ↔
      dataFile ∈ r.files ∧
        ∃ bytes, disk.read (r.dir.join ⟨[dataFile]⟩) = .ok bytes ∧ decode bytes = .ok d := by
  unfold load
  rw [ofString_dataFile]
  split
  · next listed =>
    cases disk.read (r.dir.join ⟨[dataFile]⟩) with
    | error e => simp
    | ok bytes => simp [listed]
  · next listed => simp [listed]

theorem readOpened_eq_ok {o : Opened} :
    readOpened o disk = .ok x ↔ x.1 = o.info ∧ load o.source disk = .ok x.2 := by
  unfold readOpened
  obtain ⟨info, d⟩ := x
  cases load o.source disk with
  | error e => simp [Except.map]
  | ok e => simp [Except.map, eq_comm]

def readSealed (dir : Path) (disk : Disk) : Except Error (Meta × Snapshot) :=
  (openSealed dir disk).bind fun o => readOpened o disk

/-- A snapshot is read from a directory that holds it, if its two files can be asked for. -/
theorem readSealed_eq_ok :
    readSealed p disk = .ok x ↔
      disk.Reaches p metaFile ∧ disk.Reaches p dataFile ∧
        ∃ t, disk.root.at? (disk.place p) = some t ∧ Holds t x := by
  have within {t : Node Content} (ht : disk.root.at? (disk.place p) = some t) (f : String) :
      disk.root.at? (disk.place p ++ [f]) = t.at? [f] := Node.at?_append_some ht
  unfold readSealed
  constructor
  · intro h
    cases opened : openSealed p disk with
    | error e => rw [opened] at h; cases h
    | ok o =>
    rw [opened] at h
    obtain ⟨bytes, info, decoded, rfl⟩ := openSealed_eq_ok.1 opened
    obtain ⟨here, loaded⟩ := readOpened_eq_ok.1 h
    obtain ⟨listed, raw, data, decodes⟩ := load_eq_ok.1 loaded
    obtain ⟨reaches, c, found⟩ := (read_join isName_metaFile).1 info
    obtain ⟨reaches', c', found'⟩ := (read_join isName_dataFile).1 data
    obtain ⟨t, ht, directory⟩ := reaches.isDir
    rw [within ht] at found
    have found' : t.at? [dataFile] = some ⟨.file raw, c'⟩ := (within ht dataFile).symm.trans found'
    exact ⟨reaches, reaches', t, ht, directory, ⟨bytes, c, found, here ▸ decoded⟩, here ▸ listed,
      raw, c', found', decodes⟩
  · rintro ⟨reaches, reaches', t, ht, -, ⟨bytes, c, found, decoded⟩, listed, raw, c', found', decodes⟩
    have info : disk.read (p.join ⟨[metaFile]⟩) = .ok bytes :=
      (read_join isName_metaFile).2 ⟨reaches, c, (within ht metaFile).trans found⟩
    have data : disk.read (p.join ⟨[dataFile]⟩) = .ok raw :=
      (read_join isName_dataFile).2 ⟨reaches', c', (within ht dataFile).trans found'⟩
    have opened : openSealed p disk = .ok ⟨p, x.1⟩ := openSealed_eq_ok.2 ⟨bytes, info, decoded, rfl⟩
    rw [opened]
    exact readOpened_eq_ok.2 ⟨rfl, load_eq_ok.2 ⟨listed, raw, data, decodes⟩⟩

theorem readBack_eq :
    readBack dir disk =
      if isSealed dir disk then readSealed dir disk
      else if isSealed (parkedDir dir) disk then readSealed (parkedDir dir) disk
      else .error (.unavailable (.noSnapshot dir)) := by
  unfold readBack openDir
  split
  · rfl
  split
  · rfl
  · rfl

/-! ## Directories that are found -/

theorem has_of_isSealed {q : String} (h : isSealed p disk = true) (hq : q ∈ p.pieces)
    (solid : q ≠ "") :
    disk.has p = true := by
  obtain ⟨reaches, -⟩ := isSealed_iff.1 h
  obtain ⟨u, there, -⟩ := reaches.isDir
  exact has_eq_true.2 ⟨_, u, reaches.find hq solid there⟩

section Found

variable {here : Place} {t : Node Content} (found : disk.find dir = .ok (here, t))
  (directory : t.value = .directory)

include found directory

theorem openSealed_of_find {info : Meta} (sealed : t.at? [metaFile] = some ⟨.file info.encode, .nil⟩)
    (index : info.appliedIndex < 2 ^ 64) (check : checkPath (dir.join ⟨[metaFile]⟩) = .ok ()) :
    isSealed dir disk = true ∧ openSealed dir disk = .ok ⟨dir, info⟩ := by
  have reaches : disk.Reaches dir metaFile := .of_find found directory check (by decide)
  obtain ⟨-, -, -, rfl, there⟩ := find_eq_ok.1 found
  have within : disk.root.at? (disk.place dir ++ [metaFile]) = some ⟨.file info.encode, .nil⟩ :=
    (Node.at?_append_some there).trans sealed
  have decoded : Meta.decode? info.encode = some info := by
    rw [Meta.decode?_encode, if_pos index]
  exact ⟨isSealed_iff.2 ⟨reaches, _, within⟩, openSealed_eq_ok.2
    ⟨info.encode, (read_join isName_metaFile).2 ⟨reaches, _, within⟩, decoded, rfl⟩⟩

theorem openDir_of_find {info : Meta} (sealed : t.at? [metaFile] = some ⟨.file info.encode, .nil⟩)
    (index : info.appliedIndex < 2 ^ 64) (check : checkPath (dir.join ⟨[metaFile]⟩) = .ok ()) :
    openDir dir disk = .ok ⟨dir, info⟩ := by
  obtain ⟨is_sealed, opened⟩ := openSealed_of_find found directory sealed index check
  unfold openDir
  rw [if_pos is_sealed, opened]

/-- The data of a directory is read, unless the path to its file is too long. -/
theorem load_eq_ok_of_find {x : Snapshot} {files : List String}
    (data : t.at? [dataFile] = some ⟨.file x.encode, .nil⟩) (listed : dataFile ∈ files)
    (short : x.body.length < 2 ^ 32) :
    load ⟨dir, files⟩ disk = .ok x ↔ checkPath (dir.join ⟨[dataFile]⟩) = .ok () := by
  rw [load_eq_ok]
  constructor
  · rintro ⟨-, bytes, read, -⟩
    exact ((read_join isName_dataFile).1 read).1.check
  · intro check
    have reaches : disk.Reaches dir dataFile := .of_find found directory check (by decide)
    obtain ⟨-, -, -, rfl, there⟩ := find_eq_ok.1 found
    exact ⟨listed, x.encode, (read_join isName_dataFile).2
      ⟨reaches, _, (Node.at?_append_some there).trans data⟩, decode_encode_short short⟩

end Found

end Retained.Snapshot
