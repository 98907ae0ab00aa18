import Retained.ApplyLoop
import Retained.Proofs.Snapshot.Whole
import Retained.Proofs.Store.Alike

/-!
# Catching up by a snapshot

A replica that loads the snapshot of another one takes over its store and its index, as long as
the directory is what the save has made it (`load_saved`). From then on the two stay together: the
same writes are answered alike on both, and no read tells them apart, however many reads came to
either in between (`catchUp`). What carries this through the writes is `Together`, which a read on
one side cannot break; only which empty namespaces have an entry may come to differ.

What stands beside the directory makes no difference to a load, unless the path to the meta file
in it is too long. Such a directory can be saved to, but is passed over by whoever opens it.
-/

namespace Retained

/-- The same response, save for the order of payloads. -/
inductive Response.Alike : Response → Response → Prop where
  | same (r : Response) : Alike r r
  | payloads {l l' : List Bytes} (h : l.Perm l') : Alike (.payloads l) (.payloads l')

/-- No read and no count of topics tells the two apart. -/
structure Store.Agree (s u : Store) : Prop where
  read : ∀ r, (s.read r).1.Alike (u.read r).1
  get? : ∀ topic, s.get? topic = u.get? topic
  matching : ∀ first filter, (s.matching first filter).1.Perm (u.matching first filter).1
  namespaceSize : ∀ first, s.namespaceSize first = u.namespaceSize first
  size : s.size = u.size

theorem Store.Alike.agree {s u : Store} (h : s.Alike u) : s.Agree u where
  read r := h.read_eq r ▸ .same _
  get? := h.get?_eq
  matching first filter := .of_eq (h.matching_eq first filter)
  namespaceSize := h.namespaceSize_eq
  size := h.size_eq

namespace Replica

open Snapshot ApplyLoop

variable {limits : Limits} {a b a' b' : Replica} {dir : Path} {createdAt : String} {d d' : Disk}
  {n : Nat}

/-! ## Saves and loads -/

theorem write_cases (x : Snapshot) (dir : Path) (index : Nat) (d : Disk) :
    (∃ e d', x.save (Staging.mk dir index []) d = (some e, ⟨dir, index, []⟩, d')) ∨
      ∃ d', Disk.run (saveSteps (stagingDir dir) x) d = (d', none) ∧
        x.save (Staging.mk dir index []) d = (none, ⟨dir, index, [dataFile]⟩, d') := by
  unfold Snapshot.save
  cases written : Disk.run (saveSteps (Sink.dir (Staging.mk dir index [])) x) d with
  | mk d' e =>
  cases e with
  | some e => exact .inl ⟨_, _, rfl⟩
  | none =>
  dsimp only [Sink.register, Staging.register]
  split
  · next there =>
    split at there
    · cases there
      exact .inr ⟨d', written, rfl⟩
    · cases there
  · next there =>
    split at there
    · cases there
    · cases there
      exact .inl ⟨_, _, rfl⟩

def toSave (dir : Path) (createdAt : String) (a : Replica) : Save :=
  ⟨dir, a.index.toNat, createdAt, a.machine.toSnapshot⟩

theorem save_cases (dir : Path) (createdAt : String) (a : Replica) (d : Disk) :
    (∃ e d', ApplyLoop.save dir createdAt a d = (some (.error e), a, d')) ∨
      ∃ d', Disk.run (a.toSave dir createdAt).script d = (d', none) ∧
        ApplyLoop.save dir createdAt a d = (some (.ok a.index.toNat), a, d') := by
  unfold ApplyLoop.save Staging.start
  cases started : Disk.run (Staging.startSteps dir) d with
  | mk d₁ e =>
  cases e with
  | some e => exact .inl ⟨_, _, rfl⟩
  | none =>
  dsimp only [Replicated.save, Store.save]
  rcases write_cases a.machine.toSnapshot dir a.index.toNat d₁ with
    ⟨e, d₂, failed⟩ | ⟨d₂, written, saved⟩
  · rw [failed]
    exact .inl ⟨_, _, rfl⟩
  rw [saved]
  dsimp only [Staging.publish]
  cases published : Disk.run ((Staging.mk dir a.index.toNat [dataFile]).publishSteps createdAt) d₂ with
  | mk d₃ e =>
  cases e with
  | some e => exact .inl ⟨_, _, rfl⟩
  | none =>
  refine .inr ⟨d₃, ?_, rfl⟩
  unfold Save.script toSave
  simp only [Disk.run_append, started, written, published]

theorem handle_save (dir : Path) (createdAt : String) (a : Replica) (d : Disk) :
    (∃ e d', a.handle (.save dir createdAt) d = (some (.snapshot (.error e)), a, d')) ∨
      ∃ d', Disk.run (a.toSave dir createdAt).script d = (d', none) ∧
        a.handle (.save dir createdAt) d = (some (.snapshot (.ok a.index.toNat)), a, d') := by
  rcases save_cases dir createdAt a d with ⟨e, d', saved⟩ | ⟨d', done, saved⟩
  · exact .inl ⟨e, d', by simp only [ApplyLoop.handle, saved, Option.map_some]⟩
  · exact .inr ⟨d', done, by simp only [ApplyLoop.handle, saved, Option.map_some]⟩

theorem handle_load_of_openDir {o : Opened} {x : Snapshot} (opened : openDir dir d = .ok o)
    (read : Snapshot.load o.source d = .ok x) :
    b.handle (.load dir) d = (some (.snapshot (.ok (UInt64.ofNat o.info.appliedIndex).toNat)),
      { b with machine := b.machine.restore x, index := .ofNat o.info.appliedIndex }, d) := by
  simp only [ApplyLoop.handle, ApplyLoop.load, opened, Replicated.load, Store.load, read,
    Option.map_some]

theorem handle_load (dir : Path) (b : Replica) (d : Disk) :
    (∃ e, b.handle (.load dir) d = (some (.snapshot (.error e)), b, d)) ∨
      ∃ x, readBack dir d = .ok x ∧
        b.handle (.load dir) d = (some (.snapshot (.ok (UInt64.ofNat x.1.appliedIndex).toNat)),
          { b with machine := b.machine.restore x.2, index := .ofNat x.1.appliedIndex }, d) := by
  cases opened : openDir dir d with
  | error e =>
    refine .inl ⟨e, ?_⟩
    simp only [ApplyLoop.handle, ApplyLoop.load, opened, Option.map_some]
  | ok o =>
  cases read : Snapshot.load o.source d with
  | error e =>
    refine .inl ⟨.corrupt (.refused dir), ?_⟩
    simp only [ApplyLoop.handle, ApplyLoop.load, opened, Replicated.load, Store.load, read,
      Option.map_some]
  | ok x =>
    refine .inr ⟨(o.info, x), ?_, handle_load_of_openDir opened read⟩
    rw [readBack, opened]
    show readOpened o d = _
    rw [readOpened, read]
    rfl

theorem snd_handle_save (dir : Path) (createdAt : String) (a : Replica) (d : Disk) :
    (a.handle (.save dir createdAt) d).2.1 = a := by
  rcases handle_save dir createdAt a d with ⟨e, d', saved⟩ | ⟨d', -, saved⟩
  · rw [saved]
  · rw [saved]

theorem snd_handle_load_of_error {e : Error}
    (failed : (b.handle (.load dir) d).1 = some (.snapshot (.error e))) :
    (b.handle (.load dir) d).2.1 = b := by
  rcases handle_load dir b d with ⟨e', loaded⟩ | ⟨x, -, loaded⟩
  · rw [loaded]
  · rw [loaded] at failed
    cases failed

/-! ## Histories -/

/--
What a replica under these limits can become: commands come through its loop, at any time and on
any disk, and reads go straight to its store.
-/
inductive Reached (limits : Limits) : Replica → Prop where
  | empty : Reached limits (empty limits)
  | handle {x : Replica} (c : Command) (disk : Disk) (h : Reached limits x) :
    Reached limits (x.handle c disk).2.1
  | read {x : Replica} (r : ReadRequest) (h : Reached limits x) : Reached limits (x.read r).2

theorem sound_handle (c : Command) (disk : Disk) (h : a.machine.Sound limits) :
    (a.handle c disk).2.1.machine.Sound limits := by
  cases c with
  | write r => exact h.write r
  | save dir createdAt =>
    rw [snd_handle_save]
    exact h
  | load dir =>
    rcases handle_load dir a disk with ⟨e, loaded⟩ | ⟨x, -, loaded⟩ <;> rw [loaded]
    · exact h
    · exact h.restore x.2
  | index => exact h

theorem sound_drain (cs : List Command) (disk : Disk) (h : a.machine.Sound limits) :
    (a.drain disk cs).2.1.machine.Sound limits := by
  induction cs generalizing a disk with
  | nil => exact h
  | cons c cs ih =>
    have after := sound_handle c disk h
    rw [ApplyLoop.drain]
    split
    · next handled =>
      rw [handled] at after
      exact ih _ after
    · next crashed =>
      rw [crashed] at after
      exact after

theorem Reached.sound (h : Reached limits a) : a.machine.Sound limits := by
  induction h with
  | empty => exact .empty limits
  | handle c disk _ ih => exact sound_handle c disk ih
  | read r _ ih => exact ih.read r

/-! ## Two replicas side by side -/

inductive Event where
  | write (r : WriteRequest)
  | read (r : ReadRequest)

def Event.write? : Event → Option WriteRequest
  | write r => some r
  | read _ => none

def serve (disk : Disk) : List Event → Replica → List (Option Reply) × Replica
  | [], a => ([], a)
  | .write r :: es, a =>
    let (reply, a, _) := a.handle (.write r) disk
    let (replies, a) := serve disk es a
    (reply :: replies, a)
  | .read r :: es, a => serve disk es (a.read r).2

def afterEvent (disk : Disk) (a : Replica) : Event → Replica
  | .write r => (a.handle (.write r) disk).2.1
  | .read r => (a.read r).2

theorem snd_serve_cons (disk : Disk) (e : Event) (es : List Event) (a : Replica) :
    (serve disk (e :: es) a).2 = (serve disk es (afterEvent disk a e)).2 := by
  cases e with
  | write r => rfl
  | read r => rfl

theorem sound_afterEvent (disk : Disk) (e : Event) (h : a.machine.Sound limits) :
    (afterEvent disk a e).machine.Sound limits := by
  cases e with
  | write r => exact h.write r
  | read r => exact h.read r

/-- The two have applied the same number of writes and cannot be told apart. -/
structure Together (a b : Replica) : Prop where
  index : a.index = b.index
  alike : a.machine.Alike b.machine

namespace Together

theorem symm (h : Together a b) : Together b a := ⟨h.index.symm, h.alike.symm⟩

theorem trans {c : Replica} (h : Together a b) (h' : Together b c) : Together a c :=
  ⟨h.index.trans h'.index, h.alike.trans h'.alike⟩

theorem write (h : Together a b) (r : WriteRequest) (disk disk' : Disk) :
    (a.handle (.write r) disk).1 = (b.handle (.write r) disk').1 ∧
      Together (a.handle (.write r) disk).2.1 (b.handle (.write r) disk').2.1 := by
  obtain ⟨same, after⟩ := h.alike.write r
  refine ⟨?_, congrArg (· + 1) h.index, after⟩
  show some (Reply.written (a.machine.write r).1) = some (Reply.written (b.machine.write r).1)
  rw [same]

theorem read (h : Together a b) (r : ReadRequest) : Together (a.read r).2 b :=
  ⟨h.index, (Store.alike_read r a.machine).trans h.alike⟩

/-- A replica that only takes the writes stays together with one that also answers reads. -/
theorem serve_writes (disk disk' : Disk) (es : List Event) (h : Together a b) :
    (serve disk es a).1 = (serve disk' ((es.filterMap Event.write?).map .write) b).1 ∧
      Together (serve disk es a).2 (serve disk' ((es.filterMap Event.write?).map .write) b).2 := by
  induction es generalizing a b with
  | nil => exact ⟨rfl, h⟩
  | cons e es ih =>
    cases e with
    | write r =>
      obtain ⟨same, after⟩ := h.write r disk disk'
      obtain ⟨rest, later⟩ := ih after
      exact ⟨congrArg₂ List.cons same rest, later⟩
    | read r => exact ih (h.read r)

/-- The same writes are replied alike, whatever is read meanwhile on either side. -/
theorem serve (disk disk' : Disk) {es fs : List Event}
    (writes : es.filterMap Event.write? = fs.filterMap Event.write?) (h : Together a b) :
    (serve disk es a).1 = (serve disk' fs b).1 ∧
      Together (serve disk es a).2 (serve disk' fs b).2 := by
  obtain ⟨first, left⟩ := serve_writes disk disk' es h
  obtain ⟨second, right⟩ := serve_writes disk' disk' fs (h.symm.trans h)
  rw [← writes] at second right
  exact ⟨first.trans second.symm, left.trans right.symm⟩

end Together

/-! ## Catching up -/

theorem handle_save_eq_ok
    (h : a.handle (.save dir createdAt) d = (some (.snapshot (.ok n)), a', d')) :
    a' = a ∧ Disk.run (a.toSave dir createdAt).script d = (d', none) := by
  rcases handle_save dir createdAt a d with ⟨e, d₁, saved⟩ | ⟨d₁, done, saved⟩ <;> rw [saved] at h
  · cases h
  · cases h
    exact ⟨rfl, done⟩

theorem handle_load_eq_ok (h : b.handle (.load dir) d = (some (.snapshot (.ok n)), b', d')) :
    ∃ x, readBack dir d = .ok x ∧
      b' = { b with machine := b.machine.restore x.2, index := .ofNat x.1.appliedIndex } := by
  rcases handle_load dir b d with ⟨e, loaded⟩ | ⟨x, read, loaded⟩ <;> rw [loaded] at h
  · cases h
  · cases h
    exact ⟨x, read, rfl⟩

/-- A load of what another replica under the same limits has saved makes the store that one's. -/
theorem load_saved {m : Nat} {later d'' : Disk} (sound : a.machine.Sound limits)
    (saved : a.handle (.save dir createdAt) d = (some (.snapshot (.ok n)), a', d'))
    (check : Disk.checkPath (dir.join (.ofString metaFile)) = .ok ())
    (unaltered : later.root.at? (later.place dir) = d'.root.at? (d'.place dir))
    (same_limits : b.machine.limits = limits)
    (loaded : b.handle (.load dir) later = (some (.snapshot (.ok m)), b', d'')) :
    b'.machine = a.machine ∧ b'.index = a.index := by
  obtain ⟨-, done⟩ := handle_save_eq_ok saved
  obtain ⟨x, read, rfl⟩ := handle_load_eq_ok loaded
  obtain rfl := Save.readBack_done done check unaltered read
  constructor
  · show b.machine.restore a.machine.toSnapshot = a.machine
    rw [sound.inStep.restore_toSnapshot, same_limits, ← sound.limits_eq]
  · exact UInt64.ofNat_toNat

/--
A replica that loads the snapshot which another one under the same limits has saved, the directory
being as the save left it, has that one's data, summary and index, whatever it held before and
whatever stands beside the directory, unless the path to the meta file is too long. From then on
the same writes have the same replies on both, whatever is read on either side, and both answer
every read alike, save for the order of matched payloads.
-/
theorem catchUp {m : Nat} {later d'' : Disk} (reached : Reached limits a)
    (saved : a.handle (.save dir createdAt) d = (some (.snapshot (.ok n)), a', d'))
    (check : Disk.checkPath (dir.join (.ofString metaFile)) = .ok ())
    (unaltered : later.root.at? (later.place dir) = d'.root.at? (d'.place dir))
    (same_limits : b.machine.limits = limits)
    (loaded : b.handle (.load dir) later = (some (.snapshot (.ok m)), b', d'')) :
    b'.machine.toSnapshot = a.machine.toSnapshot ∧ b'.machine.summary = a.machine.summary ∧
      b'.index = a.index ∧
      ∀ (disk disk' : Disk) (es fs : List Event),
        es.filterMap Event.write? = fs.filterMap Event.write? →
        (serve disk es a').1 = (serve disk' fs b').1 ∧
          (serve disk es a').2.index = (serve disk' fs b').2.index ∧
          (serve disk es a').2.machine.Agree (serve disk' fs b').2.machine := by
  obtain ⟨rfl, -⟩ := handle_save_eq_ok saved
  obtain ⟨machine, index⟩ := load_saved reached.sound saved check unaltered same_limits loaded
  rw [machine]
  refine ⟨rfl, rfl, index, fun disk disk' es fs writes => ?_⟩
  have start : Together a' b' := ⟨index.symm, machine ▸ .refl _⟩
  obtain ⟨same, together⟩ := start.serve disk disk' writes
  exact ⟨same, together.index, together.alike.agree⟩

def one (first topic : String) (payload : Bytes) : Replica :=
  ((empty {}).handle (.write (.ofTopic first topic false payload)) {}).2.1

/-- What a save of that replica leaves of an empty disk. -/
def oneSaved (first topic : String) (payload : Bytes) : Disk :=
  ((one first topic payload).handle (.save ⟨["snap"]⟩ "") {}).2.2

def savedIndex? : Option Reply → Option Nat
  | some (.snapshot (.ok n)) => some n
  | _ => none

theorem eq_of_savedIndex? {reply : Option Reply} (h : savedIndex? reply = some n) :
    reply = some (.snapshot (.ok n)) := by
  unfold savedIndex? at h
  split at h
  · cases h
    rfl
  · cases h

set_option maxRecDepth 4000 in
/-- A replica takes over what another one has saved, though something else is sealed beside the
directory. -/
theorem catchUp_one :
    let beside := ⟨["snap.prev"]⟩
    let later := (Disk.run [.makeDirs beside, .write (beside.join ⟨[metaFile]⟩) []]
      (oneSaved "a" "a/x" [118])).1
    let b' := ((one "b" "b/y" [119]).handle (.load ⟨["snap"]⟩) later).2.1
    b'.machine.toSnapshot = (one "a" "a/x" [118]).machine.toSnapshot ∧
      b'.machine.summary = (one "a" "a/x" [118]).machine.summary ∧
      b'.index = (one "a" "a/x" [118]).index := by
  intro beside later b'
  have stored : savedIndex? ((one "a" "a/x" [118]).handle (.save ⟨["snap"]⟩ "") {}).1 = some 1 := by
    decide +kernel
  have saved : (one "a" "a/x" [118]).handle (.save ⟨["snap"]⟩ "") {} =
      (some (.snapshot (.ok 1)), _, oneSaved "a" "a/x" [118]) :=
    Prod.ext (eq_of_savedIndex? stored) rfl
  have taken : savedIndex? ((one "b" "b/y" [119]).handle (.load ⟨["snap"]⟩) later).1 = some 1 := by
    decide +kernel
  have loaded : (one "b" "b/y" [119]).handle (.load ⟨["snap"]⟩) later =
      (some (.snapshot (.ok 1)), b', _) := Prod.ext (eq_of_savedIndex? taken) rfl
  have unaltered : later.root.at? (later.place ⟨["snap"]⟩) = (oneSaved "a" "a/x" [118]).root.at?
      ((oneSaved "a" "a/x" [118]).place ⟨["snap"]⟩) := by decide +kernel
  have reached : Reached {} (one "a" "a/x" [118]) := .handle _ _ .empty
  have other : Reached {} (one "b" "b/y" [119]) := .handle _ _ .empty
  obtain ⟨data, summary, index, -⟩ := catchUp reached saved (by decide) unaltered
    other.sound.limits_eq loaded
  exact ⟨data, summary, index⟩

/-! ### A directory that is passed over -/

def refused (n : Nat) : Replica := { machine := .empty {}, index := .ofNat n }

theorem reached_refused (n : Nat) : Reached {} (refused n) := by
  induction n with
  | zero => exact .empty
  | succ n ih =>
    let r : WriteRequest := { group := retainedGroup }
    have next : ((refused n).handle (.write r) {}).2.1 = refused (n + 1) := by
      have same : ((Store.empty {}).write r).2 = .empty {} := by
        simp [Store.write, Store.apply, Fields.required, r]
      have more : UInt64.ofNat n + 1 = .ofNat (n + 1) := (UInt64.ofNat_add n 1).symm
      show (⟨((Store.empty {}).write r).2, UInt64.ofNat n + 1, true⟩ : Replica) = _
      rw [same, more]
      rfl
    exact next ▸ ih.handle (.write r) {}

theorem handle_save_of_savesNothing (h : SavesNothing dir d d') :
    (refused 7).handle (.save dir "") d = (some (.snapshot (.ok 7)), refused 7, d') := by
  obtain ⟨w, d₁, d₂, started, saved, published⟩ := h
  have nothing : (refused 7).machine.toSnapshot = {} := by decide +kernel
  have seven : (refused 7).index.toNat = 7 := rfl
  simp only [ApplyLoop.handle, ApplyLoop.save, seven, started, Replicated.save, Store.save, nothing,
    saved, published, Option.map_some]

def otherData : Snapshot where
  payloads := .ofList [("b/y", ([119] : Bytes))]
  namespaces := .ofList [("b", ["b/y"])]

set_option maxRecDepth 4000 in
theorem otherData_short : otherData.body.length < 2 ^ 32 := by decide +kernel

def otherInfo : Meta := ⟨1, "", [dataFile]⟩

def otherFiles : Forest Content :=
  .branch dataFile (.file otherData.encode) .nil
    (.branch metaFile (.file otherInfo.encode) .nil .nil)

/-- In the directory `a`, a snapshot of no data and another one where its predecessor would be
parked. -/
def besides : Disk where
  root := ⟨.directory, .branch "a" .directory
    (.branch "snap" .directory sealedFiles (.branch "snap.prev" .directory otherFiles .nil)) .nil⟩

theorem find_beside :
    besides.find ⟨["a", "snap.prev"]⟩ = .ok (["a", "snap.prev"], ⟨.directory, otherFiles⟩) := by
  have names : (⟨["a", "snap.prev"]⟩ : Path).Names ["a"] "snap.prev" :=
    ⟨by decide, ["a"], rfl, by decide⟩
  exact (Disk.find_of_names names).2 ⟨by decide, open_of_root rfl (by decide), rfl, rfl⟩

theorem openDir_passed_over :
    openDir (dotted 2040) besides = .ok ⟨⟨["a", "snap.prev"]⟩, otherInfo⟩ := by
  have info : (⟨.directory, otherFiles⟩ : Node Content).at? [metaFile] =
      some ⟨.file otherInfo.encode, .nil⟩ := rfl
  obtain ⟨is_sealed, beside⟩ := openSealed_of_find find_beside rfl info (by decide) (by decide)
  unfold openDir
  rw [isSealed_dotted (by decide), parkedDir_dotted, is_sealed, beside]
  rfl

theorem load_beside : Snapshot.load ⟨⟨["a", "snap.prev"]⟩, [dataFile]⟩ besides = .ok otherData := by
  have data : (⟨.directory, otherFiles⟩ : Node Content).at? [dataFile] =
      some ⟨.file otherData.encode, .nil⟩ := rfl
  exact (load_eq_ok_of_find find_beside rfl data (by decide) otherData_short).2 (by decide)

theorem handle_load_passed_over :
    (empty {}).handle (.load (dotted 2040)) besides =
      (some (.snapshot (.ok 1)), { machine := (Store.empty {}).restore otherData, index := 1 },
        besides) :=
  handle_load_of_openDir openDir_passed_over load_beside

/-- A directory whose path leaves no room for the name of its meta file is passed over for the one
beside. -/
theorem not_every_load_catches_up :
    let d := holding "snap" sealedFiles
    let out := (empty {}).handle (.load (dotted 2040)) besides
    Reached {} (refused 7) ∧
      (refused 7).handle (.save (dotted 2040) "") {} = (some (.snapshot (.ok 7)), refused 7, d) ∧
      besides.root.at? (besides.place (dotted 2040)) = d.root.at? (d.place (dotted 2040)) ∧
      out.1 = some (.snapshot (.ok 1)) ∧ out.2.1.index ≠ (refused 7).index ∧
      out.2.1.machine.toSnapshot ≠ (refused 7).machine.toSnapshot := by
  intro d out
  have saved := handle_save_of_savesNothing (savesNothing_dotted (n := 2040) (by decide))
  have later_place : besides.place (dotted 2040) = ["a", "snap"] := place_dotted rfl 2040
  have place : d.place (dotted 2040) = ["a", "snap"] := place_dotted rfl 2040
  have loaded : out = _ := handle_load_passed_over
  rw [later_place, place, loaded]
  exact ⟨reached_refused 7, saved, rfl, rfl, by decide, by decide +kernel⟩

end Replica

end Retained
