import Retained.Proofs.Replica.CatchUp
import Retained.Proofs.Replicated

/-!
# The order of an apply loop, and its index

`ApplyLoop.Run` are the loops that have replied to a history of commands. Whatever their machine
is, it was called for each write of the history once, in order, and its answers are the replies
(`Run.writes_eq`); the index is that of the last snapshot loaded and the number of writes since
(`indexAfter`, `Run.index_eq`). How a save and a load end is told by `SaveEnding` and
`LoadEnding`: the index that a save writes is the loop's, and neither a save nor a failed load
changes it.
-/

namespace Retained

open Snapshot

/-! ## Histories -/

def Command.isWrite : Command → Bool
  | write _ => true
  | save .. | load _ | index => false

def loadedIndex? : Command × Reply → Option Nat
  | (.load _, .snapshot (.ok n)) => some n
  | _ => none

def written? : Command × Reply → Option (WriteRequest × Option Response)
  | (.write r, .written response) => some (r, some response)
  | (.write r, _) => some (r, none)
  | _ => none

/-- The index of the last snapshot that was loaded, zero if none was, and the number of writes
since. -/
def indexAfter (history : List (Command × Reply)) : Nat :=
  let newest := history.reverse
  (newest.findSome? loadedIndex?).getD 0 +
    (newest.takeWhile fun x => (loadedIndex? x).isNone).countP (·.1.isWrite)

theorem indexAfter_concat (history : List (Command × Reply)) (x : Command × Reply) :
    indexAfter (history ++ [x]) =
      (loadedIndex? x).getD (indexAfter history + if x.1.isWrite then 1 else 0) := by
  unfold indexAfter
  dsimp only
  rw [List.reverse_append, List.reverse_singleton, List.singleton_append]
  cases h : loadedIndex? x with
  | some n => simp [h]
  | none =>
    rw [List.findSome?_cons, h, List.takeWhile_cons, h]
    simp [List.countP_cons, Nat.add_assoc]

namespace ApplyLoop

variable {σ : Type} [Replicated σ] {l l' : ApplyLoop σ} {m₀ : σ} {dir : Path} {createdAt : String}
  {disk disk' : Disk} {c : Command} {reply : Reply} {history : List (Command × Reply)}

/-- What a loop that started with a machine, at index zero, becomes while it replies to commands,
each on whatever disk is there then. -/
inductive Run (m₀ : σ) : List (Command × Reply) → ApplyLoop σ → Prop where
  | start : Run m₀ [] { machine := m₀ }
  | handle {history : List (Command × Reply)} {l : ApplyLoop σ} {reply : Reply} (c : Command)
    (disk : Disk) (h : Run m₀ history l) (replied : (l.handle c disk).1 = some reply) :
    Run m₀ (history ++ [(c, reply)]) (l.handle c disk).2.1

/-! ## How saves and loads end -/

/-- The ways in which a save ends, with its result and the loop and the disk that it leaves. -/
inductive SaveEnding (dir : Path) (createdAt : String) (l : ApplyLoop σ) (disk : Disk) :
    Option (Except Error Nat) × ApplyLoop σ × Disk → Prop where
  | unstarted {e : Error} {d : Disk} (start : Staging.start dir l.index.toNat disk = (.error e, d)) :
    SaveEnding dir createdAt l disk (some (.error e), l, d)
  | crashed {w v : Staging} {d d' : Disk} {machine : σ}
    (start : Staging.start dir l.index.toNat disk = (.ok w, d))
    (report : Replicated.save w d l.machine = (.crashed, v, d', machine)) :
    SaveEnding dir createdAt l disk (none, { l with machine }, d')
  | dropped {w v : Staging} {d d' : Disk} {machine : σ}
    (start : Staging.start dir l.index.toNat disk = (.ok w, d))
    (report : Replicated.save w d l.machine = (.dropped, v, d', machine)) :
    SaveEnding dir createdAt l disk
      (some (.error (.unavailable .callbackDropped)), { l with machine }, d')
  | failed {w v : Staging} {d d' : Disk} {machine : σ} {cause : Option Error}
    (start : Staging.start dir l.index.toNat disk = (.ok w, d))
    (report : Replicated.save w d l.machine = (.reported false cause, v, d', machine)) :
    SaveEnding dir createdAt l disk
      (some (.error (cause.getD (.io .saveFailed))), { l with machine }, d')
  | unpublished {w v : Staging} {d d' d'' : Disk} {machine : σ} {cause : Option Error} {e : Error}
    (start : Staging.start dir l.index.toNat disk = (.ok w, d))
    (report : Replicated.save w d l.machine = (.reported true cause, v, d', machine))
    (publish : v.publish createdAt d' = (some e, d'')) :
    SaveEnding dir createdAt l disk (some (.error e), { l with machine }, d'')
  | saved {w v : Staging} {d d' d'' : Disk} {machine : σ} {cause : Option Error}
    (start : Staging.start dir l.index.toNat disk = (.ok w, d))
    (report : Replicated.save w d l.machine = (.reported true cause, v, d', machine))
    (publish : v.publish createdAt d' = (none, d'')) :
    SaveEnding dir createdAt l disk (some (.ok l.index.toNat), { l with machine }, d'')

theorem save_ending (dir : Path) (createdAt : String) (l : ApplyLoop σ) (disk : Disk) :
    SaveEnding dir createdAt l disk (l.save dir createdAt disk) := by
  unfold ApplyLoop.save
  split
  · next start => exact .unstarted start
  next w d start =>
  generalize report : Replicated.save w d l.machine = out
  obtain ⟨outcome, v, d', machine⟩ := out
  dsimp only
  split
  · exact .crashed start report
  · exact .dropped start report
  · exact .failed start report
  · split
    · next publish => exact .unpublished start report publish
    · next publish => exact .saved start report publish

inductive LoadEnding (dir : Path) (l : ApplyLoop σ) (disk : Disk) :
    Option (Except Error Nat) × ApplyLoop σ → Prop where
  | unopened {e : Error} (opened : openDir dir disk = .error e) :
    LoadEnding dir l disk (some (.error e), l)
  | crashed {o : Opened} {machine : σ} (opened : openDir dir disk = .ok o)
    (answer : Replicated.load o.source disk l.machine = (none, machine)) :
    LoadEnding dir l disk (none, { l with machine })
  | refused {o : Opened} {machine : σ} (opened : openDir dir disk = .ok o)
    (answer : Replicated.load o.source disk l.machine = (some false, machine)) :
    LoadEnding dir l disk (some (.error (.corrupt (.refused dir))), { l with machine })
  | loaded {o : Opened} {machine : σ} {index : UInt64} (opened : openDir dir disk = .ok o)
    (answer : Replicated.load o.source disk l.machine = (some true, machine))
    (fits : o.info.appliedIndex = index.toNat) :
    LoadEnding dir l disk (some (.ok index.toNat), { l with machine, index })

theorem load_ending (dir : Path) (l : ApplyLoop σ) (disk : Disk) :
    LoadEnding dir l disk (l.load dir disk) := by
  unfold ApplyLoop.load
  split
  · next opened => exact .unopened opened
  next o opened =>
  generalize answer : Replicated.load o.source disk l.machine = out
  obtain ⟨accepted, machine⟩ := out
  dsimp only
  split
  · exact .crashed opened answer
  · exact .refused opened answer
  · exact .loaded opened answer (UInt64.toNat_ofNat_of_lt' (appliedIndex_lt opened)).symm

theorem handle_save_def (dir : Path) (createdAt : String) (l : ApplyLoop σ) (disk : Disk) :
    l.handle (.save dir createdAt) disk =
      ((l.save dir createdAt disk).1.map .snapshot, (l.save dir createdAt disk).2) := by
  dsimp only [ApplyLoop.handle]

theorem handle_load_def (dir : Path) (l : ApplyLoop σ) (disk : Disk) :
    l.handle (.load dir) disk = ((l.load dir disk).1.map .snapshot, (l.load dir disk).2, disk) := by
  dsimp only [ApplyLoop.handle]

theorem handle_save_eq {result : Except Error Nat}
    (h : l.handle (.save dir createdAt) disk = (some (.snapshot result), l', disk')) :
    l.save dir createdAt disk = (some result, l', disk') := by
  rw [handle_save_def] at h
  generalize l.save dir createdAt disk = out at h
  obtain ⟨saved, rest⟩ := out
  cases saved with
  | none => cases h
  | some saved =>
    cases h
    rfl

theorem handle_load_eq {result : Except Error Nat}
    (h : l.handle (.load dir) disk = (some (.snapshot result), l', disk')) :
    l.load dir disk = (some result, l') := by
  rw [handle_load_def] at h
  generalize l.load dir disk = out at h
  obtain ⟨loaded, l₁⟩ := out
  cases loaded with
  | none => cases h
  | some loaded =>
    cases h
    rfl

/-! ## The index -/

theorem index_save (dir : Path) (createdAt : String) (l : ApplyLoop σ) (disk : Disk) :
    (l.save dir createdAt disk).2.1.index = l.index := by
  have ending := save_ending dir createdAt l disk
  generalize l.save dir createdAt disk = out at ending
  cases ending <;> rfl

theorem index_handle (replied : (l.handle c disk).1 = some reply) :
    (l.handle c disk).2.1.index =
      ((loadedIndex? (c, reply)).map .ofNat).getD (l.index + if c.isWrite then 1 else 0) := by
  cases c with
  | write r => rfl
  | index => exact (UInt64.add_zero _).symm
  | save dir createdAt =>
    rw [handle_save_def]
    exact (index_save dir createdAt l disk).trans (UInt64.add_zero _).symm
  | load dir =>
    have ending := load_ending dir l disk
    rw [handle_load_def] at replied ⊢
    generalize l.load dir disk = out at ending replied
    cases ending with
    | crashed => cases replied
    | unopened | refused =>
      cases replied
      exact (UInt64.add_zero _).symm
    | loaded =>
      cases replied
      exact UInt64.ofNat_toNat.symm

/-- The index is a word, and so the remainder of the number that a history comes to. -/
theorem Run.index_eq (run : Run m₀ history l) : l.index = .ofNat (indexAfter history) := by
  induction run with
  | start => rfl
  | handle c disk _ replied ih =>
    rw [index_handle replied, indexAfter_concat, ih]
    cases loadedIndex? _ with
    | some n => rfl
    | none =>
      rw [Option.map_none, Option.getD_none, Option.getD_none, UInt64.ofNat_add]
      cases c.isWrite with
      | true => rfl
      | false => rfl

theorem Run.toNat_index (run : Run m₀ history l) : l.index.toNat = indexAfter history % 2 ^ 64 := by
  rw [run.index_eq, UInt64.toNat_ofNat']

/-! ## The record of a machine -/

def unrecorded (l : ApplyLoop (Recorded σ)) : ApplyLoop σ := ⟨l.machine.machine, l.index, l.isRunning⟩

theorem handle_unrecorded (c : Command) (l : ApplyLoop (Recorded σ)) (disk : Disk) :
    l.unrecorded.handle c disk =
      ((l.handle c disk).1, (l.handle c disk).2.1.unrecorded, (l.handle c disk).2.2) := by
  cases c with
  | write r => rfl
  | index => rfl
  | load dir =>
    dsimp only [ApplyLoop.handle, ApplyLoop.load, unrecorded, Replicated.load]
    cases openDir dir disk with
    | error e => rfl
    | ok o =>
    dsimp only
    generalize Replicated.load o.source disk l.machine.machine = out
    obtain ⟨accepted, machine⟩ := out
    match accepted with
    | none | some false | some true => rfl
  | save dir createdAt =>
    dsimp only [ApplyLoop.handle, ApplyLoop.save, unrecorded, Replicated.save]
    generalize Staging.start dir l.index.toNat disk = started
    obtain ⟨started, d⟩ := started
    cases started with
    | error e => rfl
    | ok w =>
    dsimp only
    generalize Replicated.save w d l.machine.machine = out
    obtain ⟨report, v, d', machine⟩ := out
    match report with
    | .crashed | .dropped | .reported false cause => rfl
    | .reported true cause =>
      dsimp only
      generalize v.publish createdAt d' = published
      obtain ⟨failed, d''⟩ := published
      cases failed <;> rfl

theorem Run.record (run : Run m₀ history l) :
    ∃ twin, Run (Recorded.mk m₀ []) history twin ∧ twin.unrecorded = l := by
  induction run with
  | start => exact ⟨_, .start, rfl⟩
  | @handle history l reply c disk _ replied ih =>
    obtain ⟨twin, run, rfl⟩ := ih
    rw [handle_unrecorded] at replied ⊢
    exact ⟨_, run.handle c disk replied, rfl⟩

section Record

variable {l : ApplyLoop (Recorded σ)}

theorem writes_save (dir : Path) (createdAt : String) (l : ApplyLoop (Recorded σ)) (disk : Disk) :
    (l.save dir createdAt disk).2.1.machine.writes = l.machine.writes := by
  have ending := save_ending dir createdAt l disk
  generalize l.save dir createdAt disk = out at ending
  cases ending with
  | unstarted => rfl
  | crashed _ report | dropped _ report | failed _ report | unpublished _ report | saved _ report =>
    exact (congrArg (·.2.2.2.writes) report).symm

theorem writes_load (dir : Path) (l : ApplyLoop (Recorded σ)) (disk : Disk) :
    (l.load dir disk).2.machine.writes = l.machine.writes := by
  have ending := load_ending dir l disk
  generalize l.load dir disk = out at ending
  cases ending with
  | unopened => rfl
  | crashed _ answer | refused _ answer | loaded _ answer =>
    exact (congrArg (·.2.writes) answer).symm

/-- A machine is called for a write once and for nothing else, and its answer is the reply. -/
theorem writes_handle (replied : (l.handle c disk).1 = some reply) :
    (l.handle c disk).2.1.machine.writes = l.machine.writes ++ [(c, reply)].filterMap written? := by
  cases c with
  | write r =>
    show l.machine.writes ++ [(r, (Replicated.write r l.machine.machine).1)] = _
    have answered : (Replicated.write r l.machine.machine).1.map Reply.written = some reply :=
      replied
    rw [Option.map_eq_some_iff] at answered
    obtain ⟨response, answer, rfl⟩ := answered
    rw [answer]
    rfl
  | save dir createdAt =>
    rw [handle_save_def]
    dsimp only
    exact (writes_save dir createdAt l disk).trans (List.append_nil _).symm
  | load dir =>
    rw [handle_load_def]
    dsimp only
    exact (writes_load dir l disk).trans (List.append_nil _).symm
  | index => exact (List.append_nil _).symm

theorem Run.writes_eq (run : Run (Recorded.mk m₀ []) history l) :
    l.machine.writes = history.filterMap written? := by
  induction run with
  | start => rfl
  | handle c disk _ replied ih => rw [writes_handle replied, List.filterMap_append, ih]

end Record

/-! ## Queues -/

inductive Crashes (l : ApplyLoop σ) (disk : Disk) : Command → Prop where
  | write {r : WriteRequest} (crash : (Replicated.write r l.machine).1 = none) :
    Crashes l disk (.write r)
  | save {dir : Path} {createdAt : String} {w : Staging} {d : Disk}
    (start : Staging.start dir l.index.toNat disk = (.ok w, d))
    (crash : (Replicated.save w d l.machine).1 = .crashed) : Crashes l disk (.save dir createdAt)
  | load {dir : Path} {o : Opened} (opened : openDir dir disk = .ok o)
    (crash : (Replicated.load o.source disk l.machine).1 = none) : Crashes l disk (.load dir)

theorem crashes_of_handle (h : (l.handle c disk).1 = none) : l.Crashes disk c := by
  cases c with
  | write r => exact .write (Option.map_eq_none_iff.1 h)
  | index => cases h
  | save dir createdAt =>
    rw [handle_save_def] at h
    dsimp only at h
    have silent := Option.map_eq_none_iff.1 h
    have ending := save_ending dir createdAt l disk
    generalize l.save dir createdAt disk = out at ending silent
    cases ending with
    | crashed start report => exact .save start (by rw [report])
    | unstarted | dropped | failed | unpublished | saved => cases silent
  | load dir =>
    rw [handle_load_def] at h
    dsimp only at h
    have silent := Option.map_eq_none_iff.1 h
    have ending := load_ending dir l disk
    generalize l.load dir disk = out at ending silent
    cases ending with
    | crashed opened answer => exact .load opened (by rw [answer])
    | unopened | refused | loaded => cases silent

/-- What becomes of a queue: its commands are replied to in their order, up to a crash that drops
the rest. -/
inductive Drained (m₀ : σ) (history : List (Command × Reply)) :
    List Command → List Reply × ApplyLoop σ → Prop where
  | all (handled : List (Command × Reply)) {l : ApplyLoop σ} (run : Run m₀ (history ++ handled) l) :
    Drained m₀ history (handled.map Prod.fst) (handled.map Prod.snd, l)
  | crashed (handled : List (Command × Reply)) {l : ApplyLoop σ} (c : Command) (queue : List Command)
    (disk : Disk) (run : Run m₀ (history ++ handled) l) (crash : l.Crashes disk c) :
    Drained m₀ history (handled.map Prod.fst ++ c :: queue)
      (handled.map Prod.snd ++ (c :: queue).map (Command.refuse .dropped),
        { (l.handle c disk).2.1 with isRunning := false })

theorem Drained.cons {cs : List Command} {replies : List Reply}
    (h : Drained m₀ (history ++ [(c, reply)]) cs (replies, l)) :
    Drained m₀ history (c :: cs) (reply :: replies, l) := by
  cases h with
  | all handled run =>
    rw [List.append_assoc] at run
    exact .all ((c, reply) :: handled) run
  | crashed handled last queue disk run crash =>
    rw [List.append_assoc] at run
    exact .crashed ((c, reply) :: handled) last queue disk run crash

theorem Run.drain (run : Run m₀ history l) (cs : List Command) (disk : Disk) :
    Drained m₀ history cs ((l.drain disk cs).1, (l.drain disk cs).2.1) := by
  induction cs generalizing history l disk with
  | nil => exact .all [] (by rwa [List.append_nil])
  | cons c cs ih =>
    rw [ApplyLoop.drain]
    split
    · next reply l' disk' handled =>
      have next := run.handle c disk (by rw [handled])
      rw [handled] at next
      exact (ih next disk').cons
    · next l' disk' handled =>
      have crash := Drained.crashed [] c cs disk (by rwa [List.append_nil])
        (crashes_of_handle (by rw [handled]))
      rw [handled] at crash
      exact crash

theorem isRunning_handle (c : Command) (l : ApplyLoop σ) (disk : Disk) :
    (l.handle c disk).2.1.isRunning = l.isRunning := by
  cases c with
  | write r => rfl
  | index => rfl
  | save dir createdAt =>
    rw [handle_save_def]
    have ending := save_ending dir createdAt l disk
    generalize l.save dir createdAt disk = out at ending
    cases ending <;> rfl
  | load dir =>
    rw [handle_load_def]
    have ending := load_ending dir l disk
    generalize l.load dir disk = out at ending
    cases ending <;> rfl

theorem Run.isRunning (run : Run m₀ history l) : l.isRunning = true := by
  induction run with
  | start => rfl
  | handle c disk _ _ ih => exact (isRunning_handle c _ disk).trans ih

theorem Run.submit (run : Run m₀ history l) (cs : List Command) (disk : Disk) :
    Drained m₀ history cs ((l.submit cs disk).1, (l.submit cs disk).2.1) := by
  unfold ApplyLoop.submit
  rw [if_pos run.isRunning]
  exact run.drain cs disk

/-! ## What a loop does next -/

/-- A machine that registers its files leaves the index alone that the meta file gets. -/
theorem toMeta_of_save [LawfulReplicated σ] {w v : Staging} {n : Nat} {d d' : Disk}
    {report : SaveReport} {m m' : σ} (start : Staging.start dir n disk = (.ok w, d))
    (saved : Replicated.save w d m = (report, v, d', m')) (createdAt : String) :
    v.target = dir ∧ v.toMeta createdAt = ⟨n, createdAt, v.files⟩ := by
  obtain ⟨rfl, -⟩ := Staging.start_eq_ok start
  have registered := LawfulReplicated.registered (⟨dir, n, []⟩ : Staging) d m
  rw [saved] at registered
  obtain ⟨target, index⟩ := registered.staging
  exact ⟨target, by rw [Staging.toMeta, index]⟩

/-- What the commands do that come to a loop after a history. -/
structure Law (history : List (Command × Reply)) (l : ApplyLoop σ) : Prop where
  index : l.index.toNat = indexAfter history % 2 ^ 64
  asked (disk : Disk) :
    l.handle .index disk = (some (.index (indexAfter history % 2 ^ 64)), l, disk)
  /-- A load that succeeds sets the index to the one of the meta file that it has opened. -/
  loaded {dir : Path} {disk disk' : Disk} {n : Nat} {l' : ApplyLoop σ}
    (h : l.handle (.load dir) disk = (some (.snapshot (.ok n)), l', disk')) :
    l'.index.toNat = n ∧ ∃ o, openDir dir disk = .ok o ∧ o.info.appliedIndex = n ∧
      Replicated.load o.source disk l.machine = (some true, l'.machine)
  /-- A load that fails could not open the directory, or was refused by the machine. -/
  unloaded {dir : Path} {disk disk' : Disk} {e : Error} {l' : ApplyLoop σ}
    (h : l.handle (.load dir) disk = (some (.snapshot (.error e)), l', disk')) :
    l'.index = l.index ∧
      (openDir dir disk = .error e ∧ l' = l ∨ ∃ o, openDir dir disk = .ok o ∧
        e = .corrupt (.refused dir) ∧
        Replicated.load o.source disk l.machine = (some false, l'.machine))
  /-- A save that succeeds was reported as a success and published, under the index that it
  answers. -/
  saved {dir : Path} {createdAt : String} {disk disk' : Disk} {n : Nat} {l' : ApplyLoop σ}
    (h : l.handle (.save dir createdAt) disk = (some (.snapshot (.ok n)), l', disk')) :
    n = indexAfter history % 2 ^ 64 ∧ l'.index = l.index ∧
      ∃ w d cause v d', Staging.start dir n disk = (.ok w, d) ∧
        Replicated.save w d l.machine = (.reported true cause, v, d', l'.machine) ∧
        v.publish createdAt d' = (none, disk') ∧
        disk'.root.at? (disk'.place dir ++ [metaFile]) =
          some ⟨.file (Meta.encode ⟨n, createdAt, v.files⟩), .nil⟩
  unsaved {dir : Path} {createdAt : String} {disk disk' : Disk} {e : Error} {l' : ApplyLoop σ}
    (h : l.handle (.save dir createdAt) disk = (some (.snapshot (.error e)), l', disk')) :
    l'.index = l.index
  /-- Whatever is reported, what would be published has the loop's index in its meta file. -/
  sealing {dir : Path} {createdAt : String} {disk d d' : Disk} {w v : Staging} {report : SaveReport}
    {machine : σ} (start : Staging.start dir l.index.toNat disk = (.ok w, d))
    (saved : Replicated.save w d l.machine = (report, v, d', machine)) :
    v.toMeta createdAt = ⟨indexAfter history % 2 ^ 64, createdAt, v.files⟩
  /-- A reported failure is passed on, and nothing is published. -/
  failed {dir : Path} {createdAt : String} {disk d d' : Disk} {w v : Staging} {cause : Option Error}
    {machine : σ} (start : Staging.start dir l.index.toNat disk = (.ok w, d))
    (report : Replicated.save w d l.machine = (.reported false cause, v, d', machine)) :
    l.handle (.save dir createdAt) disk =
      (some (.snapshot (.error (cause.getD (.io .saveFailed)))), { l with machine }, d')
  /-- Neither is anything if no report will come. -/
  dropped {dir : Path} {createdAt : String} {disk d d' : Disk} {w v : Staging} {machine : σ}
    (start : Staging.start dir l.index.toNat disk = (.ok w, d))
    (report : Replicated.save w d l.machine = (.dropped, v, d', machine)) :
    l.handle (.save dir createdAt) disk =
      (some (.snapshot (.error (.unavailable .callbackDropped))), { l with machine }, d')

theorem law_of_index_eq [LawfulReplicated σ] (index : l.index.toNat = indexAfter history % 2 ^ 64) :
    Law history l where
  index := index
  asked disk := by rw [← index]; rfl
  loaded {dir disk disk' n l'} h := by
    have ending := load_ending dir l disk
    rw [handle_load_eq h] at ending
    cases ending with
    | loaded opened answer fits => exact ⟨rfl, _, opened, fits, answer⟩
  unloaded {dir disk disk' e l'} h := by
    have ending := load_ending dir l disk
    rw [handle_load_eq h] at ending
    cases ending with
    | unopened opened => exact ⟨rfl, .inl ⟨opened, rfl⟩⟩
    | refused opened answer => exact ⟨rfl, .inr ⟨_, opened, rfl, answer⟩⟩
  saved {dir createdAt disk disk' n l'} h := by
    have ending := save_ending dir createdAt l disk
    rw [handle_save_eq h] at ending
    cases ending with
    | saved start report publish =>
      obtain ⟨target, info⟩ := toMeta_of_save start report createdAt
      refine ⟨index, rfl, _, _, _, _, _, start, report, publish, ?_⟩
      rw [← info, ← target]
      exact Staging.info_of_publish publish
  unsaved {dir createdAt disk disk' e l'} h := by
    have kept := index_save dir createdAt l disk
    rw [handle_save_eq h] at kept
    exact kept
  sealing start saved := index ▸ (toMeta_of_save start saved _).2
  failed start report := by
    dsimp only [ApplyLoop.handle, ApplyLoop.save]
    rw [start]
    dsimp only
    rw [report]
    rfl
  dropped start report := by
    dsimp only [ApplyLoop.handle, ApplyLoop.save]
    rw [start]
    dsimp only
    rw [report]
    rfl

/--
Whatever the machine of a loop is, it was called for each write of the loop's history once, in
order, and what it answered is the reply: that is what a record of it says, which changes nothing
else. The index that the loop answers, saves and publishes is that of the last snapshot loaded and
the number of writes since (`Law`); more commands are replied to in the order in which they are
queued. A save leaves a replica of the retained store as it was, and so does a load that fails.
-/
theorem Run.lawful [LawfulReplicated σ] (run : Run m₀ history l) :
    Law history l ∧
      ((∃ twin, Run (Recorded.mk m₀ []) history twin ∧ twin.unrecorded = l) ∧
        ∀ twin, Run (Recorded.mk m₀ []) history twin →
          twin.machine.writes = history.filterMap written?) ∧
      (∀ cs disk, Drained m₀ history cs ((l.submit cs disk).1, (l.submit cs disk).2.1)) ∧
      ∀ (a : Replica) (dir : Path) (disk : Disk),
        (∀ createdAt, (a.handle (.save dir createdAt) disk).2.1 = a) ∧
          ∀ e, (a.handle (.load dir) disk).1 = some (.snapshot (.error e)) →
            (a.handle (.load dir) disk).2.1 = a := by
  refine ⟨law_of_index_eq run.toNat_index, ⟨run.record, fun _ twin => twin.writes_eq⟩, run.submit,
    fun a dir disk => ⟨fun createdAt => ?_, fun e failed => ?_⟩⟩
  · exact Replica.snd_handle_save dir createdAt a disk
  · exact Replica.snd_handle_load_of_error failed

set_option maxRecDepth 4000 in
/-- A store that was saved after one write and loaded after the next stands at two after a third,
refused one. -/
theorem lawful_reloaded :
    ∃ history l, Run (Store.empty {}) history l ∧
      history.map (·.1.isWrite) = [true, false, true, false, true] ∧
      ∀ disk, l.handle .index disk = (some (.index 2), l, disk) := by
  have saved : ((Replica.one "a" "a/x" [118]).handle (.save ⟨["snap"]⟩ "") {}).1 =
      some (.snapshot (.ok 1)) := Replica.eq_of_savedIndex? (by decide +kernel)
  have fresh : Run (Store.empty {}) [] (Replica.empty {}) := .start
  have run := fresh
    |>.handle (.write (.ofTopic "a" "a/x" false [118])) {} rfl
    |>.handle (.save ⟨["snap"]⟩ "") {} saved
    |>.handle (.write (.ofTopic "a" "a/y" false [119])) {} rfl
    |>.handle (.load ⟨["snap"]⟩) (Replica.oneSaved "a" "a/x" [118])
      (Replica.eq_of_savedIndex? (n := 1) (by decide +kernel))
    |>.handle (.write (.ofTopic "a" "a/+" false [120])) {} rfl
  exact ⟨_, _, run, rfl, run.lawful.1.asked⟩

/-! ### Where commands are not counted -/

/-- A machine that crashes whatever it is called for. -/
structure Brittle where

instance : Replicated Brittle where
  group := "brittle"
  write _ m := (none, m)
  save w disk m := (.crashed, w, disk, m)
  load _ _ m := (none, m)

def brimful : Disk where
  root := ⟨.directory, .branch "snap" .directory
    (.branch dataFile (.file ({} : Snapshot).encode) .nil
      (.branch metaFile (.file (Meta.encode ⟨2 ^ 64 - 1, "", [dataFile]⟩)) .nil .nil)) .nil⟩

set_option maxRecDepth 4000 in
/-- After the last write that a word can count the index is zero again, and after a crash no write
is counted or even comes to the machine. -/
theorem not_every_write_counts :
    (∃ history l, Run (Store.empty {}) history l ∧ indexAfter history = 2 ^ 64 ∧
      ∀ disk, l.handle .index disk = (some (.index 0), l, disk)) ∧
    let r : WriteRequest := {}
    let out := ({ machine := ⟨⟨⟩, []⟩ } : ApplyLoop (Recorded Brittle)).submit
      [.write r, .write r, .index] {}
    out.2.1.machine.writes = [(r, none)] ∧ out.1.getLast? = some (.index 0) := by
  refine ⟨?_, rfl, rfl⟩
  have fresh : Run (Store.empty {}) [] (Replica.empty {}) := .start
  have run := fresh
    |>.handle (.load ⟨["snap"]⟩) brimful
      (Replica.eq_of_savedIndex? (n := 2 ^ 64 - 1) (by decide +kernel))
    |>.handle (.write { group := retainedGroup }) {} rfl
  exact ⟨_, _, run, rfl, (law_of_index_eq run.toNat_index).asked⟩

end ApplyLoop

end Retained
