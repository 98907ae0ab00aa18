import Retained.Proofs.Store.Restore
import Retained.Store.Requests

/-!
# Stores that cannot be told apart

Two stores are alike (`Store.Alike`) if they accept the same, hold the same payloads and have the
same trie for every namespace, with or without an entry for those that are empty. A write is
answered alike and leaves the stores alike (`Alike.write`); so it does under any relation that
fixes what its checks look at and that its changes keep (`Store.KeptIn`). What a read leaves
behind on one side does not matter (`alike_read`).
-/

namespace Retained

open Std (ExtTreeMap)

/-- The read asks for what matches a filter in the namespace. -/
def ReadRequest.Visits (ns : String) (r : ReadRequest) : Prop :=
  r.operation ≠ topicOperation ∧ ∃ first filter, r.fields[firstTopicField]? = some first ∧
    r.fields[topicField]? = some filter ∧ Text.isAllBlank filter = false ∧
    Topic.namespaceOf first = ns

theorem ReadRequest.Visits.unique {r : ReadRequest} {ns m : String} (h : r.Visits ns)
    (h' : r.Visits m) : m = ns := by
  obtain ⟨-, first, _, given, -, -, rfl⟩ := h
  obtain ⟨-, first', _, given', -, -, rfl⟩ := h'
  obtain rfl := Option.some.inj (given.symm.trans given')
  rfl

namespace Store

variable {s u v : Store} {ns topic first filter : String} {payload : Bytes} {limits : Limits}

/-! ## Writes to a namespace -/

/-- Related stores look the same to the checks of a write to the namespace, and stay related if
both change in the same way there. -/
structure KeptIn (ns : String) (R : Store → Store → Prop) : Prop where
  limits {s u : Store} : R s u → s.limits = u.limits
  trie {s u : Store} : R s u → s.trie ns = u.trie ns
  openNamespace {s u : Store} : R s u → R (s.openNamespace ns) (u.openNamespace ns)
  file {s u : Store} (topic : String) (payload : Bytes) :
    R s u → R (s.file ns topic payload) (u.file ns topic payload)
  discard {s u : Store} (topic : String) : R s u → R (s.discard ns topic) (u.discard ns topic)

namespace KeptIn

variable {R : Store → Store → Prop} {r : WriteRequest}

theorem put (k : KeptIn (Topic.namespaceOf first) R) (h : R s u) (topic : String) (payload : Bytes) :
    (s.put first topic payload).1 = (u.put first topic payload).1 ∧
      R (s.put first topic payload).2 (u.put first topic payload).2 := by
  unfold Store.put
  cases resolved : resolve first topic with
  | error e => exact ⟨rfl, h⟩
  | ok p =>
    obtain ⟨ns, m⟩ := p
    obtain ⟨rfl, -, -⟩ := resolve_ok resolved
    have admits : s.admits (Topic.levels m).length = u.admits (Topic.levels m).length := by
      rw [Store.admits, Store.admits, k.limits h]
    have room : s.hasRoom (Topic.namespaceOf first) m = u.hasRoom (Topic.namespaceOf first) m := by
      rw [hasRoom, hasRoom, k.limits h, k.trie h]
    dsimp only
    rw [admits, room, k.limits h]
    split
    · split
      · exact ⟨rfl, k.file m payload h⟩
      · exact ⟨rfl, k.openNamespace h⟩
    · exact ⟨rfl, h⟩

theorem remove (k : KeptIn (Topic.namespaceOf first) R) (h : R s u) (topic : String) :
    (s.remove first topic).1 = (u.remove first topic).1 ∧
      R (s.remove first topic).2 (u.remove first topic).2 := by
  unfold Store.remove
  cases resolved : resolve first topic with
  | error e => exact ⟨rfl, h⟩
  | ok p =>
    obtain ⟨ns, m⟩ := p
    obtain ⟨rfl, -, -⟩ := resolve_ok resolved
    exact ⟨rfl, k.discard m h⟩

theorem apply
    (k : ∀ first, r.fields[firstTopicField]? = some first → KeptIn (Topic.namespaceOf first) R)
    (h : R s u) : (s.apply r).1 = (u.apply r).1 ∧ R (s.apply r).2 (u.apply r).2 := by
  unfold Store.apply Fields.required
  cases given : r.fields[firstTopicField]? with
  | none => exact ⟨rfl, h⟩
  | some first =>
    dsimp only
    cases r.fields[topicField]? with
    | none => exact ⟨rfl, h⟩
    | some topic =>
      dsimp only
      split
      · exact (k first given).remove h topic
      · exact (k first given).put h topic r.data

/-- A write is answered alike and leaves the stores related. -/
theorem write
    (k : ∀ first, r.fields[firstTopicField]? = some first → KeptIn (Topic.namespaceOf first) R)
    (h : R s u) : (s.write r).1 = (u.write r).1 ∧ R (s.write r).2 (u.write r).2 := by
  obtain ⟨same, after⟩ := apply k h
  unfold Store.write
  generalize s.apply r = p at same after
  generalize u.apply r = q at same after
  obtain ⟨a, s'⟩ := p
  obtain ⟨b, u'⟩ := q
  obtain rfl : a = b := same
  cases a with
  | ok topic => exact ⟨rfl, after⟩
  | error e => exact ⟨rfl, after⟩

end KeptIn

/-! ## Stores that differ in empty namespaces only -/

/-- Stores that differ at most in which empty namespaces they have an entry for. -/
structure Alike (s u : Store) : Prop where
  limits : s.limits = u.limits
  payloads : s.payloads = u.payloads
  trie : ∀ ns, s.trie ns = u.trie ns

namespace Alike

theorem refl (s : Store) : s.Alike s := ⟨rfl, rfl, fun _ => rfl⟩

theorem symm (h : s.Alike u) : u.Alike s :=
  ⟨h.limits.symm, h.payloads.symm, fun ns => (h.trie ns).symm⟩

theorem trans (h : s.Alike u) (h' : u.Alike v) : s.Alike v :=
  ⟨h.limits.trans h'.limits, h.payloads.trans h'.payloads, fun ns => (h.trie ns).trans (h'.trie ns)⟩

/-! ### Writes -/

theorem openNamespace (h : s.Alike u) : (s.openNamespace ns).Alike (u.openNamespace ns) :=
  ⟨h.limits, h.payloads, fun m => by rw [trie_openNamespace, trie_openNamespace, h.trie]⟩

theorem file (h : s.Alike u) : (s.file ns topic payload).Alike (u.file ns topic payload) := by
  refine ⟨h.limits, ?_, fun m => ?_⟩
  · rw [Store.file, Store.file, h.payloads]
  · rw [trie_file, trie_file, h.trie, h.trie]

theorem discard (h : s.Alike u) : (s.discard ns topic).Alike (u.discard ns topic) := by
  refine ⟨h.limits, ?_, fun m => ?_⟩
  · rw [Store.discard, Store.discard, h.payloads]
  · rw [trie_discard, trie_discard, h.trie, h.trie]

theorem keptIn (ns : String) : KeptIn ns Alike where
  limits h := h.limits
  trie h := h.trie ns
  openNamespace h := h.openNamespace
  file _ _ h := h.file
  discard _ h := h.discard

theorem write (h : s.Alike u) (r : WriteRequest) :
    (s.write r).1 = (u.write r).1 ∧ (s.write r).2.Alike (u.write r).2 :=
  KeptIn.write (fun _ _ => keptIn _) h

/-! ### Reads -/

theorem get?_eq (h : s.Alike u) (topic : String) : s.get? topic = u.get? topic := by
  rw [get?, get?, h.payloads]

theorem matching_eq (h : s.Alike u) (first filter : String) :
    (s.matching first filter).1 = (u.matching first filter).1 := by
  unfold Store.matching
  split
  · rfl
  · dsimp only
    rw [h.payloads, h.trie]

theorem read_eq (h : s.Alike u) (r : ReadRequest) : (s.read r).1 = (u.read r).1 := by
  unfold Store.read
  split
  · rfl
  split
  · rw [h.get?_eq]
  split
  · rfl
  exact congrArg Response.payloads (h.matching_eq _ _)

theorem namespaceSize_eq (h : s.Alike u) (first : String) :
    s.namespaceSize first = u.namespaceSize first := by
  rw [namespaceSize, namespaceSize, h.trie]

theorem size_eq (h : s.Alike u) : s.size = u.size := by
  rw [size, size, h.payloads]

end Alike

theorem alike_openNamespace : (s.openNamespace ns).Alike s :=
  ⟨rfl, rfl, fun _ => trie_openNamespace⟩

/-- A read leaves an entry for the namespace that it visits behind, and nothing else. -/
theorem read_leaves (r : ReadRequest) (s : Store) :
    (∀ ns, ¬ r.Visits ns) ∧ (s.read r).2 = s ∨
      ∃ ns, r.Visits ns ∧ (s.read r).2 = s.openNamespace ns := by
  unfold read ReadRequest.Visits Fields.required
  cases topic_given : r.fields[topicField]? with
  | none => simp
  | some filter =>
    dsimp only
    split
    · next point => simp [point]
    next wildcard =>
    cases first_given : r.fields[firstTopicField]? with
    | none => simp
    | some first =>
      dsimp only
      cases nonblank : Text.isAllBlank filter with
      | true => simp [matching_of_blank nonblank, nonblank]
      | false =>
        rw [matching_of_nonblank nonblank]
        exact .inr ⟨_, ⟨wildcard, first, filter, rfl, rfl, nonblank, rfl⟩, rfl⟩

theorem alike_read (r : ReadRequest) (s : Store) : (s.read r).2.Alike s := by
  rcases read_leaves r s with ⟨-, e⟩ | ⟨ns, -, e⟩ <;> rw [e]
  · exact .refl s
  · exact alike_openNamespace

/-! ## What requests keep -/

/-- A store in step that has these limits. -/
structure Sound (limits : Limits) (s : Store) : Prop where
  inStep : s.InStep
  limits_eq : s.limits = limits

namespace Sound

theorem empty (limits : Limits) : (empty limits).Sound limits := ⟨.empty limits, rfl⟩

theorem put (h : s.Sound limits) : (s.put first topic payload).2.Sound limits := by
  refine ⟨h.inStep.put, ?_⟩
  rcases put_cases first topic payload s with ⟨_, e⟩ | ⟨_, _, e⟩ | ⟨_, _, -, e⟩ <;> rw [e]
  · exact h.limits_eq
  · exact h.limits_eq
  · exact h.limits_eq

theorem remove (h : s.Sound limits) : (s.remove first topic).2.Sound limits := by
  refine ⟨h.inStep.remove, ?_⟩
  rcases remove_cases first topic s with ⟨_, e⟩ | ⟨_, _, -, e⟩ <;> rw [e]
  · exact h.limits_eq
  · exact h.limits_eq

theorem write (h : s.Sound limits) (r : WriteRequest) : (s.write r).2.Sound limits := by
  have applied : (s.apply r).2.Sound limits := by
    unfold apply
    split
    · exact h
    · exact h
    · split
      · exact h.remove
      · exact h.put
  unfold Store.write
  split
  · next e => rw [e] at applied; exact applied
  · next e => rw [e] at applied; exact applied

theorem read (h : s.Sound limits) (r : ReadRequest) : (s.read r).2.Sound limits := by
  rcases read_leaves r s with ⟨-, e⟩ | ⟨ns, -, e⟩ <;> rw [e]
  · exact h
  · exact ⟨h.inStep.openNamespace, h.limits_eq⟩

theorem matching (h : s.Sound limits) : (s.matching first filter).2.Sound limits := by
  refine ⟨h.inStep.matching, ?_⟩
  rcases matching_cases first filter s with e | ⟨ns, e⟩ <;> rw [e]
  · exact h.limits_eq
  · exact h.limits_eq

theorem restore (h : s.Sound limits) (d : Snapshot) : (s.restore d).Sound limits :=
  ⟨.restore, limits_restore.trans h.limits_eq⟩

theorem after (h : s.Sound limits) (c : Call) : (s.after c).Sound limits := by
  cases c with
  | put first topic payload => exact h.put
  | remove first topic => exact h.remove
  | get topic => exact h
  | matching first filter => exact h.matching
  | restore d => exact h.restore d

theorem run (h : s.Sound limits) (calls : List Call) : (calls.foldl Store.after s).Sound limits :=
  List.foldlRecOn calls _ h fun _ h c _ => h.after c

end Sound

end Store

end Retained
