import Retained.Proofs.Store.Alike
import Retained.Proofs.Topic.Normal

/-!
# Admission of writes

What a write needs is said without the order in which it is checked: `Store.Eligible` is all of it
but room, and `Store.Fits` is room. A write ends in one of four ways (`Store.Ending`,
`InStep.ending`), and what it answers (`InStep.verdict`) and leaves behind if it is refused
(`InStep.refused_cases`) is read off them. A refused write changes at most one thing: it makes an
entry for a namespace without one, in a store that takes no topics at all (`Store.Intrudes`).
-/

namespace Retained

open Std (ExtTreeMap)

/-- A write names one topic, and the namespace that this topic lies in. -/
structure Topic.Writable (first topic : String) : Prop where
  first_nonblank : Text.isAllBlank first = false
  topic_nonblank : Text.isAllBlank topic = false
  no_single : '+' ∉ topic.toList
  no_multi : '#' ∉ topic.toList
  same_namespace : namespaceOf first = namespaceOf topic

def Response.kind? : Response → Option String
  | .failure kind _ => some kind
  | _ => none

namespace Store

variable {s u : Store} {r : WriteRequest} {ns m first topic : String}

theorem hasWildcard_iff :
    Topic.hasWildcard topic = true ↔ '+' ∈ topic.toList ∨ '#' ∈ topic.toList := by
  unfold Topic.hasWildcard
  simp only [List.any_eq_true, Bool.or_eq_true, beq_iff_eq, and_or_left, exists_or, exists_eq_right]

theorem resolve_cases (first topic : String) :
    (Topic.Writable first topic ∧
        resolve first topic = .ok (Topic.namespaceOf topic, Topic.normalize topic)) ∨
      ¬ Topic.Writable first topic ∧ ∃ fault, resolve first topic = .error (.malformed fault) := by
  unfold resolve
  split
  · next blank => exact .inr ⟨fun w => by simp [w.topic_nonblank] at blank, _, rfl⟩
  next topic_nonblank =>
  split
  · next blank => exact .inr ⟨fun w => by simp [w.first_nonblank] at blank, _, rfl⟩
  next first_nonblank =>
  split
  · next wild =>
    rcases hasWildcard_iff.1 wild with wild | wild
    · exact .inr ⟨fun w => w.no_single wild, _, rfl⟩
    · exact .inr ⟨fun w => w.no_multi wild, _, rfl⟩
  next tame =>
  rw [hasWildcard_iff, not_or] at tame
  dsimp only
  rw [Topic.namespaceOf_normalize]
  split
  · next same =>
    refine .inl ⟨⟨?_, ?_, tame.1, tame.2, same.symm⟩, by rw [same]⟩
    · simpa using first_nonblank
    · simpa using topic_nonblank
  · next foreign => exact .inr ⟨fun w => foreign w.same_namespace.symm, _, rfl⟩

theorem resolve_of_writable (h : Topic.Writable first topic) :
    resolve first topic = .ok (Topic.namespaceOf topic, Topic.normalize topic) := by
  rcases resolve_cases first topic with ⟨-, resolved⟩ | ⟨unwritable, -⟩
  · exact resolved
  · exact absurd h unwritable

/-! ## What a write needs -/

def topicsIn (ns : String) (s : Store) : List String :=
  s.payloads.keys.filter (Topic.namespaceOf · = ns)

/-- All that a write needs but room: a removal has no limit on levels. -/
structure Eligible (s : Store) (r : WriteRequest) (first topic : String) : Prop where
  first_given : r.fields[firstTopicField]? = some first
  topic_given : r.fields[topicField]? = some topic
  writable : Topic.Writable first topic
  levels : r.isEmpty = false →
    s.limits.levels = 0 ∨ (Topic.levels (Topic.normalize topic)).length ≤ s.limits.levels

def Fits (s : Store) (topic : String) : Prop :=
  Topic.normalize topic ∈ s.payloads ∨
    (s.topicsIn (Topic.namespaceOf topic)).length < s.limits.topics

/-- The store does what the write asks for. -/
def Accepts (s : Store) (r : WriteRequest) : Prop :=
  ∃ first topic, s.Eligible r first topic ∧ (r.isEmpty = true ∨ s.Fits topic)

/-- The write lacks room and nothing else. -/
def Overflows (s : Store) (r : WriteRequest) : Prop :=
  ∃ first topic, s.Eligible r first topic ∧ r.isEmpty = false ∧ ¬ s.Fits topic

theorem Eligible.unique {first' topic' : String} (h : s.Eligible r first topic)
    (h' : s.Eligible r first' topic') : first = first' ∧ topic = topic' :=
  ⟨Option.some.inj (h.first_given.symm.trans h'.first_given),
    Option.some.inj (h.topic_given.symm.trans h'.topic_given)⟩

theorem Accepts.not_overflows (h : s.Accepts r) : ¬ s.Overflows r := by
  rintro ⟨_, _, eligible, store, full⟩
  obtain ⟨_, _, eligible', room⟩ := h
  obtain ⟨rfl, rfl⟩ := eligible.unique eligible'
  rcases room with drop | fits
  · rw [drop] at store
    cases store
  · exact full fits

/-! ## How a write ends -/

inductive Ending (s : Store) (r : WriteRequest) : Except Rejection String × Store → Prop where
  | dropped {first topic : String} (eligible : s.Eligible r first topic) (drop : r.isEmpty = true) :
    Ending s r (.ok (Topic.normalize topic),
      s.discard (Topic.namespaceOf topic) (Topic.normalize topic))
  | stored {first topic : String} (eligible : s.Eligible r first topic) (store : r.isEmpty = false)
      (fits : s.Fits topic) :
    Ending s r (.ok (Topic.normalize topic),
      s.file (Topic.namespaceOf topic) (Topic.normalize topic) r.data)
  | full {first topic : String} (eligible : s.Eligible r first topic) (store : r.isEmpty = false)
      (full : ¬ s.Fits topic) :
    Ending s r (.error (.capacityExceeded (Topic.namespaceOf topic) s.limits.topics),
      s.openNamespace (Topic.namespaceOf topic))
  | malformed {fault : Fault} (ineligible : ∀ first topic, ¬ s.Eligible r first topic) :
    Ending s r (.error (.malformed fault), s)

theorem admits_iff {levels : Nat} :
    s.admits levels = true ↔ s.limits.levels = 0 ∨ levels ≤ s.limits.levels := by
  simp [admits]

/-- The counter that the check for room reads is the number of stored topics. -/
theorem InStep.hasRoom_iff (h : s.InStep) :
    s.hasRoom (Topic.namespaceOf topic) (Topic.normalize topic) = true ↔ s.Fits topic := by
  unfold hasRoom Fits topicsIn
  rw [Bool.or_eq_true, h.contains_iff, decide_eq_true_eq, h.size_trie, Topic.namespaceOf_normalize,
    and_iff_right rfl]

theorem InStep.ending (h : s.InStep) (r : WriteRequest) : s.Ending r (s.apply r) := by
  unfold apply Fields.required
  cases first_given : r.fields[firstTopicField]? with
  | none => exact .malformed fun _ _ e => by cases first_given.symm.trans e.first_given
  | some first =>
  cases topic_given : r.fields[topicField]? with
  | none => exact .malformed fun _ _ e => by cases topic_given.symm.trans e.topic_given
  | some topic =>
  have only : ∀ {first' topic'}, s.Eligible r first' topic' → s.Eligible r first topic :=
    fun e => by
      obtain rfl := Option.some.inj (first_given.symm.trans e.first_given)
      obtain rfl := Option.some.inj (topic_given.symm.trans e.topic_given)
      exact e
  unfold Store.remove Store.put
  rcases resolve_cases first topic with ⟨writable, resolved⟩ | ⟨unwritable, fault, resolved⟩
  · simp only [resolved]
    split
    · next drop => exact .dropped ⟨first_given, topic_given, writable, by simp [drop]⟩ drop
    next store =>
    rw [Bool.not_eq_true] at store
    split
    · next levels =>
      have eligible : s.Eligible r first topic :=
        ⟨first_given, topic_given, writable, fun _ => admits_iff.1 levels⟩
      split
      · next room => exact .stored eligible store (h.hasRoom_iff.1 room)
      · next full => exact .full eligible store (full ∘ h.hasRoom_iff.2)
    · next deep => exact .malformed fun _ _ e => deep (admits_iff.2 ((only e).levels store))
  · simp only [resolved, ite_self]
    exact .malformed fun _ _ e => unwritable (only e).writable

/-! ## What a write answers -/

theorem write_of_ok (h : s.apply r = (.ok m, u)) : s.write r = (.data (acknowledgement m), u) := by
  unfold write
  rw [h]

theorem write_of_error {e : Rejection} (h : s.apply r = (.error e, u)) :
    s.write r = (.ofRejection e, u) := by
  unfold write
  rw [h]

/-- A write is acknowledged if it is accepted, overflows if it lacks room alone, and else is
malformed. -/
theorem InStep.verdict (h : s.InStep) (r : WriteRequest) :
    (s.Accepts r ∧ ∃ bytes, (s.write r).1 = .data bytes) ∨
      (s.Overflows r ∧ ∃ ns limit, (s.write r).1 = .ofRejection (.capacityExceeded ns limit)) ∨
      (¬ s.Accepts r ∧ ¬ s.Overflows r) ∧
        ∃ fault, (s.write r).1 = .ofRejection (.malformed fault) := by
  have ending := h.ending r
  generalize applied : s.apply r = p at ending
  cases ending with
  | dropped eligible drop =>
    exact .inl ⟨⟨_, _, eligible, .inl drop⟩, _, by rw [write_of_ok applied]⟩
  | stored eligible _ fits =>
    exact .inl ⟨⟨_, _, eligible, .inr fits⟩, _, by rw [write_of_ok applied]⟩
  | full eligible store full =>
    exact .inr (.inl ⟨⟨_, _, eligible, store, full⟩, _, _, by rw [write_of_error applied]⟩)
  | malformed ineligible =>
    refine .inr (.inr ⟨⟨?_, ?_⟩, _, by rw [write_of_error applied]⟩)
    · exact fun ⟨_, _, eligible, _⟩ => ineligible _ _ eligible
    · exact fun ⟨_, _, eligible, _⟩ => ineligible _ _ eligible

theorem InStep.codes (h : s.InStep) (r : WriteRequest) :
    ((s.write r).1.isSuccess = true ↔ s.Accepts r) ∧
      ((s.write r).1.kind? = some "CAPACITY_EXCEEDED" ↔ s.Overflows r) ∧
      ((s.write r).1.kind? = some "MALFORMED_REQUEST" ↔ ¬ s.Accepts r ∧ ¬ s.Overflows r) ∧
      (s.write r).1.kind? ≠ some "INTERNAL" := by
  rcases h.verdict r with
    ⟨accepted, bytes, e⟩ | ⟨overflow, ns, limit, e⟩ | ⟨neither, fault, e⟩ <;> rw [e]
  · simp [accepted, accepted.not_overflows, Response.isSuccess, Response.kind?]
  · have refused : ¬ s.Accepts r := fun h => h.not_overflows overflow
    simp [overflow, refused, Response.ofRejection, Response.isSuccess, Response.kind?,
      Rejection.kind]
  · simp [neither, Response.ofRejection, Response.isSuccess, Response.kind?, Rejection.kind]

/-! ## What a refused write leaves behind -/

theorem openNamespace_of_mem (h : ns ∈ s.tries) : s.openNamespace ns = s := by
  have same : s.tries.insertIfNew ns ∅ = s.tries := by
    refine ExtTreeMap.ext_getElem? fun k => ?_
    rw [ExtTreeMap.getElem?_insertIfNew]
    split
    · next e =>
      obtain ⟨e, new⟩ := e
      exact absurd h new
    · rfl
  unfold openNamespace
  rw [same]

/-- A store without room for a topic in a namespace that it has no entry for has no room at
all. -/
theorem InStep.limit_eq_zero (h : s.InStep) (new : Topic.namespaceOf topic ∉ s.tries)
    (full : ¬ s.Fits topic) : s.limits.topics = 0 := by
  have none_stored : s.topicsIn (Topic.namespaceOf topic) = [] := by
    rw [← List.length_eq_zero_iff, topicsIn, ← h.size_trie, trie_eq_empty new]
    rfl
  have := not_or.1 full
  rw [none_stored, List.length_nil, Nat.not_lt] at this
  exact Nat.le_zero.1 this.2

theorem mem_tries_openNamespace : m ∈ (s.openNamespace ns).tries ↔ m = ns ∨ m ∈ s.tries := by
  unfold openNamespace
  rw [ExtTreeMap.mem_insertIfNew, Std.LawfulEqOrd.compare_eq_iff_eq, eq_comm]

theorem toSnapshot_openNamespace_ne (new : ns ∉ s.tries) :
    (s.openNamespace ns).toSnapshot ≠ s.toSnapshot := by
  intro e
  have there : ns ∈ (s.openNamespace ns).toSnapshot.namespaces := by
    unfold toSnapshot
    rw [ExtTreeMap.mem_map]
    exact mem_tries_openNamespace.2 (.inl rfl)
  rw [e, toSnapshot, ExtTreeMap.mem_map] at there
  exact new there

theorem map_name_summary (s : Store) : s.summary.namespaces.map (·.name) = s.tries.keys := by
  unfold summary
  rw [List.map_map, ← ExtTreeMap.map_fst_toList_eq_keys]
  rfl

theorem summary_openNamespace_ne (new : ns ∉ s.tries) :
    (s.openNamespace ns).summary ≠ s.summary := by
  intro e
  have there : ns ∈ (s.openNamespace ns).tries.keys :=
    ExtTreeMap.mem_keys.2 (mem_tries_openNamespace.2 (.inl rfl))
  rw [← map_name_summary, e, map_name_summary, ExtTreeMap.mem_keys] at there
  exact new there

/-- The write would store a topic in a namespace without an entry, where none may be stored. -/
def Intrudes (s : Store) (r : WriteRequest) (first : String) : Prop :=
  s.limits.topics = 0 ∧ s.hasNamespace first = false ∧ r.isEmpty = false ∧
    ∃ topic, s.Eligible r first topic

theorem hasNamespace_eq_false : s.hasNamespace first = false ↔ Topic.namespaceOf first ∉ s.tries := by
  unfold hasNamespace
  rw [← Bool.not_eq_true, ExtTreeMap.contains_iff_mem]

/-- A refused write leaves the store alone, unless it intrudes into a namespace. -/
theorem InStep.refused_cases (h : s.InStep) (refused : (s.write r).1.isSuccess = false) :
    ((∀ first, ¬ s.Intrudes r first) ∧ (s.write r).2 = s) ∨
      ∃ first, s.Intrudes r first ∧ (s.write r).2 = s.openNamespace (Topic.namespaceOf first) := by
  have ending := h.ending r
  generalize applied : s.apply r = p at ending
  cases ending with
  | dropped eligible drop => rw [write_of_ok applied] at refused; cases refused
  | stored eligible _ fits => rw [write_of_ok applied] at refused; cases refused
  | malformed ineligible =>
    refine .inl ⟨?_, by rw [write_of_error applied]⟩
    rintro first ⟨-, -, -, topic, eligible⟩
    exact ineligible first topic eligible
  | @full first topic eligible store full =>
    rw [write_of_error applied, ← eligible.writable.same_namespace]
    by_cases known : Topic.namespaceOf first ∈ s.tries
    · refine .inl ⟨?_, openNamespace_of_mem known⟩
      rintro first' ⟨-, new, -, topic', eligible'⟩
      obtain ⟨rfl, rfl⟩ := eligible.unique eligible'
      exact hasNamespace_eq_false.1 new known
    · have new : Topic.namespaceOf topic ∉ s.tries := eligible.writable.same_namespace ▸ known
      exact .inr ⟨first, ⟨h.limit_eq_zero new full, hasNamespace_eq_false.2 known, store, topic,
        eligible⟩, rfl⟩

end Store

end Retained
