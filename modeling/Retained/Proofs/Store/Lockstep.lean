import Mathlib.Algebra.Ring.Nat
import Retained.Proofs.Topic.Trie
import Retained.Store.Summary

/-!
# Payloads and tries in lockstep

`Store.InStep`: a topic has a payload exactly if the trie of its own namespace holds it, and no
other trie does. The two ways in which a store ever changes, `file` and `discard`, keep it so for
a topic of the given namespace, and every call comes down to them. What a trie counts are then the
topics of its namespace, and all counts together the payloads (`size_eq_sum`).
-/

namespace Retained

open Std (ExtTreeMap)

namespace Store

variable {s : Store} {ns m topic : String} {payload : Bytes} {limits : Limits}

/-! ## What the changes do to the tries and the payloads -/

@[simp]
theorem trie_openNamespace : (s.openNamespace ns).trie m = s.trie m := by
  unfold trie openNamespace
  rw [ExtTreeMap.getD_insertIfNew]
  split
  · next h =>
    obtain ⟨h, hm⟩ := h
    obtain rfl : ns = m := Std.LawfulEqOrd.eq_of_compare h
    exact (ExtTreeMap.getD_eq_fallback hm).symm
  · rfl

theorem trie_file :
    (s.file ns topic payload).trie m = if m = ns then ((s.trie ns).insert topic).2 else s.trie m := by
  unfold trie file
  rw [ExtTreeMap.getD_insert]
  simp only [Std.LawfulEqOrd.compare_eq_iff_eq, @eq_comm _ ns m]
  rfl

theorem trie_discard :
    (s.discard ns topic).trie m = if m = ns then ((s.trie ns).erase topic).2 else s.trie m := by
  unfold trie discard
  rw [ExtTreeMap.getD_insert]
  simp only [Std.LawfulEqOrd.compare_eq_iff_eq, @eq_comm _ ns m]
  rfl

theorem getElem?_payloads_file :
    (s.file ns topic payload).payloads[m]? = if topic = m then some payload else s.payloads[m]? := by
  unfold file
  rw [ExtTreeMap.getElem?_insert]
  simp only [Std.LawfulEqOrd.compare_eq_iff_eq]

theorem getElem?_payloads_discard :
    (s.discard ns topic).payloads[m]? = if topic = m then none else s.payloads[m]? := by
  unfold discard
  rw [ExtTreeMap.getElem?_erase]
  simp only [Std.LawfulEqOrd.compare_eq_iff_eq]

/-! ## The invariant -/

/-- The payloads and the tries hold the same topics, each in its own namespace. -/
structure InStep (s : Store) : Prop where
  valid : ∀ ns, (s.trie ns).Valid
  contains_iff : ∀ ns topic, (s.trie ns).contains topic = true ↔
    ns = Topic.namespaceOf topic ∧ topic ∈ s.payloads

namespace InStep

theorem empty (limits : Limits) : (empty limits).InStep where
  valid _ := Trie.Valid.empty
  contains_iff ns topic := by simp [Store.empty, trie]

theorem openNamespace (h : s.InStep) : (s.openNamespace ns).InStep where
  valid m := by rw [trie_openNamespace]; exact h.valid m
  contains_iff m topic := by rw [trie_openNamespace]; exact h.contains_iff m topic

theorem file (h : s.InStep) (hns : Topic.namespaceOf topic = ns) :
    (s.file ns topic payload).InStep where
  valid m := by
    rw [trie_file]
    split
    · exact (h.valid ns).insert
    · exact h.valid m
  contains_iff m other := by
    have hp : other ∈ (s.file ns topic payload).payloads ↔ other = topic ∨ other ∈ s.payloads := by
      rw [Store.file, ExtTreeMap.mem_insert, Std.LawfulEqOrd.compare_eq_iff_eq, eq_comm]
    rw [trie_file, hp]
    by_cases e : m = ns
    · subst e
      rw [if_pos rfl, Trie.contains_insert, h.contains_iff]
      constructor
      · rintro (rfl | ⟨e, h⟩)
        · exact ⟨hns.symm, .inl rfl⟩
        · exact ⟨e, .inr h⟩
      · rintro ⟨e, rfl | h⟩
        · exact .inl rfl
        · exact .inr ⟨e, h⟩
    · rw [if_neg e, h.contains_iff]
      refine and_congr_right fun e' => (or_iff_right ?_).symm
      rintro rfl
      exact e (e'.trans hns)

theorem discard (h : s.InStep) (hns : Topic.namespaceOf topic = ns) :
    (s.discard ns topic).InStep where
  valid m := by
    rw [trie_discard]
    split
    · exact (h.valid ns).erase
    · exact h.valid m
  contains_iff m other := by
    have hp : other ∈ (s.discard ns topic).payloads ↔ other ≠ topic ∧ other ∈ s.payloads := by
      rw [Store.discard, ExtTreeMap.mem_erase, ne_eq, Std.LawfulEqOrd.compare_eq_iff_eq, eq_comm]
    rw [trie_discard, hp]
    by_cases e : m = ns
    · subst e
      rw [if_pos rfl, (h.valid m).contains_erase, h.contains_iff]
      exact and_left_comm
    · rw [if_neg e, h.contains_iff]
      refine and_congr_right fun e' => (and_iff_right ?_).symm
      rintro rfl
      exact e (e'.trans hns)

end InStep

/-! ## Calls -/

theorem resolve_ok {first : String} (h : resolve first topic = .ok (ns, m)) :
    ns = Topic.namespaceOf first ∧ m = Topic.normalize topic ∧ Topic.namespaceOf m = ns := by
  unfold resolve at h
  split at h
  · simp at h
  split at h
  · simp at h
  split at h
  · simp at h
  dsimp only at h
  split at h
  · next e =>
    obtain ⟨rfl, rfl⟩ := Prod.mk.inj (Except.ok.inj h)
    exact ⟨rfl, rfl, e⟩
  · simp at h

/-- A put fails and adds no topic, or files a topic of the namespace. -/
theorem put_cases (first topic : String) (payload : Bytes) (s : Store) :
    (∃ e, s.put first topic payload = (.error e, s)) ∨
      (∃ e ns, s.put first topic payload = (.error e, s.openNamespace ns)) ∨
        ∃ ns m, resolve first topic = .ok (ns, m) ∧
          s.put first topic payload = (.ok m, s.file ns m payload) := by
  unfold put
  cases h : resolve first topic with
  | error e => exact .inl ⟨e, rfl⟩
  | ok p =>
    obtain ⟨ns, m⟩ := p
    dsimp only
    split
    · split
      · exact .inr (.inr ⟨ns, m, rfl, rfl⟩)
      · exact .inr (.inl ⟨_, ns, rfl⟩)
    · exact .inl ⟨_, rfl⟩

/-- A removal fails and changes nothing, or takes a topic out of its namespace. -/
theorem remove_cases (first topic : String) (s : Store) :
    (∃ e, s.remove first topic = (.error e, s)) ∨
      ∃ ns m, resolve first topic = .ok (ns, m) ∧ s.remove first topic = (.ok m, s.discard ns m) := by
  unfold remove
  cases h : resolve first topic with
  | error e => exact .inl ⟨e, rfl⟩
  | ok p => exact .inr ⟨p.1, p.2, rfl, rfl⟩

section

variable {filter : String}

theorem matching_of_blank (blank : Text.isAllBlank filter = true) (first : String) (s : Store) :
    s.matching first filter = ([], s) := by
  unfold matching
  rw [if_pos blank]

theorem matching_of_nonblank (nonblank : Text.isAllBlank filter = false) (first : String)
    (s : Store) :
    s.matching first filter =
      (((s.trie (Topic.namespaceOf first)).matching (Topic.normalize filter)).filterMap
        (s.payloads[·]?), s.openNamespace (Topic.namespaceOf first)) := by
  unfold matching
  rw [nonblank]
  rfl

theorem matching_cases (first filter : String) (s : Store) :
    s.matching first filter = ([], s) ∨ ∃ ns, (s.matching first filter).2 = s.openNamespace ns := by
  cases blank : Text.isAllBlank filter with
  | true => exact .inl (matching_of_blank blank first s)
  | false =>
    rw [matching_of_nonblank blank]
    exact .inr ⟨_, rfl⟩

end

namespace InStep

variable {first : String}

theorem put (h : s.InStep) : (s.put first topic payload).2.InStep := by
  rcases put_cases first topic payload s with ⟨_, e⟩ | ⟨_, _, e⟩ | ⟨_, _, hr, e⟩ <;> rw [e]
  · exact h
  · exact h.openNamespace
  · exact h.file (resolve_ok hr).2.2

theorem remove (h : s.InStep) : (s.remove first topic).2.InStep := by
  rcases remove_cases first topic s with ⟨_, e⟩ | ⟨_, _, hr, e⟩ <;> rw [e]
  · exact h
  · exact h.discard (resolve_ok hr).2.2

theorem matching {filter : String} (h : s.InStep) : (s.matching first filter).2.InStep := by
  rcases matching_cases first filter s with e | ⟨_, e⟩ <;> rw [e]
  · exact h
  · exact h.openNamespace

theorem adopt {r : Recovery} (h : r.store.InStep) : (r.adopt ns topic).store.InStep := by
  unfold Recovery.adopt
  split
  · next hns =>
    split
    · exact h.file hns
    · exact h
  · exact h

theorem adoptAll {r : Recovery} {topics : List String} (h : r.store.InStep) :
    (r.adoptAll ns topics).store.InStep := by
  unfold Recovery.adoptAll
  exact List.foldlRecOn (motive := fun r : Recovery => r.store.InStep) topics _ h.openNamespace
    fun _ h _ _ => h.adopt

/-- Whatever a snapshot says, the store that it gives is in step. -/
theorem restore {d : Snapshot} : (s.restore d).InStep := by
  unfold Store.restore
  rw [ExtTreeMap.foldl_eq_foldl_toList]
  exact List.foldlRecOn (motive := fun r : Recovery => r.store.InStep) _ _ (InStep.empty s.limits)
    fun _ h _ _ => h.adoptAll

end InStep

inductive Call where
  | put (first topic : String) (payload : Bytes)
  | remove (first topic : String)
  | get (topic : String)
  | matching (first filter : String)
  | restore (d : Snapshot)

def after (s : Store) : Call → Store
  | .put first topic payload => (s.put first topic payload).2
  | .remove first topic => (s.remove first topic).2
  | .get _ => s
  | .matching first filter => (s.matching first filter).2
  | .restore d => s.restore d

theorem InStep.after (h : s.InStep) (c : Call) : (s.after c).InStep := by
  cases c with
  | put first topic payload => exact h.put
  | remove first topic => exact h.remove
  | get topic => exact h
  | matching first filter => exact h.matching
  | restore d => exact InStep.restore

theorem InStep.run (h : s.InStep) (calls : List Call) : (calls.foldl Store.after s).InStep :=
  List.foldlRecOn calls _ h fun _ h c _ => h.after c

/-! ## Counting -/

/-- The trie of a namespace lists the topics of the namespace that have a payload. -/
theorem InStep.toList_perm (h : s.InStep) (ns : String) :
    (s.trie ns).toList.Perm (s.payloads.keys.filter (Topic.namespaceOf · = ns)) := by
  refine (List.perm_ext_iff_of_nodup (h.valid ns).nodup_toList
    (ExtTreeMap.nodup_keys.filter _)).2 fun topic => ?_
  rw [(h.valid ns).mem_toList, h.contains_iff, List.mem_filter, ExtTreeMap.mem_keys,
    decide_eq_true_eq, and_comm, eq_comm]

theorem InStep.size_trie (h : s.InStep) (ns : String) :
    (s.trie ns).size = (s.payloads.keys.filter (Topic.namespaceOf · = ns)).length := by
  rw [← (h.valid ns).length_toList, (h.toList_perm ns).length_eq]

theorem trie_of_mem_toList {p : String × Trie} (h : p ∈ s.tries.toList) : s.trie p.1 = p.2 := by
  unfold trie
  rw [ExtTreeMap.getD_eq_getD_getElem?, ExtTreeMap.mem_toList_iff_getElem?_eq_some.1 h]; rfl

/-- Every payload is counted by one trie, and every count is of payloads. -/
theorem InStep.size_eq_sum (h : s.InStep) :
    s.size = (s.summary.namespaces.map (·.topics)).sum := by
  have valid : ∀ p ∈ s.tries.toList, p.2.Valid := fun p hp => by
    rw [← trie_of_mem_toList hp]; exact h.valid p.1
  have mem : ∀ p ∈ s.tries.toList, ∀ topic, topic ∈ p.2.toList ↔
      p.1 = Topic.namespaceOf topic ∧ topic ∈ s.payloads := fun p hp topic => by
    rw [(valid p hp).mem_toList, ← trie_of_mem_toList hp, h.contains_iff]
  have nodup : (s.tries.toList.flatMap fun p => p.2.toList).Nodup := by
    refine List.nodup_flatMap.2 ⟨fun p hp => (valid p hp).nodup_toList, ?_⟩
    refine ExtTreeMap.distinct_keys_toList.imp_of_mem fun {p q} hp hq hne topic htp htq => ?_
    refine hne (Std.LawfulEqOrd.compare_eq_iff_eq.2 ?_)
    rw [((mem p hp topic).1 htp).1, ((mem q hq topic).1 htq).1]
  have hperm : s.payloads.keys.Perm (s.tries.toList.flatMap fun p => p.2.toList) := by
    refine (List.perm_ext_iff_of_nodup ExtTreeMap.nodup_keys nodup).2 fun topic => ?_
    rw [ExtTreeMap.mem_keys, List.mem_flatMap]
    constructor
    · intro ht
      obtain ⟨ns, hns⟩ : ∃ ns, ns = Topic.namespaceOf topic := ⟨_, rfl⟩
      have hc := (h.contains_iff ns topic).2 ⟨hns, ht⟩
      cases hn : s.tries[ns]? with
      | none =>
        rw [trie, ExtTreeMap.getD_eq_getD_getElem?, hn] at hc
        rw [Option.getD_none, Trie.contains_empty] at hc
        cases hc
      | some t =>
        have hp := ExtTreeMap.mem_toList_iff_getElem?_eq_some.2 hn
        exact ⟨(ns, t), hp, (mem _ hp topic).2 ⟨hns, ht⟩⟩
    · rintro ⟨p, hp, ht⟩
      exact ((mem p hp topic).1 ht).2
  have counts : s.summary.namespaces.map (·.topics) =
      s.tries.toList.map fun p => p.2.toList.length := by
    unfold summary
    rw [List.map_map]
    exact List.map_congr_left fun p hp => ((valid p hp).length_toList).symm
  rw [Store.size, ← ExtTreeMap.length_keys, hperm.length_eq, List.length_flatMap, counts]

/-- After any calls, the trie of a namespace holds exactly the topics of this namespace that have
a payload and counts them, and the counts of the summary add up to the number of payloads. -/
theorem lockstep (limits : Limits) (calls : List Call) :
    let s := calls.foldl Store.after (empty limits)
    (∀ ns topic, (s.trie ns).contains topic = true ↔
      ns = Topic.namespaceOf topic ∧ topic ∈ s.payloads) ∧
    (∀ ns, (s.trie ns).size = (s.payloads.keys.filter (Topic.namespaceOf · = ns)).length) ∧
    s.size = (s.summary.namespaces.map (·.topics)).sum := by
  have h : (calls.foldl Store.after (empty limits)).InStep := (InStep.empty limits).run calls
  exact ⟨h.contains_iff, h.size_trie, h.size_eq_sum⟩

end Store

end Retained
