import Retained.Proofs.Replica.CatchUp
import Retained.Proofs.Store.Admission
import Retained.Proofs.Store.Capacity

/-!
# Writes to a replica

What a replica in any state does with a write: exactly which writes it accepts, and with which
code it refuses the others (`write_admission`), and what a refused write leaves behind
(`refused_write`). Both hold of every replica that commands and reads can bring about, whatever
snapshots it was told to load.
-/

namespace Retained

namespace Replica

variable {limits : Limits} {a : Replica} {r : WriteRequest}

/-! ## Admission -/

theorem Reached.length_topicsIn_le (reached : Reached limits a) (r : WriteRequest) (ns : String) :
    ((a.machine.write r).2.topicsIn ns).length ≤
      max (a.machine.topicsIn ns).length limits.topics := by
  have before := reached.sound
  have after := before.write r
  unfold Store.topicsIn
  rw [← before.inStep.size_trie, ← after.inStep.size_trie, Store.snd_write, ← before.limits_eq]
  exact Store.size_apply_le ..

theorem length_topicsIn_le {limit : Nat} {s : Store} (closed : Store.Closed limit s) (ns : String) :
    (s.topicsIn ns).length ≤ limit := by
  have within := closed.within
  unfold Store.topicsIn
  rw [← within.inStep.size_trie]
  exact within.size_le ns

/--
A replica under these limits accepts the writes that name one topic and its namespace and, unless
they drop the topic, find few enough levels and room. It answers that the capacity is exceeded if
room alone is missing and that the request is malformed if more is, and never blames itself. No
write takes a namespace above the limit, and no run does in which stores take over one another's
data only.
-/
theorem write_admission (reached : Reached limits a) (r : WriteRequest) :
    a.machine.limits = limits ∧
      ((a.machine.write r).1.isSuccess = true ↔ a.machine.Accepts r) ∧
      ((a.machine.write r).1.kind? = some "CAPACITY_EXCEEDED" ↔ a.machine.Overflows r) ∧
      ((a.machine.write r).1.kind? = some "MALFORMED_REQUEST" ↔
        ¬ a.machine.Accepts r ∧ ¬ a.machine.Overflows r) ∧
      (a.machine.write r).1.kind? ≠ some "INTERNAL" ∧
      (∀ ns, ((a.machine.write r).2.topicsIn ns).length ≤
        max (a.machine.topicsIn ns).length limits.topics) ∧
      ∀ s, Store.Closed limits.topics s → ∀ ns, (s.topicsIn ns).length ≤ limits.topics := by
  obtain ⟨accepted, full, malformed, internal⟩ := reached.sound.inStep.codes r
  exact ⟨reached.sound.limits_eq, accepted, full, malformed, internal,
    reached.length_topicsIn_le r, fun _ closed => length_topicsIn_le closed⟩

/-- A second topic overflows a namespace that may hold one. -/
theorem write_admission_second :
    let a := ((empty { topics := 1 }).handle (.write (.ofTopic "a" "a/x" false [118])) {}).2.1
    a.machine.Overflows (.ofTopic "a" "a/y" false [119]) := by
  intro a
  have reached : Reached { topics := 1 } a := .handle _ _ .empty
  obtain ⟨-, -, overflows, -⟩ := write_admission reached (.ofTopic "a" "a/y" false [119])
  exact overflows.1 (by decide +kernel)

/-! ## Refusal -/

/--
After a refused write every read is answered as before, and the store is the same unless the write
intrudes into a namespace: it would be the first of a namespace without an entry, under a limit of
no topics at all. Such a write leaves an empty entry for the namespace behind, which the data, the
summary and the question for the namespace show.
-/
theorem refused_write (reached : Reached limits a)
    (refused : (a.machine.write r).1.isSuccess = false) :
    let s := a.machine
    let s' := (s.write r).2
    ((∀ q, (s'.read q).1 = (s.read q).1) ∧ (∀ topic, s'.get? topic = s.get? topic) ∧
        ∀ first filter, (s'.matching first filter).1 = (s.matching first filter).1) ∧
      ((∀ first, ¬ s.Intrudes r first) → s' = s) ∧
      ∀ first, s.Intrudes r first →
        s' = s.openNamespace (Topic.namespaceOf first) ∧ s.hasNamespace first = false ∧
          s'.hasNamespace first = true ∧ s'.toSnapshot ≠ s.toSnapshot ∧ s'.summary ≠ s.summary := by
  intro s s'
  have cases : ((∀ first, ¬ s.Intrudes r first) ∧ s' = s) ∨
      ∃ first, s.Intrudes r first ∧ s' = s.openNamespace (Topic.namespaceOf first) :=
    reached.sound.inStep.refused_cases refused
  have alike : s'.Alike s := by
    rcases cases with ⟨-, e⟩ | ⟨first, -, e⟩ <;> rw [e]
    · exact .refl s
    · exact Store.alike_openNamespace
  refine ⟨⟨alike.read_eq, alike.get?_eq, alike.matching_eq⟩, fun none => ?_, fun first intrudes => ?_⟩
  · rcases cases with ⟨-, e⟩ | ⟨first, intrudes, -⟩
    · exact e
    · exact absurd intrudes (none first)
  · rcases cases with ⟨none, -⟩ | ⟨first', intrudes', e⟩
    · exact absurd intrudes (none first)
    obtain ⟨-, -, -, _, eligible'⟩ := intrudes'
    obtain ⟨-, new, -, _, eligible⟩ := intrudes
    obtain ⟨rfl, -⟩ := eligible.unique eligible'
    have absent := Store.hasNamespace_eq_false.1 new
    refine ⟨e, new, ?_, ?_, ?_⟩ <;> rw [e]
    · exact Std.ExtTreeMap.contains_iff_mem.2 (Store.mem_tries_openNamespace.2 (.inl rfl))
    · exact Store.toSnapshot_openNamespace_ne absent
    · exact Store.summary_openNamespace_ne absent

/-- A refused write makes an entry for its namespace in a store that takes no topics. -/
theorem refused_write_intrudes :
    let s := Store.empty { topics := 0 }
    let r := WriteRequest.ofTopic "a" "a/x" false [118]
    (s.write r).1.isSuccess = false ∧ s.hasNamespace "a" = false ∧
      (s.write r).2.hasNamespace "a" = true ∧ (s.write r).2.toSnapshot ≠ s.toSnapshot := by
  intro s r
  have reached : Reached { topics := 0 } (empty { topics := 0 }) := .empty
  have refused : (s.write r).1.isSuccess = false := by decide +kernel
  have writable : Topic.Writable "a" "a/x" :=
    ⟨by decide, by decide, by decide, by decide, by decide +kernel⟩
  have eligible : s.Eligible r "a" "a/x" :=
    ⟨by decide +kernel, by decide +kernel, writable, fun _ => .inr (by decide +kernel)⟩
  have intrudes : s.Intrudes r "a" := ⟨rfl, by decide +kernel, by decide +kernel, "a/x", eligible⟩
  obtain ⟨-, -, intruded⟩ := refused_write reached refused
  obtain ⟨-, before, after, data, -⟩ := intruded "a" intrudes
  exact ⟨refused, before, after, data⟩

end Replica

end Retained
