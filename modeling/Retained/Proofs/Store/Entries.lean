import Retained.Proofs.Store.Matching

/-!
# Namespaces with an entry

A namespace gets its entry from the first write or read that comes to it, and keeps it. Which
namespace a request comes to does not depend on what the store holds: an eligible write comes to
that of its topic, stored or not (`InStep.mem_tries_write`), and a read by a filter to that of its
first topic (`mem_tries_read`).
-/

namespace Retained

open Std (ExtTreeMap)

namespace Store

variable {s : Store} {ns m normal first topic filter : String} {payload : Bytes}

/-! ## Changes -/

theorem mem_tries_file : m ∈ (s.file ns topic payload).tries ↔ m = ns ∨ m ∈ s.tries := by
  unfold file
  rw [ExtTreeMap.mem_insert, Std.LawfulEqOrd.compare_eq_iff_eq, eq_comm]

theorem mem_tries_discard : m ∈ (s.discard ns topic).tries ↔ m = ns ∨ m ∈ s.tries := by
  unfold discard
  rw [ExtTreeMap.mem_insert, Std.LawfulEqOrd.compare_eq_iff_eq, eq_comm]

/-! ## Calls -/

/-- The namespace is the only one that these are resolved to. -/
theorem eq_iff_resolve (resolved : resolve first topic = .ok (ns, normal)) :
    m = ns ↔ ∃ t, resolve first topic = .ok (m, t) := by
  constructor
  · rintro rfl
    exact ⟨normal, resolved⟩
  · rintro ⟨t, resolved'⟩
    rw [resolved] at resolved'
    cases resolved'
    rfl

/-- A put makes an entry for the namespace that it is resolved to, unless the topic has too many
levels. -/
theorem mem_tries_put : m ∈ (s.put first topic payload).2.tries ↔
    m ∈ s.tries ∨ s.admits (Topic.levels (Topic.normalize topic)).length = true ∧
      ∃ t, resolve first topic = .ok (m, t) := by
  unfold put
  cases resolved : resolve first topic with
  | error e => simp
  | ok p =>
    obtain ⟨ns, normal⟩ := p
    have normal_eq : normal = Topic.normalize topic := (resolve_ok resolved).2.1
    dsimp only
    rw [← resolved, ← eq_iff_resolve resolved, or_comm, ← normal_eq]
    split
    · next admitted =>
      rw [and_iff_right admitted]
      split
      · exact mem_tries_file
      · exact mem_tries_openNamespace
    · next deep => exact (or_iff_right fun h => deep h.1).symm

theorem mem_tries_remove : m ∈ (s.remove first topic).2.tries ↔
    m ∈ s.tries ∨ ∃ t, resolve first topic = .ok (m, t) := by
  unfold remove
  cases resolved : resolve first topic with
  | error e => simp
  | ok p =>
    obtain ⟨ns, normal⟩ := p
    dsimp only
    rw [← resolved, ← eq_iff_resolve resolved, or_comm]
    exact mem_tries_discard

theorem mem_tries_matching : m ∈ (s.matching first filter).2.tries ↔
    m ∈ s.tries ∨ Text.isAllBlank filter = false ∧ Topic.namespaceOf first = m := by
  cases nonblank : Text.isAllBlank filter with
  | true => simp [matching_of_blank nonblank]
  | false =>
    rw [matching_of_nonblank nonblank, mem_tries_openNamespace, and_iff_right rfl, or_comm,
      @eq_comm _ m]

/-! ## Requests -/

theorem InStep.mem_tries_write (h : s.InStep) (r : WriteRequest) :
    m ∈ (s.write r).2.tries ↔
      m ∈ s.tries ∨ ∃ first topic, s.Eligible r first topic ∧ Topic.namespaceOf topic = m := by
  have ending := h.ending r
  have only {first topic : String} (eligible : s.Eligible r first topic) :
      (∃ first topic, s.Eligible r first topic ∧ Topic.namespaceOf topic = m) ↔
        m = Topic.namespaceOf topic := by
    constructor
    · rintro ⟨_, _, eligible', rfl⟩
      obtain ⟨-, rfl⟩ := eligible.unique eligible'
      rfl
    · rintro rfl
      exact ⟨_, _, eligible, rfl⟩
  generalize applied : s.apply r = p at ending
  cases ending with
  | dropped eligible drop =>
    rw [write_of_ok applied, mem_tries_discard, only eligible, or_comm]
  | stored eligible store fits =>
    rw [write_of_ok applied, mem_tries_file, only eligible, or_comm]
  | full eligible store full =>
    rw [write_of_error applied, mem_tries_openNamespace, only eligible, or_comm]
  | malformed ineligible =>
    rw [write_of_error applied]
    refine (or_iff_left ?_).symm
    rintro ⟨_, _, eligible, -⟩
    exact ineligible _ _ eligible

theorem mem_tries_read (r : ReadRequest) (s : Store) :
    m ∈ (s.read r).2.tries ↔ m ∈ s.tries ∨ r.Visits m := by
  rcases read_leaves r s with ⟨nowhere, e⟩ | ⟨ns, visits, e⟩ <;> rw [e]
  · exact (or_iff_left (nowhere m)).symm
  · rw [mem_tries_openNamespace, or_comm]
    refine or_congr_right ⟨?_, visits.unique⟩
    rintro rfl
    exact visits

end Store

end Retained
