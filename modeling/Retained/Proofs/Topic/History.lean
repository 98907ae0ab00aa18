import Mathlib.Data.Finset.Card
import Retained.Proofs.Topic.Filter

/-!
# Tries in any history

A trie holds a plain set of topics (`Holds`) if it is valid and contains these and no others. The
empty trie holds the empty set, and an insertion or an erasure of the trie keeps step with the
same change of the set, so that after any changes all answers of the trie can be read off the set
(`refines_set`), those to a filter among them (`matching_stored`).
-/

namespace Retained

inductive Trie.Change where
  | insert (topic : String)
  | erase (topic : String)

namespace Trie

variable {t u : Trie} {s s' : Finset String} {topic other filter : String}

/-- The trie after a change, whatever the change answers. -/
def after (t : Trie) : Change → Trie
  | .insert topic => (t.insert topic).2
  | .erase topic => (t.erase topic).2

/-- What a change makes of a plain set of topics. -/
def Change.onSet (s : Finset String) : Change → Finset String
  | .insert topic => Insert.insert topic s
  | .erase topic => s.erase topic

/-! ## What a change answers -/

theorem fst_insert (t : Trie) (topic : String) : (t.insert topic).1 = !t.contains topic := by
  unfold insert
  cases t.contains topic <;> rfl

theorem Valid.fst_erase (ht : t.Valid) : (t.erase topic).1 = t.contains topic := by
  rcases ht.erase_cases topic with ⟨absent, e⟩ | ⟨root, stored, e, _⟩
  · rw [e, absent]
  · rw [e, stored]

theorem Valid.mem_matching_erase (ht : t.Valid) :
    other ∈ (t.erase topic).2.matching filter ↔ other ≠ topic ∧ other ∈ t.matching filter := by
  rw [ht.erase.mem_matching, ht.mem_matching, ht.contains_erase, and_assoc, and_left_comm]

/-! ## Tries that hold a set -/

structure Holds (t : Trie) (s : Finset String) : Prop where
  valid : t.Valid
  contains_iff : ∀ topic, t.contains topic = true ↔ topic ∈ s

namespace Holds

theorem empty : (∅ : Trie).Holds ∅ where
  valid := Valid.empty
  contains_iff topic := by simp

theorem insert (h : t.Holds s) : (t.insert topic).2.Holds (Insert.insert topic s) where
  valid := h.valid.insert
  contains_iff other := by rw [contains_insert, h.contains_iff, Finset.mem_insert]

theorem erase (h : t.Holds s) : (t.erase topic).2.Holds (s.erase topic) where
  valid := h.valid.erase
  contains_iff other := by rw [h.valid.contains_erase, h.contains_iff, Finset.mem_erase]

theorem after (h : t.Holds s) (c : Change) : (t.after c).Holds (c.onSet s) := by
  cases c with
  | insert topic => exact h.insert
  | erase topic => exact h.erase

theorem run (h : t.Holds s) (changes : List Change) :
    (changes.foldl Trie.after t).Holds (changes.foldl Change.onSet s) := by
  induction changes generalizing t s with
  | nil => exact h
  | cons c changes ih => exact ih (h.after c)

theorem contains_eq (h : t.Holds s) : t.contains topic = decide (topic ∈ s) :=
  Bool.eq_iff_iff.2 ((h.contains_iff topic).trans decide_eq_true_iff.symm)

theorem mem_toList (h : t.Holds s) : topic ∈ t.toList ↔ topic ∈ s :=
  h.valid.mem_toList.trans (h.contains_iff topic)

theorem size_eq (h : t.Holds s) : t.size = s.card := by
  have same : t.toList.toFinset = s := Finset.ext fun topic => List.mem_toFinset.trans h.mem_toList
  rw [← h.valid.length_toList, ← List.toFinset_card_of_nodup h.valid.nodup_toList, same]

theorem isEmpty_eq (h : t.Holds s) : t.isEmpty = decide (s = ∅) := by
  unfold isEmpty
  rw [h.size_eq, Bool.eq_iff_iff, beq_iff_eq, Finset.card_eq_zero, decide_eq_true_iff]

/-- Tries are equal if they hold equal sets, and only then. -/
theorem eq_iff (h : t.Holds s) (h' : u.Holds s') : t = u ↔ s = s' := by
  constructor
  · rintro rfl
    exact Finset.ext fun topic => (h.contains_iff topic).symm.trans (h'.contains_iff topic)
  · rintro rfl
    exact h.valid.ext h'.valid fun topic =>
      (h.contains_iff topic).trans (h'.contains_iff topic).symm

end Holds

/-! ## Any history -/

/-- After any changes, a trie answers as the plain set of topics does that has gone through the
same changes. An erasure takes its topic away, and what a filter finds of the others stays as it
is. -/
theorem refines_set (changes : List Change) :
    let t := changes.foldl after ∅
    let s := changes.foldl Change.onSet ∅
    (∀ topic, (t.insert topic).1 = decide (topic ∉ s)) ∧
      (∀ topic, (t.erase topic).1 = decide (topic ∈ s)) ∧
      (∀ topic, t.contains topic = decide (topic ∈ s)) ∧
      t.size = s.card ∧ t.isEmpty = decide (s = ∅) ∧
      t.toList.Nodup ∧ (∀ topic, topic ∈ t.toList ↔ topic ∈ s) ∧
      ∀ topic other filter,
        other ∈ (t.erase topic).2.matching filter ↔ other ≠ topic ∧ other ∈ t.matching filter := by
  intro t s
  have h : t.Holds s := Holds.empty.run changes
  refine ⟨fun topic => ?_, fun topic => ?_, fun topic => h.contains_eq, h.size_eq, h.isEmpty_eq,
    h.valid.nodup_toList, fun topic => h.mem_toList, fun topic other filter =>
    h.valid.mem_matching_erase⟩
  · rw [fst_insert, h.contains_eq, decide_not]
  · rw [h.valid.fst_erase, h.contains_eq]

/-- After any changes, a filter is answered by the stored topics that it matches, each of them
once, and the empty filter by none. -/
theorem matching_stored (changes : List Change) (filter : String) :
    let t := changes.foldl after ∅
    let s := changes.foldl Change.onSet ∅
    (t.matching filter).Nodup ∧ ∀ topic, topic ∈ t.matching filter ↔
      filter ≠ "" ∧ topic ∈ s ∧ Topic.Matches (Topic.levels filter) (Topic.levels topic) := by
  intro t s
  have h : t.Holds s := Holds.empty.run changes
  refine ⟨h.valid.nodup_matching, fun topic => ?_⟩
  rw [h.valid.mem_matching, h.contains_iff]

end Trie

end Retained
