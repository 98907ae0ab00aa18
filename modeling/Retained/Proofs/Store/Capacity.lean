import Retained.Proofs.Store.Alike

/-!
# The limit on topics

No call takes a namespace above the limit on topics (`size_put_le`, `size_remove_le`), but a store
may be handed more by a snapshot. `Store.Closed` are the stores under one limit that take over one
another's data only: none of their namespaces is ever above it (`Closed.within`).
-/

namespace Retained

namespace Store

variable {s u : Store} {ns : String}

/-! ## What a call does to the size of a trie -/

theorem size_put_le (s : Store) (first topic : String) (payload : Bytes) (m : String) :
    ((s.put first topic payload).2.trie m).size ≤ max (s.trie m).size s.limits.topics := by
  have same : (s.trie m).size ≤ max (s.trie m).size s.limits.topics := Nat.le_max_left ..
  unfold put
  split
  · exact same
  next ns topic _ =>
  dsimp only
  split
  · split
    · next room =>
      rw [trie_file]
      split
      · next e =>
        subst e
        rw [Trie.size_insert]
        split
        · exact same
        · next new =>
          unfold hasRoom at room
          simp only [new, Bool.false_or, decide_eq_true_eq] at room
          exact Nat.le_trans room (Nat.le_max_right ..)
      · exact same
    · rw [trie_openNamespace]
      exact same
  · exact same

theorem size_remove_le (s : Store) (first topic m : String) :
    ((s.remove first topic).2.trie m).size ≤ (s.trie m).size := by
  rcases remove_cases first topic s with ⟨_, e⟩ | ⟨ns, k, -, e⟩ <;> rw [e]
  rw [trie_discard]
  split
  · next e =>
    subst e
    exact Trie.size_erase_le ..
  · exact Nat.le_refl _

theorem size_apply_le (s : Store) (r : WriteRequest) (m : String) :
    ((s.apply r).2.trie m).size ≤ max (s.trie m).size s.limits.topics := by
  unfold apply
  split
  · exact Nat.le_max_left ..
  · exact Nat.le_max_left ..
  · split
    · exact Nat.le_trans (size_remove_le ..) (Nat.le_max_left ..)
    · exact size_put_le ..

theorem snd_write (s : Store) (r : WriteRequest) : (s.write r).2 = (s.apply r).2 := by
  unfold write
  split <;> next e => rw [e]

/-! ## Stores among themselves -/

/-- What stores under one limit on topics become if they take over one another's data only. -/
inductive Closed (limit : Nat) : Store → Prop where
  | empty {limits : Limits} (h : limits.topics = limit) : Closed limit (empty limits)
  | call {s : Store} (c : Call) (own : ∀ d, c ≠ .restore d) (h : Closed limit s) :
    Closed limit (s.after c)
  | write {s : Store} (r : WriteRequest) (h : Closed limit s) : Closed limit (s.write r).2
  | read {s : Store} (r : ReadRequest) (h : Closed limit s) : Closed limit (s.read r).2
  | restore {s u : Store} (h : Closed limit s) (hu : Closed limit u) :
    Closed limit (s.restore u.toSnapshot)

/-- A store in step whose namespaces are all within the limit. -/
structure Within (limit : Nat) (s : Store) : Prop where
  inStep : s.InStep
  topics_eq : s.limits.topics = limit
  size_le : ∀ ns, (s.trie ns).size ≤ limit

namespace Within

variable {limit : Nat}

theorem of_le (h : s.Within limit) (inStep : u.InStep) (limits : u.limits = s.limits)
    (size : ∀ ns, (u.trie ns).size ≤ max (s.trie ns).size s.limits.topics) : u.Within limit where
  inStep := inStep
  topics_eq := limits ▸ h.topics_eq
  size_le ns := Nat.le_trans (size ns) (Nat.max_le.2 ⟨h.size_le ns, Nat.le_of_eq h.topics_eq⟩)

theorem sound (h : s.Within limit) : s.Sound s.limits := ⟨h.inStep, rfl⟩

theorem openNamespace (h : s.Within limit) : (s.openNamespace ns).Within limit :=
  h.of_le h.inStep.openNamespace rfl fun m => by rw [trie_openNamespace]; exact Nat.le_max_left ..

theorem call (h : s.Within limit) {c : Call} (own : ∀ d, c ≠ .restore d) :
    (s.after c).Within limit := by
  cases c with
  | put first topic payload =>
    exact h.of_le h.inStep.put h.sound.put.limits_eq (size_put_le s first topic payload)
  | remove first topic =>
    exact h.of_le h.inStep.remove h.sound.remove.limits_eq fun ns =>
      Nat.le_trans (size_remove_le ..) (Nat.le_max_left ..)
  | get topic => exact h
  | matching first filter =>
    show (s.matching first filter).2.Within limit
    rcases matching_cases first filter s with e | ⟨ns, e⟩ <;> rw [e]
    · exact h
    · exact h.openNamespace
  | restore d => exact absurd rfl (own d)

theorem write (h : s.Within limit) (r : WriteRequest) : (s.write r).2.Within limit := by
  refine h.of_le (h.sound.write r).inStep (h.sound.write r).limits_eq fun ns => ?_
  rw [snd_write]
  exact size_apply_le s r ns

theorem read (h : s.Within limit) (r : ReadRequest) : (s.read r).2.Within limit := by
  rcases read_leaves r s with ⟨-, e⟩ | ⟨ns, -, e⟩ <;> rw [e]
  · exact h
  · exact h.openNamespace

/-- A store that takes over another one's data has the tries of that one. -/
theorem restore (h : s.Within limit) (hu : u.Within limit) :
    (s.restore u.toSnapshot).Within limit := by
  rw [hu.inStep.restore_toSnapshot]
  exact ⟨⟨hu.inStep.valid, hu.inStep.contains_iff⟩, h.topics_eq, hu.size_le⟩

end Within

theorem Closed.within {limit : Nat} (h : Closed limit s) : s.Within limit := by
  induction h with
  | empty h => exact ⟨.empty _, h, fun _ => Nat.zero_le _⟩
  | call c own _ ih => exact ih.call own
  | write r _ ih => exact ih.write r
  | read r _ ih => exact ih.read r
  | restore _ _ ih ihu => exact ih.restore ihu

end Store

end Retained
