import Retained.Proofs.Topic.History

/-!
# The two passes of an erasure

The first pass of an erasure surveys the way to the topic, the second one takes away what the
survey has found. Where the survey ends at a mark the second pass has all that it relies on
(`Node.Surveyed`): the cut is one of the levels, the walk to it goes through, and a branch that is
cut off serves the erased topic alone. In a trie with any history, the topics are then counted
down from one or more (`passes_agree`).
-/

namespace Retained

namespace Node

variable {t last : Node Bool} {ls : List String} {cut : Nat}

theorem survey?_bounds {depth cut' : Nat} (h : t.survey? depth cut ls = some (cut', last))
    (one_le : 1 ≤ cut) (le_length : cut ≤ depth + ls.length) :
    1 ≤ cut' ∧ cut' ≤ depth + ls.length := by
  induction ls generalizing t depth cut with
  | nil =>
    cases h
    exact ⟨one_le, le_length⟩
  | cons l ls ih =>
    obtain ⟨child, -, h⟩ := Option.bind_eq_some_iff.1 h
    have behind : depth + (l :: ls).length = depth + 1 + ls.length := by
      rw [List.length_cons]
      omega
    rw [behind] at le_length ⊢
    refine ih h ?_ ?_
    · split
      · omega
      · exact one_le
    · split
      · next shared =>
        -- the cut moves on past the child only while there are levels behind it
        have more : 0 < ls.length := by
          cases ls with
          | nil => cases shared
          | cons => exact Nat.zero_lt_succ _
        omega
      · exact le_length

/-- What the second pass of an erasure relies on, when the survey ends at the node `last`. -/
structure Surveyed (ls : List String) (t : Node Bool) (cut : Nat) (last : Node Bool) : Prop where
  one_le : 1 ≤ cut
  le_length : cut ≤ ls.length
  /-- The second pass does not leave the tree. -/
  carried : ∃ t', t.carryOut? ls (if last.children.isEmpty then .branch cut else .mark) = some t'
  /-- The branch to be cut off is there, and one mark is left in it, at the end of the way. -/
  alone : last.children.isEmpty = true →
    ∃ branch, t.at? (ls.take cut) = some branch ∧ branch.walks id = [ls.drop cut]

theorem Serves.walks_eq (h : t.Serves ls) (ht : t.children.Ordered) : t.walks id = [ls] := by
  rw [← List.perm_singleton]
  refine (List.perm_ext_iff_of_nodup (nodup_walks ht) (List.nodup_singleton ls)).2 fun w => ?_
  rw [mem_walks_iff_isMarked ht, h.isMarked_iff, List.mem_singleton]

/-- A survey that ends at a leaf leads to a branch with one mark. -/
theorem exists_branch_of_survey? (ht : t.children.Ordered) (hls : ls ≠ [])
    (h : t.survey? 0 1 ls = some (cut, ⟨true, .nil⟩)) :
    ∃ branch, t.at? (ls.take cut) = some branch ∧ branch.walks id = [ls.drop cut] := by
  obtain ⟨before, l, parent, branch, fork, hcut⟩ := exists_fork_of_survey? hls h
  obtain ⟨after, split, serves⟩ := fork.split
  have hcut : cut = (before ++ [l]).length := by
    rw [hcut, List.length_append]
    split <;> simp_all
  have there : t.at? (before ++ [l]) = some branch := by
    rw [at?_append_some fork.at_parent, at?_cons, fork.find_child]
    rfl
  have ways : ls = (before ++ [l]) ++ after := by simp [split]
  refine ⟨branch, ?_, ?_⟩
  · rw [hcut, ways, List.take_left]
    exact there
  · rw [hcut, ways, List.drop_left]
    exact serves.walks_eq (ordered_at? ht there)

theorem surveyed (ht : t.children.Ordered) (hls : ls ≠ []) (h : t.survey? 0 1 ls = some (cut, last))
    (marked : last.value = true) : Surveyed ls t cut last := by
  have positive : 1 ≤ ls.length := List.length_pos_of_ne_nil hls
  obtain ⟨one_le, le_length⟩ := survey?_bounds h (Nat.le_refl 1) (by omega)
  have stored : t.isMarked ls = true := isMarked_iff.2 ⟨last, survey?_at? h, marked⟩
  obtain ⟨t', carried, -⟩ := exists_erased ht hls stored
  rw [removal?_of_survey? h marked] at carried
  refine ⟨one_le, by omega, ⟨t', carried⟩, fun leaf => ?_⟩
  have hlast : last = ⟨true, .nil⟩ := by
    cases last
    simp_all
  rw [hlast] at h
  exact exists_branch_of_survey? ht hls h

end Node

namespace Trie

variable {t : Trie} {topic : String} {cut : Nat} {last : Node Bool}

theorem snd_erase_of_false (h : (t.erase topic).1 = false) : (t.erase topic).2 = t := by
  unfold erase at h ⊢
  dsimp only at h ⊢
  split at h
  · cases h
  · rfl

theorem Valid.erase_surveyed (ht : t.Valid)
    (h : t.root.survey? 0 1 (Topic.levels topic) = some (cut, last)) (marked : last.value = true) :
    1 ≤ t.size ∧ ∃ root, t.erase topic = (true, ⟨root, t.size - 1⟩) := by
  have stored : t.contains topic = true := Node.isMarked_iff.2 ⟨last, Node.survey?_at? h, marked⟩
  have counted := ht.size_erase stored
  rcases ht.erase_cases topic with ⟨absent, -⟩ | ⟨root, -, erased, -⟩
  · cases stored.symm.trans absent
  · exact ⟨by omega, root, erased⟩

/--
After any changes, when the first pass of an erasure ends at a mark, the second pass finds all
that it relies on, and the erasure goes through and is counted down from one topic or more. An
erasure that does not go through leaves the trie as it was.
-/
theorem passes_agree (changes : List Change) (topic : String) :
    let t := changes.foldl after ∅
    let ls := Topic.levels topic
    (∀ cut last, t.root.survey? 0 1 ls = some (cut, last) → last.value = true →
        Node.Surveyed ls t.root cut last ∧ 1 ≤ t.size ∧
          ∃ root, t.erase topic = (true, ⟨root, t.size - 1⟩)) ∧
      ((t.erase topic).1 = false → (t.erase topic).2 = t) := by
  intro t ls
  have valid : t.Valid := (Holds.empty.run changes).valid
  refine ⟨fun cut last h marked => ?_, snd_erase_of_false⟩
  exact ⟨Node.surveyed valid.ordered (Topic.levels_ne_nil topic) h marked,
    valid.erase_surveyed h marked⟩

/-- Below a stored topic, the way to a longer one is cut off where it turns off from that of
another. -/
theorem passes_agree_below :
    let t := [Change.insert "a/b", .insert "a/b/c/d", .insert "a/x", .erase "a/x"].foldl after ∅
    let ls := Topic.levels "a/b/c/d"
    t.root.survey? 0 1 ls = some (3, ⟨true, .nil⟩) ∧
      (∃ branch, t.root.at? ["a", "b", "c"] = some branch ∧ branch.walks id = [["d"]]) ∧
      ∃ root, t.erase "a/b/c/d" = (true, ⟨root, 1⟩) := by
  intro t ls
  have end_of_way : t.root.survey? 0 1 ls = some (3, ⟨true, .nil⟩) := by decide +kernel
  obtain ⟨agree, -⟩ := passes_agree
    [.insert "a/b", .insert "a/b/c/d", .insert "a/x", .erase "a/x"] "a/b/c/d"
  obtain ⟨surveyed, -, erased⟩ := agree 3 ⟨true, .nil⟩ end_of_way rfl
  exact ⟨end_of_way, surveyed.alone rfl, erased⟩

end Trie

end Retained
