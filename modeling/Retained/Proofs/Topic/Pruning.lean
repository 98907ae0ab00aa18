import Mathlib.Data.Finset.Union
import Mathlib.Data.List.Infix
import Retained.Proofs.Topic.History

/-!
# The nodes of a trie

A valid trie has the nodes that its topics need and no others: a walk leads to a node if some
stored topic begins with its levels (`Valid.exists_at?_iff`). A walk is thus a beginning of the
stored topics, and there are as many nodes as beginnings (`Holds.nodeCount_eq`). Since valid tries
that hold the same topics are equal, nothing is left in the tree of what has come and gone
(`nodes_exact`).
-/

namespace Retained

/-- The lists of one level or more that the levels of some topic in the set begin with. -/
def Topic.beginnings (s : Finset String) : Finset (List String) :=
  s.biUnion fun topic => (levels topic).inits.toFinset.erase []

theorem Topic.mem_beginnings {s : Finset String} {w : List String} :
    w ∈ beginnings s ↔ w ≠ [] ∧ ∃ topic ∈ s, w <+: levels topic := by
  simp only [beginnings, Finset.mem_biUnion, Finset.mem_erase, List.mem_toFinset, List.mem_inits]
  constructor
  · rintro ⟨topic, stored, below, begins⟩
    exact ⟨below, topic, stored, begins⟩
  · rintro ⟨below, topic, stored, begins⟩
    exact ⟨topic, stored, below, begins⟩

namespace Trie

variable {t : Trie} {s : Finset String} {w : List String} {topic : String}

theorem Valid.exists_topic {u : Node Bool} (ht : t.Valid) (hw : w ≠ [])
    (hu : t.root.at? w = some u) : ∃ topic, t.contains topic = true ∧ w <+: Topic.levels topic := by
  have alive : u.Alive := Node.alive_at? ht.pruned hw hu
  obtain ⟨v, hv⟩ := alive.exists_walk (Node.pruned_at? ht.pruned hu)
  have marked : w ++ v ∈ t.root.walks id := by
    rw [Node.mem_walks_iff_isMarked ht.ordered, Node.isMarked_append hu,
      ← Node.mem_walks_iff_isMarked (Node.ordered_at? ht.ordered hu)]
    exact hv
  have levels : Topic.levels (Topic.ofLevels (w ++ v)) = w ++ v := ht.levels _ marked
  refine ⟨Topic.ofLevels (w ++ v), ?_, ?_⟩
  · rwa [← ht.mem_walks, levels]
  · rw [levels]
    exact List.prefix_append w v

theorem exists_at?_of_contains (stored : t.contains topic = true)
    (begins : w <+: Topic.levels topic) :
    ∃ u, t.root.at? w = some u := by
  obtain ⟨last, hl, -⟩ := Node.isMarked_iff.1 stored
  obtain ⟨v, e⟩ := begins
  rw [← e] at hl
  obtain ⟨u, hu, -⟩ := Node.exists_at?_of_append hl
  exact ⟨u, hu⟩

theorem Valid.exists_at?_iff (ht : t.Valid) : (∃ u, t.root.at? w = some u) ↔
    w = [] ∨ ∃ topic, t.contains topic = true ∧ w <+: Topic.levels topic := by
  constructor
  · rintro ⟨u, hu⟩
    exact or_iff_not_imp_left.2 fun hw => ht.exists_topic hw hu
  · rintro (rfl | ⟨topic, stored, begins⟩)
    · exact ⟨t.root, rfl⟩
    · exact exists_at?_of_contains stored begins

namespace Holds

theorem isSome_at?_iff (h : t.Holds s) :
    (t.root.at? w).isSome = true ↔ w = [] ∨ w ∈ Topic.beginnings s := by
  rw [Option.isSome_iff_exists, h.valid.exists_at?_iff]
  simp only [h.contains_iff, Topic.mem_beginnings]
  by_cases hw : w = []
  · simp [hw]
  · simp [hw]

/-- There is a node for each beginning of a stored topic. -/
theorem nodeCount_eq (h : t.Holds s) : t.nodeCount = (Topic.beginnings s).card := by
  have ordered := h.valid.ordered
  have walks : (t.root.children.walks fun _ => true).toFinset = Topic.beginnings s := by
    ext w
    rw [List.mem_toFinset]
    cases w with
    | nil => simp [Topic.mem_beginnings]
    | cons l w =>
      have there := h.isSome_at?_iff (w := l :: w)
      rw [← Forest.cons_mem_node_walks, Node.mem_walks ordered]
      simpa [Option.isSome_iff_exists] using there
  calc t.nodeCount
      = (t.root.children.walks fun _ => true).length := Forest.size_eq_length_walks _
    _ = (t.root.children.walks fun _ => true).toFinset.card :=
        (List.toFinset_card_of_nodup ordered.nodup_walks).symm
    _ = (Topic.beginnings s).card := congrArg Finset.card walks

theorem nodeCount_eq_zero_iff (h : t.Holds s) : t.nodeCount = 0 ↔ s = ∅ := by
  rw [h.nodeCount_eq, Finset.card_eq_zero]
  constructor
  · refine fun none => Finset.eq_empty_of_forall_notMem fun topic stored => ?_
    have first : Topic.levels topic ∈ Topic.beginnings s :=
      Topic.mem_beginnings.2 ⟨Topic.levels_ne_nil topic, topic, stored, List.prefix_refl _⟩
    rw [none] at first
    cases first
  · rintro rfl
    rfl

end Holds

/-- After any changes, the nodes below the root are as many as the beginnings of the stored
topics, each is marked or has a child, and none is missing. The tree depends on nothing but the
set of stored topics, and has no node if that is empty. -/
theorem nodes_exact (changes : List Change) :
    let t := changes.foldl after ∅
    let s := changes.foldl Change.onSet ∅
    t.nodeCount = (Topic.beginnings s).card ∧
      t.root.children.Pruned ∧
      (∀ w, (t.root.at? w).isSome = true ↔ w = [] ∨ w ∈ Topic.beginnings s) ∧
      (∀ changes' : List Change,
        t = changes'.foldl after ∅ ↔ s = changes'.foldl Change.onSet ∅) ∧
      (t.nodeCount = 0 ↔ s = ∅) := by
  intro t s
  have h : t.Holds s := Holds.empty.run changes
  exact ⟨h.nodeCount_eq, h.valid.pruned, fun w => h.isSome_at?_iff,
    fun changes' => h.eq_iff (Holds.empty.run changes'), h.nodeCount_eq_zero_iff⟩

end Trie

end Retained
