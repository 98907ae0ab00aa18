import Retained.Proofs.Tree
import Retained.Topic.Trie

/-!
# The topic trie as a set of topics

`Trie.Valid`: the tree is ordered and pruned, holds walks of topics only, and `size` counts them.
The empty trie is valid, and `insert` and `erase` keep a trie valid while they add or take away
one topic (`contains_insert`, `contains_erase`). The first pass of an erasure ends at a fork
(`Node.Fork`): what hangs below it serves the erased topic alone. Valid tries that hold the same
topics are equal (`ext`), whatever made them.
-/

namespace Retained

namespace Node

variable {t u child last : Node Bool} {ls w : List String} {l m : String}

@[simp]
theorem isMarked_nil : t.isMarked [] = t.value := rfl

theorem isMarked_cons : t.isMarked (m :: w) = (t.children.find? m).any (isMarked w) := by
  unfold isMarked
  rw [at?_cons]
  cases t.children.find? m <;> rfl

theorem isMarked_iff : t.isMarked w = true ↔ ∃ u, t.at? w = some u ∧ u.value = true := by
  unfold isMarked
  cases t.at? w <;> simp

theorem isMarked_insertChild :
    (t.insertChild l u).isMarked (m :: w) = if m = l then u.isMarked w else t.isMarked (m :: w) := by
  unfold isMarked
  rw [at?_insertChild]
  split <;> rfl

theorem mem_walks_iff_isMarked (ht : t.children.Ordered) :
    w ∈ t.walks id ↔ t.isMarked w = true := by
  rw [mem_walks ht, isMarked_iff]; rfl

/-! ## Marking -/

theorem isMarked_mark : (mark ls t).isMarked w = true ↔ w = ls ∨ t.isMarked w = true := by
  induction ls generalizing t w with
  | nil =>
    cases w with
    | nil => simp [mark]
    | cons m w => simp [mark, isMarked_cons]
  | cons l ls ih =>
    cases w with
    | nil => simp [mark, insertChild]
    | cons m w =>
      unfold mark
      rw [isMarked_insertChild]
      by_cases e : m = l
      · subst e
        rw [if_pos rfl, ih, isMarked_cons]
        cases t.children.find? m with
        | none => cases w <;> simp [isMarked_cons]
        | some c => simp
      · simp [e]

theorem ordered_mark (ht : t.children.Ordered) : (mark ls t).children.Ordered := by
  induction ls generalizing t with
  | nil => exact ht
  | cons l ls ih =>
    refine ht.insert (ih ?_)
    cases h : t.children.find? l with
    | none => exact trivial
    | some c => exact ht.child h

theorem alive_mark : (mark ls t).Alive := by
  cases ls with
  | nil => exact .inl rfl
  | cons l ls => exact alive_insertChild

theorem pruned_mark (ht : t.children.Pruned) : (mark ls t).children.Pruned := by
  induction ls generalizing t with
  | nil => exact ht
  | cons l ls ih =>
    refine ht.insert alive_mark (ih ?_)
    cases h : t.children.find? l with
    | none => exact trivial
    | some c => exact (ht.child h).2

theorem value_mark (hls : ls ≠ []) : (mark ls t).value = t.value := by
  cases ls with
  | nil => exact absurd rfl hls
  | cons l ls => rfl

/-! ## The first pass of an erasure -/

def Serves : List String → Node Bool → Prop
  | [], t => t = ⟨true, .nil⟩
  | l :: ls, t => ∃ c : Node Bool, t = ⟨false, .branch l c.value c.children .nil⟩ ∧ Serves ls c

theorem Serves.isMarked_iff (h : t.Serves ls) : t.isMarked w = true ↔ w = ls := by
  induction ls generalizing t w with
  | nil =>
    cases h
    cases w <;> simp [isMarked_cons]
  | cons l ls ih =>
    obtain ⟨c, rfl, hc⟩ := h
    cases w with
    | nil => simp
    | cons m w =>
      rw [isMarked_cons, Forest.find?]
      by_cases e : m = l
      · simp [e, ih hc]
      · simp [e]

theorem eq_of_not_isShared (h : t.isShared = false) (hc : t.children.find? l = some child) :
    t = ⟨false, .branch l child.value child.children .nil⟩ := by
  obtain ⟨v, f⟩ := t
  unfold isShared at h
  rw [Bool.or_eq_false_iff, decide_eq_false_iff_not] at h
  obtain ⟨rfl, hlen⟩ := h
  cases f with
  | nil => cases hc
  | branch n v c r =>
    cases r with
    | branch _ _ _ _ => simp [Forest.toList] at hlen
    | nil =>
      rw [Forest.find?] at hc
      split at hc
      · next e => cases hc; rw [e]
      · cases hc

/-- The way `ls` to a topic parts from all others at `parent`: after the levels `before` comes
`l`, and the child there serves this topic alone. -/
structure Fork (t : Node Bool) (ls before : List String) (l : String) (parent child : Node Bool) :
    Prop where
  split : ∃ after, ls = before ++ l :: after ∧ child.Serves after
  at_parent : t.at? before = some parent
  find_child : parent.children.find? l = some child
  shared : before ≠ [] → parent.isShared = true

theorem survey?_at? {depth cut cut' : Nat} (h : t.survey? depth cut ls = some (cut', last)) :
    t.at? ls = some last := by
  induction ls generalizing t depth cut with
  | nil => cases h; rfl
  | cons l ls ih =>
    obtain ⟨c, hc, h⟩ := Option.bind_eq_some_iff.1 h
    rw [at?_cons, hc]
    exact ih h

theorem exists_survey? (depth cut : Nat) (h : t.at? ls = some last) :
    ∃ cut', t.survey? depth cut ls = some (cut', last) := by
  induction ls generalizing t depth cut with
  | nil => cases h; exact ⟨cut, rfl⟩
  | cons l ls ih =>
    obtain ⟨c, hc, h⟩ := Option.bind_eq_some_iff.1 h
    obtain ⟨cut', hs⟩ := ih (depth + 1) (if !ls.isEmpty && c.isShared then depth + 2 else cut) h
    exact ⟨cut', by rw [survey?, hc]; exact hs⟩

/-- A survey that ends at a leaf finds the fork. The cut counts the levels up to the child there,
or is what it was to begin with if there is no fork behind the starting point. -/
theorem exists_fork_of_survey? {depth cut cut' : Nat} (hls : ls ≠ [])
    (h : t.survey? depth cut ls = some (cut', ⟨true, .nil⟩)) :
    ∃ before l parent child, t.Fork ls before l parent child ∧
      cut' = if before = [] then cut else depth + before.length + 1 := by
  induction ls generalizing t depth cut with
  | nil => exact absurd rfl hls
  | cons l ls ih =>
    obtain ⟨c, hc, h⟩ := Option.bind_eq_some_iff.1 h
    cases ls with
    | nil =>
      cases h
      exact ⟨[], l, t, _, ⟨⟨[], rfl, rfl⟩, rfl, hc, fun e => absurd rfl e⟩, rfl⟩
    | cons k ls =>
      obtain ⟨before, l', parent, child, hf, rfl⟩ := ih (List.cons_ne_nil k ls) h
      obtain ⟨after, hsplit, hserves⟩ := hf.split
      have hat : t.at? (l :: before) = some parent := by
        rw [at?_cons, hc]; exact hf.at_parent
      by_cases hb : before = []
      · subst hb
        cases hf.at_parent
        cases hs : c.isShared with
        | true =>
          refine ⟨[l], l', c, child, ⟨⟨after, ?_, hserves⟩, hat, hf.find_child, fun _ => hs⟩, ?_⟩
          · rw [hsplit]; rfl
          · simp
        | false =>
          -- the child has no other way to go on, so it serves this topic alone too
          have hcs : c.Serves (k :: ls) := by
            rw [eq_of_not_isShared hs hf.find_child, hsplit]
            exact ⟨child, rfl, hserves⟩
          refine ⟨[], l, t, c, ⟨⟨k :: ls, rfl, hcs⟩, rfl, hc, fun e => absurd rfl e⟩, ?_⟩
          simp
      · refine ⟨l :: before, l', parent, child,
          ⟨⟨after, ?_, hserves⟩, hat, hf.find_child, fun _ => hf.shared hb⟩, ?_⟩
        · rw [hsplit]; rfl
        · simp only [hb, if_false, List.cons_ne_nil, List.length_cons]
          omega

/-! ## Erasing -/

/-- What is left of a tree when the topic with these levels is taken out of it. -/
structure Erased (ls : List String) (t t' : Node Bool) : Prop where
  isMarked : ∀ w, t'.isMarked w = true ↔ t.isMarked w = true ∧ w ≠ ls
  ordered : t'.children.Ordered
  pruned : t.children.Pruned → t'.children.Pruned

theorem isMarked_eraseChild (ht : t.children.Ordered) :
    (t.eraseChild l).isMarked w = true ↔ t.isMarked w = true ∧ ∀ v, w ≠ l :: v := by
  cases w with
  | nil => simp [eraseChild]
  | cons m w =>
    unfold isMarked
    rw [at?_eraseChild ht]
    by_cases e : m = l
    · simp [e]
    · simp [e]

theorem isMarked_append (h : t.at? ls = some u) : t.isMarked (ls ++ w) = u.isMarked w := by
  unfold isMarked; rw [at?_append_some h]

/-- A mark off the way of a change, or above its end, is not touched. -/
theorem isMarked_modify? {t' : Node Bool} {f : Node Bool → Node Bool} (h : t.modify? f ls = some t')
    (hw : ¬ ls <+: w) : t'.isMarked w = t.isMarked w := by
  have hv := value_modify? h hw
  unfold isMarked
  generalize t'.at? w = a at hv ⊢
  generalize t.at? w = b at hv ⊢
  cases a <;> cases b <;> simp_all

/-- The other half of the alternative in `Fork.shared`, after the child is gone. -/
theorem alive_eraseChild (h : t.isShared = true) : (t.eraseChild l).Alive := by
  obtain ⟨v, f⟩ := t
  unfold isShared at h
  rw [Bool.or_eq_true, decide_eq_true_eq] at h
  rcases h with h | h
  · exact .inl h
  · right
    cases f with
    | nil => simp [Forest.toList] at h
    | branch n v c r =>
      cases r with
      | nil => simp [Forest.toList] at h
      | branch _ _ _ _ => unfold eraseChild Forest.erase; split <;> simp

/-- Cutting a fork off takes away the one topic that the branch serves. -/
theorem Fork.erased {before : List String} {parent t' : Node Bool}
    (h : t.Fork ls before l parent child) (ht : t.children.Ordered)
    (hm : t.modify? (·.eraseChild l) before = some t') : Erased ls t t' := by
  obtain ⟨after, rfl, hserves⟩ := h.split
  have ho : parent.children.Ordered := ordered_at? ht h.at_parent
  refine ⟨fun w => ?_, ?_, fun hp => ?_⟩
  · by_cases hw : before <+: w
    · obtain ⟨w, rfl⟩ := hw
      have hparent : t'.isMarked (before ++ w) = (parent.eraseChild l).isMarked w := by
        unfold isMarked; rw [at?_modify? hm h.at_parent]
      rw [hparent, isMarked_eraseChild ho, isMarked_append h.at_parent]
      refine and_congr_right fun hmark => ?_
      constructor
      · intro hne e
        exact hne after (List.append_cancel_left e)
      · rintro hne v rfl
        rw [isMarked_cons, h.find_child, Option.any_some, hserves.isMarked_iff] at hmark
        exact hne (by rw [hmark])
    · rw [isMarked_modify? hm hw]
      refine (and_iff_left ?_).symm
      rintro rfl
      exact hw (List.prefix_append ..)
  · exact ordered_modify? ht hm fun u hu => (ordered_at? ht hu).erase
  · refine pruned_modify? hp hm fun u hu => ?_
    obtain rfl : parent = u := Option.some.inj (h.at_parent.symm.trans hu)
    exact ⟨(pruned_at? hp hu).erase, fun hb => alive_eraseChild (h.shared hb)⟩

/-- Unmarking a node that others need takes away its own topic. -/
theorem erased_unmark {t' : Node Bool} (ht : t.children.Ordered) (hl : t.at? ls = some last)
    (hc : last.children ≠ .nil)
    (hm : t.modify? (fun last => { last with value := false }) ls = some t') : Erased ls t t' := by
  refine ⟨fun w => ?_, ?_, fun hp => ?_⟩
  · by_cases hw : ls <+: w
    · obtain ⟨w, rfl⟩ := hw
      have hlast : t'.isMarked (ls ++ w) = Node.isMarked w { last with value := false } := by
        unfold isMarked; rw [at?_modify? hm hl]
      rw [hlast, isMarked_append hl]
      cases w with
      | nil => simp
      | cons m w => simp [isMarked_cons]
    · rw [isMarked_modify? hm hw]
      refine (and_iff_left ?_).symm
      rintro rfl
      exact hw (List.prefix_refl _)
  · exact ordered_modify? ht hm fun u hu => show u.children.Ordered from ordered_at? ht hu
  · refine pruned_modify? hp hm fun u hu => ?_
    obtain rfl : last = u := Option.some.inj (hl.symm.trans hu)
    exact ⟨show last.children.Pruned from pruned_at? hp hu, fun _ => .inr hc⟩

theorem removal?_eq_none (h : t.isMarked ls = false) : t.removal? ls = none := by
  unfold removal?
  cases hs : t.survey? 0 1 ls with
  | none => rfl
  | some p =>
    obtain ⟨cut, last⟩ := p
    have hv : last.value = false := by
      unfold isMarked at h
      rw [survey?_at? hs] at h
      exact h
    simp [hv]

/-- What a survey that ends at a mark asks the second pass for. -/
theorem removal?_of_survey? {cut : Nat} (h : t.survey? 0 1 ls = some (cut, last))
    (hv : last.value = true) :
    t.removal? ls = some (if last.children.isEmpty then .branch cut else .mark) := by
  unfold removal?; rw [h]; simp [hv]

/-- Both passes of an erasure go through on a stored topic, and take it away. -/
theorem exists_erased (ht : t.children.Ordered) (hls : ls ≠ []) (h : t.isMarked ls = true) :
    ∃ t', (t.removal? ls).bind (t.carryOut? ls) = some t' ∧ Erased ls t t' := by
  obtain ⟨last, hl, hv⟩ := isMarked_iff.1 h
  obtain ⟨cut, hs⟩ := exists_survey? 0 1 hl
  rw [removal?_of_survey? hs hv, Option.bind_some]
  by_cases hc : last.children = .nil
  · have hlast : last = ⟨true, .nil⟩ := by cases last; simp_all
    rw [if_pos (Forest.isEmpty_iff.2 hc)]
    rw [hlast] at hs
    obtain ⟨before, l, parent, child, hf, hcut⟩ := exists_fork_of_survey? hls hs
    obtain ⟨after, hsplit, _⟩ := hf.split
    have hcut : cut - 1 = before.length := by
      rw [hcut]; split <;> simp_all
    obtain ⟨t', hm⟩ := exists_modify? (f := (·.eraseChild l)) hf.at_parent
    refine ⟨t', ?_, hf.erased ht hm⟩
    simp [carryOut?, hcut, hsplit, hm]
  · rw [if_neg fun e => hc (Forest.isEmpty_iff.1 e)]
    obtain ⟨t', hm⟩ := exists_modify? (f := fun last => { last with value := false }) hl
    exact ⟨t', hm, erased_unmark ht hl hc hm⟩

end Node

namespace Trie

variable {t u : Trie} {topic other : String}

structure Valid (t : Trie) : Prop where
  ordered : t.root.children.Ordered
  pruned : t.root.children.Pruned
  /-- Every topic has a level, so that none ends at the root. -/
  unmarked : t.root.value = false
  levels : ∀ w ∈ t.root.walks id, Topic.levels (Topic.ofLevels w) = w
  size : t.size = (t.root.walks id).length

namespace Valid

theorem empty : (∅ : Trie).Valid :=
  ⟨trivial, trivial, rfl, fun _ h => (nomatch h), rfl⟩

theorem mem_walks (ht : t.Valid) : Topic.levels topic ∈ t.root.walks id ↔ t.contains topic = true :=
  Node.mem_walks_iff_isMarked ht.ordered

theorem mem_toList (ht : t.Valid) : topic ∈ t.toList ↔ t.contains topic = true := by
  rw [← ht.mem_walks]
  unfold toList
  constructor
  · intro h
    obtain ⟨w, hw, rfl⟩ := List.mem_map.1 h
    rwa [ht.levels w hw]
  · intro h
    exact List.mem_map.2 ⟨_, h, Topic.ofLevels_levels topic⟩

theorem nodup_toList (ht : t.Valid) : t.toList.Nodup := by
  refine List.Nodup.map_on (fun v hv w hw e => ?_) (Node.nodup_walks ht.ordered)
  rw [← ht.levels v hv, ← ht.levels w hw, e]

theorem length_toList (ht : t.Valid) : t.toList.length = t.size := by
  unfold toList
  rw [List.length_map, ht.size]

end Valid

@[simp]
theorem contains_empty : (∅ : Trie).contains topic = false := by
  unfold contains
  cases h : Topic.levels topic with
  | nil => rfl
  | cons l ls => rw [Node.isMarked_cons]; rfl

/-! ## Inserting -/

theorem insert_root : (t.insert topic).2.root = t.root.mark (Topic.levels topic) := by
  unfold insert; split <;> rfl

theorem size_insert (t : Trie) (topic : String) :
    (t.insert topic).2.size = if t.contains topic then t.size else t.size + 1 := by
  unfold insert
  split <;> rfl

theorem contains_insert :
    (t.insert topic).2.contains other = true ↔ other = topic ∨ t.contains other = true := by
  unfold contains
  rw [insert_root, Node.isMarked_mark]
  refine or_congr_left ⟨fun h => ?_, fun h => congrArg _ h⟩
  rw [← Topic.ofLevels_levels other, h, Topic.ofLevels_levels]

theorem Valid.insert (ht : t.Valid) : (t.insert topic).2.Valid := by
  have ordered : (t.root.mark (Topic.levels topic)).children.Ordered := Node.ordered_mark ht.ordered
  have mem : ∀ w, w ∈ (t.root.mark (Topic.levels topic)).walks id ↔
      w = Topic.levels topic ∨ w ∈ t.root.walks id := fun w => by
    rw [Node.mem_walks_iff_isMarked ordered, Node.isMarked_mark,
      Node.mem_walks_iff_isMarked ht.ordered]
  have nodup : ((t.root.mark (Topic.levels topic)).walks id).Nodup := Node.nodup_walks ordered
  have nodup' : (t.root.walks id).Nodup := Node.nodup_walks ht.ordered
  refine ⟨?_, ?_, ?_, fun w hw => ?_, ?_⟩
  · rw [insert_root]; exact ordered
  · rw [insert_root]; exact Node.pruned_mark ht.pruned
  · rw [insert_root, Node.value_mark (Topic.levels_ne_nil topic)]; exact ht.unmarked
  · rw [insert_root, mem] at hw
    rcases hw with rfl | hw
    · rw [Topic.ofLevels_levels]
    · exact ht.levels w hw
  · rw [insert_root]
    cases h : t.contains topic with
    | true =>
      have hperm : ((t.root.mark (Topic.levels topic)).walks id).Perm (t.root.walks id) := by
        refine (List.perm_ext_iff_of_nodup nodup nodup').2 fun w => ?_
        rw [mem]
        refine or_iff_right_of_imp ?_
        rintro rfl
        exact ht.mem_walks.2 h
      rw [hperm.length_eq, ← ht.size, Trie.insert, h]; rfl
    | false =>
      have hnew : Topic.levels topic ∉ t.root.walks id := fun e => by
        rw [ht.mem_walks, h] at e; cases e
      have hperm : ((t.root.mark (Topic.levels topic)).walks id).Perm
          (Topic.levels topic :: t.root.walks id) := by
        refine (List.perm_ext_iff_of_nodup nodup (List.nodup_cons.2 ⟨hnew, nodup'⟩)).2 fun w => ?_
        rw [mem, List.mem_cons]
      rw [hperm.length_eq, List.length_cons, ← ht.size, Trie.insert, h]; rfl

/-! ## Erasing -/

theorem size_erase_le (t : Trie) (topic : String) : (t.erase topic).2.size ≤ t.size := by
  unfold erase
  dsimp only
  split
  · exact Nat.sub_le ..
  · exact Nat.le_refl _

theorem Valid.erase_cases (ht : t.Valid) (topic : String) :
    (t.contains topic = false ∧ t.erase topic = (false, t)) ∨
      ∃ root, t.contains topic = true ∧ t.erase topic = (true, ⟨root, t.size - 1⟩) ∧
        Node.Erased (Topic.levels topic) t.root root := by
  cases h : t.contains topic with
  | false =>
    refine .inl ⟨rfl, ?_⟩
    dsimp only [erase]
    rw [Node.removal?_eq_none h]; rfl
  | true =>
    obtain ⟨root, hr, he⟩ := Node.exists_erased ht.ordered (Topic.levels_ne_nil topic) h
    refine .inr ⟨root, rfl, ?_, he⟩
    dsimp only [erase]
    rw [hr]

theorem Valid.size_erase (ht : t.Valid) (h : t.contains topic = true) :
    (t.erase topic).2.size + 1 = t.size := by
  have positive : 0 < t.size := by
    rw [← ht.length_toList]
    exact List.length_pos_of_mem (ht.mem_toList.2 h)
  rcases ht.erase_cases topic with ⟨absent, -⟩ | ⟨root, -, e, -⟩
  · cases h.symm.trans absent
  · rw [e]
    exact Nat.sub_add_cancel positive

theorem Valid.contains_erase (ht : t.Valid) :
    (t.erase topic).2.contains other = true ↔ other ≠ topic ∧ t.contains other = true := by
  rcases ht.erase_cases topic with ⟨h, e⟩ | ⟨root, h, e, he⟩
  · rw [e]
    refine (and_iff_right_of_imp ?_).symm
    rintro ho rfl
    rw [h] at ho; cases ho
  · rw [e]
    unfold contains
    rw [he.isMarked, and_comm]
    refine and_congr_left' ⟨fun hne e => hne (congrArg _ e), fun hne e => hne ?_⟩
    rw [← Topic.ofLevels_levels other, e, Topic.ofLevels_levels]

theorem Valid.erase (ht : t.Valid) : (t.erase topic).2.Valid := by
  rcases ht.erase_cases topic with ⟨_, e⟩ | ⟨root, h, e, he⟩
  · rw [e]; exact ht
  · rw [e]
    have mem : ∀ w, w ∈ root.walks id ↔ w ∈ t.root.walks id ∧ w ≠ Topic.levels topic := fun w => by
      rw [Node.mem_walks_iff_isMarked he.ordered, he.isMarked,
        Node.mem_walks_iff_isMarked ht.ordered]
    have hperm : (t.root.walks id).Perm (Topic.levels topic :: root.walks id) := by
      refine (List.perm_ext_iff_of_nodup (Node.nodup_walks ht.ordered) (List.nodup_cons.2
        ⟨fun hw => ((mem _).1 hw).2 rfl, Node.nodup_walks he.ordered⟩)).2 fun w => ?_
      rw [List.mem_cons, mem]
      constructor
      · exact fun hw => or_iff_not_imp_left.2 fun hne => ⟨hw, hne⟩
      · rintro (rfl | hw)
        · exact ht.mem_walks.2 h
        · exact hw.1
    refine ⟨he.ordered, he.pruned ht.pruned, ?_, fun w hw => ht.levels w ((mem w).1 hw).1, ?_⟩
    · have := (he.isMarked []).not
      simp only [Node.isMarked_nil, ht.unmarked] at this
      simpa using this
    · have := hperm.length_eq
      rw [← ht.size, List.length_cons] at this
      exact Nat.sub_eq_of_eq_add this

/-! ## Extensionality -/

/-- Valid tries that hold the same topics are equal, whatever made them. -/
theorem Valid.ext (ht : t.Valid) (hu : u.Valid)
    (h : ∀ topic, t.contains topic = true ↔ u.contains topic = true) : t = u := by
  have mem : ∀ w, w ∈ t.root.walks id ↔ w ∈ u.root.walks id := fun w => by
    constructor
    · intro hw
      have e := ht.levels w hw
      rw [← e] at hw ⊢
      exact hu.mem_walks.2 ((h _).1 (ht.mem_walks.1 hw))
    · intro hw
      have e := hu.levels w hw
      rw [← e] at hw ⊢
      exact ht.mem_walks.2 ((h _).2 (hu.mem_walks.1 hw))
  have children : t.root.children = u.root.children := by
    refine Forest.ext_walks ht.ordered hu.ordered ht.pruned hu.pruned ?_
    rintro (_ | ⟨n, w⟩)
    · exact iff_of_false Forest.nil_notMem_walks Forest.nil_notMem_walks
    · simpa using mem (n :: w)
  have root : t.root = u.root := by
    have hv := ht.unmarked.trans hu.unmarked.symm
    cases hr : t.root; cases hr' : u.root
    simp_all
  have size : t.size = u.size := by rw [ht.size, hu.size, root]
  cases t; cases u
  simp_all

end Trie

end Retained
