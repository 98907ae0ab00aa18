import Mathlib.Data.List.Nodup
import Mathlib.Data.String.Basic
import Retained.Tree

/-!
# Ordered trees

`Forest.Ordered`: the children of every node stand in increasing order of name, so that a walk
leads to at most one place. What `insert`, `erase` and `modify?` do is said by `find?` and `at?`,
and a walk is listed by `walks` exactly if `at?` finds a kept value at its end. `Forest.Pruned`:
every node has a mark at or below it. An ordered and pruned forest is told by its marked walks
alone (`ext_walks`).
-/

namespace Retained

/-- A node that is marked or has something below it. -/
def Node.Alive (t : Node Bool) : Prop := t.value = true ∨ t.children ≠ .nil

namespace Forest

variable {α : Type} {f g : Forest α} {n m : String} {t u : Node α}

def names : Forest α → List String
  | nil => []
  | branch n _ _ r => n :: r.names

/-- The children of every node stand in increasing order of name. -/
def Ordered : Forest α → Prop
  | nil => True
  | branch n _ c r => c.Ordered ∧ r.Ordered ∧ ∀ m ∈ r.names, n < m

instance : (f : Forest α) → Decidable f.Ordered
  | nil => isTrue trivial
  | branch n _ c r =>
    have : Decidable c.Ordered := instDecidableOrdered c
    have : Decidable r.Ordered := instDecidableOrdered r
    inferInstanceAs (Decidable (c.Ordered ∧ r.Ordered ∧ ∀ m ∈ r.names, n < m))

/-! ## Finding -/

@[simp]
theorem find?_nil : (nil : Forest α).find? n = none := rfl

theorem mem_names_of_find? (h : f.find? n = some t) : n ∈ f.names := by
  induction f with
  | nil => cases h
  | branch m v c r _ ihr =>
    unfold find? at h
    split at h
    · next e => rw [e]; exact List.mem_cons_self ..
    · exact List.mem_cons_of_mem _ (ihr h)

theorem exists_find? (h : n ∈ f.names) : ∃ t, f.find? n = some t := by
  induction f with
  | nil => cases h
  | branch m v c r _ ihr =>
    unfold find?
    by_cases e : n = m
    · rw [if_pos e]; exact ⟨_, rfl⟩
    · rw [if_neg e]
      exact ihr ((List.mem_cons.1 h).resolve_left e)

theorem find?_eq_none (h : n ∉ f.names) : f.find? n = none := by
  cases e : f.find? n with
  | none => rfl
  | some t => exact absurd (mem_names_of_find? e) h

theorem Ordered.child (hf : f.Ordered) (h : f.find? n = some t) : t.children.Ordered := by
  induction f with
  | nil => cases h
  | branch m v c r _ ihr =>
    obtain ⟨hc, hr, _⟩ := hf
    unfold find? at h
    split at h
    · cases h; exact hc
    · exact ihr hr h

@[simp]
theorem isEmpty_iff : f.isEmpty = true ↔ f = nil := by
  cases f <;> simp [isEmpty]

/-! ## Children -/

theorem map_fst_toList : f.toList.map Prod.fst = f.names := by
  induction f with
  | nil => rfl
  | branch m v c r _ ihr => rw [toList, List.map_cons, ihr, names]

theorem Ordered.nodup_names (hf : f.Ordered) : f.names.Nodup := by
  induction f with
  | nil => exact List.nodup_nil
  | branch m v c r _ ihr =>
    obtain ⟨_, hr, hlt⟩ := hf
    exact List.nodup_cons.2 ⟨fun h => lt_irrefl m (hlt m h), ihr hr⟩

/-- `toList` lists what `find?` finds. -/
theorem Ordered.mem_toList (hf : f.Ordered) : (n, t) ∈ f.toList ↔ f.find? n = some t := by
  induction f with
  | nil => simp [toList]
  | branch m v c r _ ihr =>
    obtain ⟨_, hr, hlt⟩ := hf
    rw [toList, List.mem_cons, ihr hr, find?]
    by_cases e : n = m
    · subst e
      have hn : r.find? n = none := find?_eq_none fun h => lt_irrefl n (hlt n h)
      simp [hn, eq_comm]
    · simp [e]

/-! ## Inserting -/

theorem find?_insert : (f.insert n t).find? m = if m = n then some t else f.find? m := by
  induction f with
  | nil => simp only [insert, find?]
  | branch k v c r _ ihr =>
    unfold insert
    by_cases e : n = k
    · subst e
      simp only [↓reduceIte, find?]
      split <;> rfl
    · rw [if_neg e]
      by_cases l : n < k
      · rw [if_pos l]; rfl
      · rw [if_neg l, find?, find?, ihr]
        by_cases h : m = n
        · subst h; simp [e]
        · simp [h]

theorem mem_names_insert : m ∈ (f.insert n t).names ↔ m = n ∨ m ∈ f.names := by
  constructor
  · intro h
    obtain ⟨u, hu⟩ := exists_find? h
    rw [find?_insert] at hu
    split at hu
    · next e => exact .inl e
    · exact .inr (mem_names_of_find? hu)
  · intro h
    have hs : ∃ u, (f.insert n t).find? m = some u := by
      rw [find?_insert]
      by_cases e : m = n
      · exact ⟨t, if_pos e⟩
      · rw [if_neg e]; exact exists_find? (h.resolve_left e)
    exact mem_names_of_find? hs.choose_spec

theorem Ordered.insert (hf : f.Ordered) (ht : t.children.Ordered) : (f.insert n t).Ordered := by
  induction f with
  | nil => exact ⟨ht, trivial, fun _ h => by cases h⟩
  | branch k v c r _ ihr =>
    obtain ⟨hc, hr, hlt⟩ := hf
    unfold Forest.insert
    by_cases e : n = k
    · subst e; rw [if_pos rfl]; exact ⟨ht, hr, hlt⟩
    · rw [if_neg e]
      by_cases l : n < k
      · rw [if_pos l]
        refine ⟨ht, ⟨hc, hr, hlt⟩, fun m hm => ?_⟩
        rcases List.mem_cons.1 hm with rfl | hm
        · exact l
        · exact lt_trans l (hlt m hm)
      · rw [if_neg l]
        refine ⟨hc, ihr hr, fun m hm => ?_⟩
        rcases mem_names_insert.1 hm with rfl | hm
        · exact lt_of_le_of_ne (not_lt.1 l) (Ne.symm e)
        · exact hlt m hm

/-! ## Erasing -/

theorem mem_names_of_mem_erase (h : m ∈ (f.erase n).names) : m ∈ f.names := by
  induction f with
  | nil => exact h
  | branch k v c r _ ihr =>
    unfold erase at h
    split at h
    · exact List.mem_cons_of_mem _ h
    · rcases List.mem_cons.1 h with rfl | h
      · exact List.mem_cons_self ..
      · exact List.mem_cons_of_mem _ (ihr h)

theorem find?_erase_ne (h : m ≠ n) : (f.erase n).find? m = f.find? m := by
  induction f with
  | nil => rfl
  | branch k v c r _ ihr =>
    unfold erase
    by_cases e : n = k
    · subst e; rw [if_pos rfl, find?, if_neg h]
    · rw [if_neg e, find?, find?, ihr]

theorem Ordered.find?_erase_self (hf : f.Ordered) : (f.erase n).find? n = none := by
  induction f with
  | nil => rfl
  | branch k v c r _ ihr =>
    obtain ⟨_, hr, hlt⟩ := hf
    unfold erase
    by_cases e : n = k
    · subst e
      rw [if_pos rfl]
      exact find?_eq_none fun hn => lt_irrefl n (hlt n hn)
    · rw [if_neg e, find?, if_neg e, ihr hr]

theorem Ordered.find?_erase (hf : f.Ordered) :
    (f.erase n).find? m = if m = n then none else f.find? m := by
  by_cases e : m = n
  · subst e; rw [if_pos rfl, hf.find?_erase_self]
  · rw [if_neg e, find?_erase_ne e]

theorem Ordered.erase (hf : f.Ordered) : (f.erase n).Ordered := by
  induction f with
  | nil => exact hf
  | branch k v c r _ ihr =>
    obtain ⟨hc, hr, hlt⟩ := hf
    unfold Forest.erase
    by_cases e : n = k
    · rw [if_pos e]; exact hr
    · rw [if_neg e]
      exact ⟨hc, ihr hr, fun m hm => hlt m (mem_names_of_mem_erase hm)⟩

/-! ## Walks -/

variable {keep : α → Bool} {w ns : List String}

theorem mem_walks_branch {v : α} {c r : Forest α} :
    m :: w ∈ (branch n v c r).walks keep ↔
      (m = n ∧ w ∈ (Node.mk v c).walks keep) ∨ m :: w ∈ r.walks keep := by
  rw [walks, Node.walks]
  by_cases e : m = n
  · subst e; cases keep v <;> simp [or_assoc]
  · cases keep v <;> simp [e, Ne.symm e]

theorem ne_nil_of_mem_walks (h : w ∈ f.walks keep) : w ≠ [] := by
  induction f with
  | nil => cases h
  | branch n v c r _ ihr =>
    simp only [walks, List.mem_append, List.mem_map] at h
    rcases h with (h | ⟨ns, _, rfl⟩) | h
    · split at h
      · rw [List.mem_singleton.1 h]; simp
      · cases h
    · simp
    · exact ihr h

@[simp]
theorem nil_notMem_walks : [] ∉ f.walks keep := fun h => ne_nil_of_mem_walks h rfl

@[simp]
theorem nil_mem_node_walks : [] ∈ t.walks keep ↔ keep t.value = true := by
  cases e : keep t.value <;> simp [Node.walks, e]

@[simp]
theorem cons_mem_node_walks : m :: w ∈ t.walks keep ↔ m :: w ∈ t.children.walks keep := by
  cases e : keep t.value <;> simp [Node.walks, e]

theorem mem_names_of_mem_walks (h : m :: w ∈ f.walks keep) : m ∈ f.names := by
  induction f with
  | nil => cases h
  | branch n v c r _ ihr =>
    rcases mem_walks_branch.1 h with ⟨rfl, _⟩ | h
    · exact List.mem_cons_self ..
    · exact List.mem_cons_of_mem _ (ihr h)

/-- A walk through a forest goes on from the child that it names first. -/
theorem Ordered.mem_walks (hf : f.Ordered) :
    m :: w ∈ f.walks keep ↔ ∃ t, f.find? m = some t ∧ w ∈ t.walks keep := by
  induction f with
  | nil => simp [walks]
  | branch n v c r _ ihr =>
    obtain ⟨_, hr, hlt⟩ := hf
    rw [mem_walks_branch, find?]
    by_cases e : m = n
    · subst e
      have hm : m :: w ∉ r.walks keep := fun h => lt_irrefl m (hlt m (mem_names_of_mem_walks h))
      simp [hm]
    · simp only [e, false_and, false_or, if_false]
      exact ihr hr

/-- There is one walk to each node. -/
theorem size_eq_length_walks (f : Forest α) : f.size = (f.walks fun _ => true).length := by
  induction f with
  | nil => rfl
  | branch n v c r ihc ihr =>
    rw [size, walks, if_pos rfl, List.length_append, List.length_append, List.length_map, ihc, ihr]
    rfl

theorem Ordered.nodup_walks (hf : f.Ordered) : (f.walks keep).Nodup := by
  induction f with
  | nil => exact List.nodup_nil
  | branch n v c r ihc ihr =>
    obtain ⟨hc, hr, hlt⟩ := hf
    have here : ((if keep v then [[n]] else []) ++ (c.walks keep).map (n :: ·)).Nodup := by
      refine List.nodup_append.2 ⟨by split <;> simp, List.Nodup.map List.cons_injective (ihc hc), ?_⟩
      rintro a ha b hb rfl
      obtain ⟨ns, hns, rfl⟩ := List.mem_map.1 hb
      split at ha
      · exact ne_nil_of_mem_walks hns (by simpa using ha)
      · cases ha
    refine List.nodup_append.2 ⟨here, ihr hr, ?_⟩
    -- a walk listed before those of `r` begins with `n`, and `r` has no such name
    rintro a ha b hb rfl
    have hn : ∃ ns, a = n :: ns := by
      rcases List.mem_append.1 ha with ha | ha
      · split at ha
        · exact ⟨[], List.mem_singleton.1 ha⟩
        · cases ha
      · obtain ⟨ns, _, rfl⟩ := List.mem_map.1 ha
        exact ⟨ns, rfl⟩
    obtain ⟨ns, rfl⟩ := hn
    exact lt_irrefl n (hlt n (mem_names_of_mem_walks hb))

/-! ## Pruned forests -/

/-- Every node has a mark at or below it. -/
def Pruned : Forest Bool → Prop
  | nil => True
  | branch _ v c r => (Node.mk v c).Alive ∧ c.Pruned ∧ r.Pruned

theorem Pruned.exists_walk {f : Forest Bool} (hf : f.Pruned) (h : n ∈ f.names) :
    ∃ w, n :: w ∈ f.walks id := by
  induction f generalizing n with
  | nil => cases h
  | branch m v c r ihc ihr =>
    obtain ⟨hm, hc, hr⟩ := hf
    rcases List.mem_cons.1 h with rfl | h
    · rcases hm with rfl | hm
      · exact ⟨[], mem_walks_branch.2 (.inl ⟨rfl, by simp [Node.walks]⟩)⟩
      · cases c with
        | nil => exact absurd rfl hm
        | branch k _ _ _ =>
          obtain ⟨w, hw⟩ := ihc hc (List.mem_cons_self ..)
          exact ⟨k :: w, mem_walks_branch.2 (.inl ⟨rfl, List.mem_append_right _ hw⟩)⟩
    · obtain ⟨w, hw⟩ := ihr hr h
      exact ⟨w, mem_walks_branch.2 (.inr hw)⟩

theorem Pruned.child {f : Forest Bool} {t : Node Bool} (hf : f.Pruned) (h : f.find? n = some t) :
    t.Alive ∧ t.children.Pruned := by
  induction f with
  | nil => cases h
  | branch m v c r _ ihr =>
    obtain ⟨hm, hc, hr⟩ := hf
    unfold find? at h
    split at h
    · cases h; exact ⟨hm, hc⟩
    · exact ihr hr h

theorem Pruned.insert {f : Forest Bool} {t : Node Bool} (hf : f.Pruned) (ha : t.Alive)
    (ht : t.children.Pruned) : (f.insert n t).Pruned := by
  induction f with
  | nil => exact ⟨ha, ht, trivial⟩
  | branch m v c r _ ihr =>
    unfold Forest.insert
    split
    · exact ⟨ha, ht, hf.2.2⟩
    · split
      · exact ⟨ha, ht, hf⟩
      · exact ⟨hf.1, hf.2.1, ihr hf.2.2⟩

theorem Pruned.erase {f : Forest Bool} (hf : f.Pruned) : (f.erase n).Pruned := by
  induction f with
  | nil => exact hf
  | branch m v c r _ ihr =>
    unfold Forest.erase
    split
    · exact hf.2.2
    · exact ⟨hf.1, hf.2.1, ihr hf.2.2⟩

theorem insert_ne_nil : f.insert n t ≠ nil := by
  intro h
  have hn : n ∈ (f.insert n t).names := mem_names_insert.2 (.inl rfl)
  rw [h] at hn
  cases hn

theorem Pruned.mem_names {f : Forest Bool} (hf : f.Pruned) :
    n ∈ f.names ↔ ∃ w, n :: w ∈ f.walks id :=
  ⟨hf.exists_walk, fun ⟨_, hw⟩ => mem_names_of_mem_walks hw⟩

/-- An ordered and pruned forest is told by its marked walks alone. -/
theorem ext_walks {f g : Forest Bool} (hf : f.Ordered) (hg : g.Ordered) (pf : f.Pruned)
    (pg : g.Pruned) (h : ∀ w, w ∈ f.walks id ↔ w ∈ g.walks id) : f = g := by
  induction f generalizing g with
  | nil =>
    cases g with
    | nil => rfl
    | branch m _ _ _ =>
      obtain ⟨w, hw⟩ := pg.exists_walk (List.mem_cons_self ..)
      cases (h _).2 hw
  | branch n v c r ihc ihr =>
    have names : ∀ k, k ∈ (branch n v c r).names ↔ k ∈ g.names := fun k => by
      rw [pf.mem_names, pg.mem_names]; simp only [h]
    cases g with
    | nil => cases (names n).1 (List.mem_cons_self ..)
    | branch m v' c' r' =>
      -- the first name is the least one on both sides
      have first : n = m := by
        rcases List.mem_cons.1 ((names n).1 (List.mem_cons_self ..)) with e | hn
        · exact e
        · rcases List.mem_cons.1 ((names m).2 (List.mem_cons_self ..)) with e | hm
          · exact e.symm
          · exact absurd (hg.2.2 n hn) (lt_asymm (hf.2.2 m hm))
      subst first
      have mem_c : ∀ w, w ∈ (Node.mk v c).walks id ↔ w ∈ (Node.mk v' c').walks id := by
        intro w
        have := h (n :: w)
        rw [hf.mem_walks, hg.mem_walks] at this
        simpa [find?] using this
      have mem_r : ∀ w, w ∈ r.walks id ↔ w ∈ r'.walks id := by
        rintro (_ | ⟨k, w⟩)
        · exact iff_of_false nil_notMem_walks nil_notMem_walks
        · by_cases e : k = n
          · subst e
            exact iff_of_false (fun hw => lt_irrefl k (hf.2.2 k (mem_names_of_mem_walks hw)))
              fun hw => lt_irrefl k (hg.2.2 k (mem_names_of_mem_walks hw))
          · have := h (k :: w)
            simpa only [mem_walks_branch, e, false_and, false_or] using this
      have hv : v = v' := by
        have := mem_c []
        simp only [nil_mem_node_walks, id_eq] at this
        exact Bool.eq_iff_iff.2 this
      have hc : c = c' := by
        refine ihc hf.1 hg.1 pf.2.1 pg.2.1 ?_
        rintro (_ | ⟨k, w⟩)
        · exact iff_of_false nil_notMem_walks nil_notMem_walks
        · simpa using mem_c (k :: w)
      rw [hv, hc, ihr hf.2.1 hg.2.1 pf.2.2 pg.2.2 mem_r]

end Forest

namespace Node

variable {α : Type} {t t' u : Node α} {n m : String} {ns w : List String} {keep : α → Bool}
  {f : Node α → Node α}

@[simp]
theorem at?_nil : t.at? [] = some t := rfl

theorem at?_cons : t.at? (n :: ns) = (t.children.find? n).bind (at? ns) := rfl

theorem at?_append : t.at? (ns ++ w) = (t.at? ns).bind (at? w) := by
  induction ns generalizing t with
  | nil => rfl
  | cons n ns ih =>
    rw [List.cons_append, at?_cons, at?_cons, Option.bind_assoc]
    exact congrArg _ (funext fun _ => ih)

theorem at?_append_some (h : t.at? ns = some u) : t.at? (ns ++ w) = u.at? w := by
  rw [at?_append, h]; rfl

theorem exists_at?_of_append (h : t.at? (ns ++ w) = some u) :
    ∃ v, t.at? ns = some v ∧ v.at? w = some u := by
  rw [at?_append] at h
  exact Option.bind_eq_some_iff.1 h

theorem at?_insertChild : (t.insertChild n u).at? (m :: w) = if m = n then u.at? w else t.at? (m :: w) := by
  rw [at?_cons, at?_cons, insertChild, Forest.find?_insert]
  split <;> rfl

theorem at?_eraseChild (ht : t.children.Ordered) :
    (t.eraseChild n).at? (m :: w) = if m = n then none else t.at? (m :: w) := by
  rw [at?_cons, at?_cons, eraseChild, ht.find?_erase]
  split <;> rfl

theorem ordered_at? (ht : t.children.Ordered) (h : t.at? ns = some u) : u.children.Ordered := by
  induction ns generalizing t with
  | nil => cases h; exact ht
  | cons n ns ih =>
    obtain ⟨c, hc, hu⟩ := Option.bind_eq_some_iff.1 h
    exact ih (ht.child hc) hu

theorem pruned_at? {t u : Node Bool} (ht : t.children.Pruned) (h : t.at? ns = some u) :
    u.children.Pruned := by
  induction ns generalizing t with
  | nil => cases h; exact ht
  | cons n ns ih =>
    obtain ⟨c, hc, hu⟩ := Option.bind_eq_some_iff.1 h
    exact ih (ht.child hc).2 hu

theorem alive_at? {t u : Node Bool} (ht : t.children.Pruned) (hns : ns ≠ [])
    (h : t.at? ns = some u) : u.Alive := by
  obtain ⟨before, n, rfl⟩ := (List.eq_nil_or_concat' ns).resolve_left hns
  obtain ⟨parent, hp, h⟩ := exists_at?_of_append h
  obtain ⟨c, hc, hu⟩ := Option.bind_eq_some_iff.1 h
  cases hu
  exact ((pruned_at? ht hp).child hc).1

theorem Alive.exists_walk {t : Node Bool} (h : t.Alive) (ht : t.children.Pruned) :
    ∃ w, w ∈ t.walks id := by
  rcases h with hv | hc
  · exact ⟨[], Forest.nil_mem_node_walks.2 hv⟩
  · cases e : t.children with
    | nil => exact absurd e hc
    | branch n v c r =>
      have hn : n ∈ t.children.names := by rw [e]; exact List.mem_cons_self ..
      obtain ⟨w, hw⟩ := ht.exists_walk hn
      exact ⟨n :: w, Forest.cons_mem_node_walks.2 hw⟩

/-- A walk is listed if it ends at a value that is kept. -/
theorem mem_walks (ht : t.children.Ordered) :
    w ∈ t.walks keep ↔ ∃ u, t.at? w = some u ∧ keep u.value = true := by
  induction w generalizing t with
  | nil => simp
  | cons n w ih =>
    rw [Forest.cons_mem_node_walks, ht.mem_walks, at?_cons]
    constructor
    · rintro ⟨c, hc, hw⟩
      rw [hc]
      exact (ih (ht.child hc)).1 hw
    · rintro ⟨u, hu, hk⟩
      obtain ⟨c, hc, hu⟩ := Option.bind_eq_some_iff.1 hu
      exact ⟨c, hc, (ih (ht.child hc)).2 ⟨u, hu, hk⟩⟩

theorem nodup_walks (ht : t.children.Ordered) : (t.walks keep).Nodup := by
  unfold walks
  cases keep t.value
  · exact ht.nodup_walks
  · exact List.nodup_cons.2 ⟨Forest.nil_notMem_walks, ht.nodup_walks⟩

/-! ## Changing what is at the end of a walk -/

theorem exists_modify? (h : t.at? ns = some u) : ∃ t', t.modify? f ns = some t' := by
  induction ns generalizing t with
  | nil => exact ⟨_, rfl⟩
  | cons n ns ih =>
    obtain ⟨c, hc, hu⟩ := Option.bind_eq_some_iff.1 h
    obtain ⟨c', hc'⟩ := ih hu
    exact ⟨t.insertChild n c', by rw [modify?, hc, Option.bind_some, hc', Option.map_some]⟩

/-- A change along a walk that begins with `n` changes the child `n` and puts it back. -/
theorem modify?_cons_eq_some (h : t.modify? f (n :: ns) = some t') :
    ∃ c c', t.children.find? n = some c ∧ c.modify? f ns = some c' ∧ t' = t.insertChild n c' := by
  obtain ⟨c, hc, h⟩ := Option.bind_eq_some_iff.1 h
  obtain ⟨c', hc', rfl⟩ := Option.map_eq_some_iff.1 h
  exact ⟨c, c', hc, hc', rfl⟩

theorem exists_at?_of_modify? (h : t.modify? f ns = some t') : ∃ u, t.at? ns = some u := by
  induction ns generalizing t t' with
  | nil => exact ⟨t, rfl⟩
  | cons n ns ih =>
    obtain ⟨c, c', hc, hc', rfl⟩ := modify?_cons_eq_some h
    obtain ⟨u, hu⟩ := ih hc'
    exact ⟨u, by rw [at?_cons, hc]; exact hu⟩

theorem at?_modify? (h : t.modify? f ns = some t') (hu : t.at? ns = some u) :
    t'.at? (ns ++ w) = (f u).at? w := by
  induction ns generalizing t t' with
  | nil => cases h; cases hu; rfl
  | cons n ns ih =>
    obtain ⟨c, c', hc, hc', rfl⟩ := modify?_cons_eq_some h
    rw [at?_cons, hc] at hu
    rw [List.cons_append, at?_insertChild, if_pos rfl]
    exact ih hc' hu

/-- A walk that turns off before the change sees nothing of it. -/
theorem at?_modify?_of_apart (h : t.modify? f ns = some t') (h1 : ¬ ns <+: w) (h2 : ¬ w <+: ns) :
    t'.at? w = t.at? w := by
  induction ns generalizing t t' w with
  | nil => exact absurd w.nil_prefix h1
  | cons n ns ih =>
    obtain ⟨c, c', hc, hc', rfl⟩ := modify?_cons_eq_some h
    cases w with
    | nil => exact absurd (List.nil_prefix) h2
    | cons m w =>
      rw [at?_insertChild]
      by_cases e : m = n
      · subst e
        rw [if_pos rfl, at?_cons, hc]
        exact ih hc' (fun hp => h1 ((List.prefix_cons_inj m).2 hp))
          fun hp => h2 ((List.prefix_cons_inj m).2 hp)
      · rw [if_neg e]

/-- Short of the change, the values stay as they are. -/
theorem value_modify? (h : t.modify? f ns = some t') (hw : ¬ ns <+: w) :
    (t'.at? w).map (·.value) = (t.at? w).map (·.value) := by
  induction ns generalizing t t' w with
  | nil => exact absurd w.nil_prefix hw
  | cons n ns ih =>
    obtain ⟨c, c', hc, hc', rfl⟩ := modify?_cons_eq_some h
    cases w with
    | nil => rfl
    | cons m w =>
      rw [at?_insertChild]
      by_cases e : m = n
      · subst e
        rw [if_pos rfl, at?_cons, hc]
        exact ih hc' fun hp => hw ((List.prefix_cons_inj m).2 hp)
      · rw [if_neg e]

theorem ordered_modify? (ht : t.children.Ordered) (h : t.modify? f ns = some t')
    (hf : ∀ u, t.at? ns = some u → (f u).children.Ordered) : t'.children.Ordered := by
  induction ns generalizing t t' with
  | nil => cases h; exact hf t rfl
  | cons n ns ih =>
    obtain ⟨c, c', hc, hc', rfl⟩ := modify?_cons_eq_some h
    refine ht.insert (ih (ht.child hc) hc' fun u hu => hf u ?_)
    rw [at?_cons, hc]; exact hu

theorem alive_insertChild {t c : Node Bool} : (t.insertChild n c).Alive := .inr Forest.insert_ne_nil

/-- A change keeps a tree pruned unless it leaves a dead node behind. -/
theorem pruned_modify? {t t' : Node Bool} {f : Node Bool → Node Bool} (ht : t.children.Pruned)
    (h : t.modify? f ns = some t')
    (hf : ∀ u, t.at? ns = some u → (f u).children.Pruned ∧ (ns ≠ [] → (f u).Alive)) :
    t'.children.Pruned := by
  induction ns generalizing t t' with
  | nil => cases h; exact (hf t rfl).1
  | cons n ns ih =>
    obtain ⟨c, c', hc, hc', rfl⟩ := modify?_cons_eq_some h
    have hf' : ∀ u, c.at? ns = some u → (f u).children.Pruned ∧ (f u).Alive := fun u hu => by
      have := hf u (by rw [at?_cons, hc]; exact hu)
      exact ⟨this.1, this.2 (List.cons_ne_nil n ns)⟩
    have pc : c'.children.Pruned :=
      ih (ht.child hc).2 hc' fun u hu => ⟨(hf' u hu).1, fun _ => (hf' u hu).2⟩
    refine ht.insert ?_ pc
    cases ns with
    | nil => cases hc'; exact (hf' c rfl).2
    | cons k ns =>
      obtain ⟨_, _, _, _, rfl⟩ := modify?_cons_eq_some hc'
      exact alive_insertChild

end Node

end Retained
