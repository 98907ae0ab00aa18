import Retained.Proofs.Topic.Trie
import Retained.Topic.Filter

/-!
# Filters as sets of topics

`Topic.Matches` is decided by a recursion over both lists of levels. `Trie.matching` answers a
filter by the stored topics that it matches, each of them once (`Valid.mem_matching`,
`Valid.nodup_matching`). Both facts follow the recursion of `Node.matching` over the levels of the
filter.
-/

namespace Retained

namespace Topic

variable {p l : String} {ps ls : List String}

theorem matches_nil_iff : Matches [] ls ↔ ls = [] := by
  constructor
  · rintro ⟨⟩
    rfl
  · rintro rfl
    exact .nil

theorem matches_multi : Matches [multiLevelWildcard] ls := .further ls

/-- No topic ends before the filter, unless all that is left of the filter is a number sign. -/
theorem matches_cons_nil_iff : Matches (p :: ps) [] ↔ p = multiLevelWildcard ∧ ps = [] := by
  constructor
  · rintro ⟨⟩
    exact ⟨rfl, rfl⟩
  · rintro ⟨rfl, rfl⟩
    exact matches_multi

theorem matches_cons_cons_iff : Matches (p :: ps) (l :: ls) ↔
    (p = multiLevelWildcard ∧ ps = []) ∨
      (p = singleLevelWildcard ∨ p = l) ∧ Matches ps ls := by
  constructor
  · intro h
    cases h with
    | further => exact .inl ⟨rfl, rfl⟩
    | one _ h => exact .inr ⟨.inl rfl, h⟩
    | same _ h => exact .inr ⟨.inr rfl, h⟩
  · rintro (⟨rfl, rfl⟩ | ⟨rfl | rfl, h⟩)
    · exact matches_multi
    · exact .one l h
    · exact .same p h

instance decidableMatches : (ps ls : List String) → Decidable (Matches ps ls)
  | [], _ => decidable_of_iff _ matches_nil_iff.symm
  | _ :: _, [] => decidable_of_iff _ matches_cons_nil_iff.symm
  | _ :: ps, _ :: ls =>
    have := decidableMatches ps ls
    decidable_of_iff _ matches_cons_cons_iff.symm

end Topic

open Topic

namespace Node

variable {t c : Node Bool} {p l : String} {ps w : List String}

/-! ## What a node answers -/

theorem nil_notMem_matching (multi : ¬ (p = multiLevelWildcard ∧ ps = [])) :
    [] ∉ t.matching (p :: ps) := by
  rw [matching, if_neg multi]
  split
  · simp
  · split <;> simp

/-- An answer goes on from a child that the first level of the filter stands for. -/
theorem cons_mem_matching (ht : t.children.Ordered)
    (multi : ¬ (p = multiLevelWildcard ∧ ps = [])) :
    l :: w ∈ t.matching (p :: ps) ↔ (p = singleLevelWildcard ∨ p = l) ∧
      ∃ c, t.children.find? l = some c ∧ w ∈ c.matching ps := by
  rw [matching, if_neg multi]
  split
  · next single =>
    simp only [List.mem_flatMap, Prod.exists, List.mem_map, List.cons.injEq, ht.mem_toList, single,
      true_or, true_and]
    constructor
    · rintro ⟨m, c, hc, v, hv, rfl, rfl⟩
      exact ⟨c, hc, hv⟩
    · rintro ⟨c, hc, hw⟩
      exact ⟨l, c, hc, w, hw, rfl, rfl⟩
  · next single =>
    rw [or_iff_right single]
    split
    · next c hc =>
      simp only [List.mem_map, List.cons.injEq]
      constructor
      · rintro ⟨v, hv, rfl, rfl⟩
        exact ⟨rfl, c, hc, hv⟩
      · rintro ⟨rfl, c', hc', hw⟩
        obtain rfl : c = c' := Option.some.inj (hc.symm.trans hc')
        exact ⟨w, hw, rfl, rfl⟩
    · next hc =>
      refine iff_of_false List.not_mem_nil ?_
      rintro ⟨rfl, c, hc', _⟩
      rw [hc] at hc'
      cases hc'

/-- A walk is answered if it ends at a mark and the filter matches it. -/
theorem mem_matching (ht : t.children.Ordered) :
    w ∈ t.matching ps ↔ t.isMarked w = true ∧ Matches ps w := by
  induction ps generalizing t w with
  | nil =>
    rw [matching, matches_nil_iff]
    cases h : t.value with
    | false => simpa using fun hm e => by simp [e, h] at hm
    | true => simpa using fun e => by simp [e, h]
  | cons p ps ih =>
    by_cases multi : p = multiLevelWildcard ∧ ps = []
    · obtain ⟨rfl, rfl⟩ := multi
      rw [matching, if_pos ⟨rfl, rfl⟩, mem_walks_iff_isMarked ht, and_iff_left matches_multi]
    cases w with
    | nil =>
      exact iff_of_false (nil_notMem_matching multi) fun h => multi (matches_cons_nil_iff.1 h.2)
    | cons l w =>
      rw [cons_mem_matching ht multi, matches_cons_cons_iff, or_iff_right multi, isMarked_cons]
      constructor
      · rintro ⟨here, c, hc, hw⟩
        obtain ⟨marked, rest⟩ := (ih (ht.child hc)).1 hw
        exact ⟨by rw [hc]; exact marked, here, rest⟩
      · rintro ⟨marked, here, rest⟩
        obtain ⟨c, hc, marked⟩ := Option.any_eq_true _ _ |>.1 marked
        exact ⟨here, c, hc, (ih (ht.child hc)).2 ⟨marked, rest⟩⟩

theorem nodup_matching (ht : t.children.Ordered) : (t.matching ps).Nodup := by
  induction ps generalizing t with
  | nil => rw [matching]; split <;> simp
  | cons p ps ih =>
    have below {l : String} {c : Node Bool} (hc : t.children.find? l = some c) :
        ((c.matching ps).map (l :: ·)).Nodup := (ih (ht.child hc)).map List.cons_injective
    rw [matching]
    split
    · exact nodup_walks ht
    split
    · refine List.nodup_flatMap.2 ⟨fun q hq => below (ht.mem_toList.1 hq), ?_⟩
      -- answers by way of different children differ in their first level
      have names : t.children.toList.Pairwise fun q q' => q.1 ≠ q'.1 := by
        rw [← List.pairwise_map, Forest.map_fst_toList]
        exact ht.nodup_names
      refine names.imp fun hne w hw hw' => ?_
      obtain ⟨v, _, rfl⟩ := List.mem_map.1 hw
      obtain ⟨v', _, e⟩ := List.mem_map.1 hw'
      exact hne (List.cons.inj e).1.symm
    · split
      · next hc => exact below hc
      · exact List.nodup_nil

end Node

namespace Trie

variable {t : Trie} {topic filter : String}

/-- A trie answers a filter by the stored topics that it matches, and the empty filter by none. -/
theorem Valid.mem_matching (ht : t.Valid) : topic ∈ t.matching filter ↔
    filter ≠ "" ∧ t.contains topic = true ∧ Matches (Topic.levels filter) (Topic.levels topic) := by
  unfold matching
  split
  · next e => simp [e]
  · next e =>
    simp only [List.mem_map, Node.mem_matching ht.ordered, ne_eq, e, not_false_eq_true, true_and]
    constructor
    · rintro ⟨w, ⟨marked, matched⟩, rfl⟩
      have hw := ht.levels w ((Node.mem_walks_iff_isMarked ht.ordered).2 marked)
      unfold contains
      rw [hw]
      exact ⟨marked, matched⟩
    · exact fun h => ⟨Topic.levels topic, h, ofLevels_levels topic⟩

theorem Valid.nodup_matching (ht : t.Valid) : (t.matching filter).Nodup := by
  unfold matching
  split
  · exact List.nodup_nil
  · refine List.Nodup.map_on (fun v hv w hw e => ?_) (Node.nodup_matching ht.ordered)
    have walk : ∀ {u}, u ∈ t.root.matching (Topic.levels filter) →
        Topic.levels (ofLevels u) = u := fun hu =>
      ht.levels _ ((Node.mem_walks_iff_isMarked ht.ordered).2 ((Node.mem_matching ht.ordered).1 hu).1)
    rw [← walk hv, ← walk hw, e]

end Trie

end Retained
