import Retained.Proofs.Store.Lockstep

/-!
# Restoring a snapshot

A snapshot lists a topic if the topic stands under its own namespace (`Snapshot.lists`). `restore`
gives a payload to the listed topics that have one (`getElem?_payloads_restore`), and an entry to
exactly the namespaces of the snapshot (`mem_tries_restore`). Since the store is in step, this
settles its tries too. A store in step comes back from its own snapshot as it was, but for the
limits (`restore_toSnapshot`). How the lists are put together otherwise, and what the store held
before, does not show in the result (`restore_congr`, `restore_exact`).
-/

namespace Retained

open Std (ExtTreeMap)

def Snapshot.lists (topic : String) (d : Snapshot) : Bool :=
  (d.namespaces[Topic.namespaceOf topic]?).any (topic ∈ ·)

namespace Store

variable {s : Store} {d : Snapshot} {ns m topic other : String} {r : Recovery} {seen : List String}

/-! ## The two halves of a recovery -/

/-- The topics met so far have moved their payloads from the snapshot into the store. -/
structure Recovery.Met (d : Snapshot) (seen : List String) (r : Recovery) : Prop where
  pending : ∀ t, r.pending[t]? = if t ∈ seen then none else d.payloads[t]?
  payloads : ∀ t, r.store.payloads[t]? = if t ∈ seen then d.payloads[t]? else none

namespace Recovery

def own (ns : String) (topics : List String) : List String :=
  topics.filter (Topic.namespaceOf · = ns)

theorem own_cons (t : String) (ts : List String) : own ns (t :: ts) = own ns [t] ++ own ns ts :=
  List.filter_append [t] ts

theorem Met.adopt (h : Met d seen r) : Met d (seen ++ own ns [topic]) (r.adopt ns topic) := by
  unfold Recovery.adopt own
  by_cases hns : Topic.namespaceOf topic = ns
  · simp only [hns, List.filter_cons, decide_true, if_true, List.filter_nil]
    have hp := h.pending topic
    cases e : r.pending[topic]? with
    | some payload =>
      rw [e] at hp
      have hs : topic ∉ seen := fun hs => by rw [if_pos hs] at hp; cases hp
      rw [if_neg hs] at hp
      refine ⟨fun t => ?_, fun t => ?_⟩
      · simp only [ExtTreeMap.getElem?_erase, Std.LawfulEqOrd.compare_eq_iff_eq, h.pending t,
          List.mem_append, List.mem_singleton]
        by_cases ht : t = topic
        · simp [ht]
        · simp [ht, Ne.symm ht]
      · simp only [file, ExtTreeMap.getElem?_insert, Std.LawfulEqOrd.compare_eq_iff_eq,
          h.payloads t, List.mem_append, List.mem_singleton]
        by_cases ht : t = topic
        · simp [ht, hp]
        · simp [ht, Ne.symm ht]
    | none =>
      -- the topic was met before, or has no payload at all
      rw [e] at hp
      refine ⟨fun t => ?_, fun t => ?_⟩
      · rw [h.pending t]
        by_cases ht : t = topic
        · subst ht; simp [← hp]
        · simp [ht]
      · rw [h.payloads t]
        by_cases ht : t = topic
        · subst ht
          by_cases hs : t ∈ seen
          · simp [hs]
          · rw [if_neg hs] at hp
            simp [hs, ← hp]
        · simp [ht]
  · simpa [hns] using h

theorem Met.adoptAll {topics : List String} (h : Met d seen r) :
    Met d (seen ++ own ns topics) (r.adoptAll ns topics) := by
  unfold Recovery.adoptAll
  replace h : Met d seen { r with store := r.store.openNamespace ns } := ⟨h.pending, h.payloads⟩
  generalize { r with store := r.store.openNamespace ns } = r at h
  induction topics generalizing r seen with
  | nil => simpa [own] using h
  | cons t ts ih =>
    rw [List.foldl_cons, own_cons, ← List.append_assoc]
    exact ih (r.adopt ns t) h.adopt

def Entered (names : List String) (r : Recovery) : Prop :=
  ∀ m, m ∈ r.store.tries ↔ m ∈ names

theorem Entered.adopt {names : List String} (h : Entered names r) (hns : ns ∈ names) :
    Entered names (r.adopt ns topic) := by
  unfold Recovery.adopt
  split
  · split
    · intro m
      rw [file, ExtTreeMap.mem_insert, Std.LawfulEqOrd.compare_eq_iff_eq, h m]
      refine or_iff_right_of_imp ?_
      rintro rfl
      exact hns
    · exact h
  · exact h

theorem Entered.adoptAll {names topics : List String} (h : Entered names r) :
    Entered (ns :: names) (r.adoptAll ns topics) := by
  have start : Entered (ns :: names) { r with store := r.store.openNamespace ns } := fun m => by
    rw [openNamespace, ExtTreeMap.mem_insertIfNew, Std.LawfulEqOrd.compare_eq_iff_eq, h m,
      List.mem_cons, eq_comm]
  exact List.foldlRecOn topics (Recovery.adopt ns) start fun _ h _ _ =>
    h.adopt (List.mem_cons_self ..)

end Recovery

open Recovery

theorem met_foldl (ps : List (String × List String)) (h : Met d seen r) :
    Met d (seen ++ ps.flatMap fun p => own p.1 p.2) (ps.foldl (fun r p => r.adoptAll p.1 p.2) r) := by
  induction ps generalizing r seen with
  | nil => simpa using h
  | cons p ps ih =>
    rw [List.foldl_cons, List.flatMap_cons, ← List.append_assoc]
    exact ih h.adoptAll

theorem entered_foldl (ps : List (String × List String)) {names : List String}
    (h : Entered names r) :
    Entered ((ps.map Prod.fst).reverse ++ names) (ps.foldl (fun r p => r.adoptAll p.1 p.2) r) := by
  induction ps generalizing r names with
  | nil => exact h
  | cons p ps ih =>
    rw [List.foldl_cons, List.map_cons, List.reverse_cons, List.append_assoc]
    exact ih h.adoptAll

/-! ## The restored store -/

theorem mem_own_iff_lists :
    topic ∈ (d.namespaces.toList.flatMap fun p => own p.1 p.2) ↔ d.lists topic = true := by
  simp only [List.mem_flatMap, own, List.mem_filter, decide_eq_true_eq, Snapshot.lists,
    Option.any_eq_true]
  constructor
  · rintro ⟨p, hp, ht, hns⟩
    exact ⟨p.2, by rw [hns]; exact ExtTreeMap.mem_toList_iff_getElem?_eq_some.1 hp, ht⟩
  · rintro ⟨topics, hg, ht⟩
    exact ⟨(_, topics), ExtTreeMap.mem_toList_iff_getElem?_eq_some.2 hg, ht, rfl⟩

theorem limits_adopt : (r.adopt ns topic).store.limits = r.store.limits := by
  unfold Recovery.adopt
  split
  · split <;> rfl
  · rfl

theorem limits_adoptAll {topics : List String} :
    (r.adoptAll ns topics).store.limits = r.store.limits := by
  unfold Recovery.adoptAll
  exact List.foldlRecOn (motive := fun r' : Recovery => r'.store.limits = r.store.limits) topics _ rfl
    fun _ h _ _ => limits_adopt.trans h

theorem limits_restore : (s.restore d).limits = s.limits := by
  unfold restore
  rw [ExtTreeMap.foldl_eq_foldl_toList]
  exact List.foldlRecOn (motive := fun r : Recovery => r.store.limits = s.limits) _ _ rfl
    fun _ h _ _ => limits_adoptAll.trans h

theorem getElem?_payloads_restore :
    (s.restore d).payloads[topic]? = if d.lists topic then d.payloads[topic]? else none := by
  unfold restore
  rw [ExtTreeMap.foldl_eq_foldl_toList]
  have start : Met d [] ⟨d.payloads, empty s.limits⟩ := ⟨fun _ => rfl, fun _ => by simp [empty]⟩
  rw [(met_foldl d.namespaces.toList start).payloads topic]
  simp only [List.nil_append, mem_own_iff_lists]

theorem mem_tries_restore : ns ∈ (s.restore d).tries ↔ ns ∈ d.namespaces := by
  unfold restore
  rw [ExtTreeMap.foldl_eq_foldl_toList]
  have start : Entered [] ⟨d.payloads, empty s.limits⟩ := fun m => by simp [empty]
  rw [entered_foldl d.namespaces.toList start ns]
  simp

theorem trie_eq_empty (h : ns ∉ s.tries) : s.trie ns = ∅ := ExtTreeMap.getD_eq_fallback h

theorem getElem?_namespaces_toSnapshot (s : Store) (ns : String) :
    s.toSnapshot.namespaces[ns]? =
      if ns ∈ s.tries then some ((s.trie ns).toList.mergeSort) else none := by
  unfold toSnapshot
  rw [ExtTreeMap.getElem?_map]
  split
  · next known => rw [ExtTreeMap.getElem?_eq_some_getD known]; rfl
  · next unknown => rw [ExtTreeMap.getElem?_eq_none unknown]; rfl

theorem InStep.lists_toSnapshot (h : s.InStep) :
    s.toSnapshot.lists topic = true ↔ topic ∈ s.payloads := by
  have held := (h.contains_iff (Topic.namespaceOf topic) topic).trans (and_iff_right rfl)
  unfold Snapshot.lists
  rw [← held, getElem?_namespaces_toSnapshot]
  split
  · rw [Option.any_some, decide_eq_true_eq, List.mem_mergeSort, (h.valid _).mem_toList]
  · next unknown =>
    rw [trie_eq_empty unknown, Trie.contains_empty]
    rfl

/-- Two stores in step with the same payloads and namespaces differ by their limits at most. -/
theorem InStep.ext {u : Store} (hs : s.InStep) (hu : u.InStep) (limits : s.limits = u.limits)
    (payloads : ∀ topic : String, s.payloads[topic]? = u.payloads[topic]?)
    (namespaces : ∀ ns, ns ∈ s.tries ↔ ns ∈ u.tries) : s = u := by
  have hp : s.payloads = u.payloads := ExtTreeMap.ext_getElem? payloads
  have htrie : ∀ ns, s.trie ns = u.trie ns := fun ns =>
    (hs.valid ns).ext (hu.valid ns) fun topic => by rw [hs.contains_iff, hu.contains_iff, hp]
  have ht : s.tries = u.tries := by
    refine ExtTreeMap.ext_getElem? fun ns => ?_
    by_cases hn : ns ∈ s.tries
    · rw [ExtTreeMap.getElem?_eq_some_getD hn, ExtTreeMap.getElem?_eq_some_getD ((namespaces ns).1 hn)]
      exact congrArg some (htrie ns)
    · rw [ExtTreeMap.getElem?_eq_none hn, ExtTreeMap.getElem?_eq_none (hn ∘ (namespaces ns).2)]
  cases s; cases u
  simp_all

theorem InStep.withLimits (h : s.InStep) (limits : Limits) : { s with limits }.InStep :=
  ⟨h.valid, h.contains_iff⟩

theorem InStep.restore_toSnapshot (h : s.InStep) (s' : Store) :
    s'.restore s.toSnapshot = { s with limits := s'.limits } := by
  refine InStep.restore.ext (h.withLimits _) limits_restore (fun topic => ?_) fun ns => ?_
  · rw [getElem?_payloads_restore]
    split
    · rfl
    · next hl => exact (ExtTreeMap.getElem?_eq_none (hl ∘ h.lists_toSnapshot.2)).symm
  · rw [mem_tries_restore, toSnapshot, ExtTreeMap.mem_map]

/-! ## What a restored store depends on -/

/-- Of the lists of a snapshot, a restored store shows what stands under its own namespace, and of
the store before it nothing but the limits. -/
theorem restore_congr {d' : Snapshot} (payloads : d'.payloads = d.payloads)
    (namespaces : ∀ ns, ns ∈ d'.namespaces ↔ ns ∈ d.namespaces)
    (listed : ∀ topic, d'.lists topic = d.lists topic) (s s' : Store) :
    s'.restore d' = { s.restore d with limits := s'.limits } := by
  refine InStep.restore.ext (InStep.restore.withLimits _) limits_restore (fun topic => ?_) fun ns => ?_
  · rw [getElem?_payloads_restore, payloads, listed]
    exact getElem?_payloads_restore.symm
  · rw [mem_tries_restore, namespaces]
    exact mem_tries_restore.symm

/-- Lists may be put in another order, repeat a topic and name topics of other namespaces. -/
theorem lists_map {relist : String → List String → List String}
    (same : ∀ ns topics topic, Topic.namespaceOf topic = ns →
      (topic ∈ relist ns topics ↔ topic ∈ topics)) :
    Snapshot.lists topic { d with namespaces := d.namespaces.map relist } = d.lists topic := by
  unfold Snapshot.lists
  rw [ExtTreeMap.getElem?_map]
  cases d.namespaces[Topic.namespaceOf topic]? with
  | none => rfl
  | some topics => simp [same _ topics topic rfl]

/--
A restored store has an entry for the namespaces of the snapshot, and a payload for the topics
that have one in the snapshot and stand under their own namespace. The trie of a namespace holds
those that lie in it. The store before counts by its limits only. The order of a list, topics that
it repeats and topics of other namespaces in it make no difference, and a second restore from the
store's own data changes nothing.
-/
theorem restore_exact (d : Snapshot) (s : Store) :
    let r := s.restore d
    (∀ ns, ns ∈ r.tries ↔ ns ∈ d.namespaces) ∧
      (∀ topic : String, r.payloads[topic]? = if d.lists topic then d.payloads[topic]? else none) ∧
      (∀ ns topic, (r.trie ns).contains topic = true ↔
        Topic.namespaceOf topic = ns ∧ topic ∈ r.payloads) ∧
      (∀ ns, (r.trie ns).toList.Perm (r.payloads.keys.filter (Topic.namespaceOf · = ns))) ∧
      (∀ s' : Store, s'.restore d = { r with limits := s'.limits }) ∧
      (∀ relist : String → List String → List String,
        (∀ ns topics topic, Topic.namespaceOf topic = ns →
          (topic ∈ relist ns topics ↔ topic ∈ topics)) →
        s.restore { d with namespaces := d.namespaces.map relist } = r) ∧
      r.restore r.toSnapshot = r := by
  intro r
  have h : r.InStep := InStep.restore
  have limits : r.limits = s.limits := limits_restore
  refine ⟨fun ns => mem_tries_restore, fun topic => getElem?_payloads_restore, fun ns topic => ?_,
    h.toList_perm, restore_congr rfl (fun _ => Iff.rfl) (fun _ => rfl) s, fun relist same => ?_,
    h.restore_toSnapshot r⟩
  · rw [h.contains_iff, eq_comm]
  · let d' : Snapshot := { d with namespaces := d.namespaces.map relist }
    have payloads : d'.payloads = d.payloads := rfl
    have namespaces : ∀ ns, ns ∈ d'.namespaces ↔ ns ∈ d.namespaces := fun _ => ExtTreeMap.mem_map
    have listed : ∀ topic, d'.lists topic = d.lists topic := fun _ => lists_map same
    calc s.restore d'
        = { r with limits := s.limits } := restore_congr payloads namespaces listed s s
      _ = r := by rw [← limits]

/-- The lists may be doubled and turned around, with foreign topics behind them. -/
theorem restore_exact_relisted :
    let d : Snapshot :=
      ⟨.ofList [("a/x", ([1] : Bytes)), ("a/y", [2]), ("b/z", [3]), ("c/w", [4])],
        .ofList [("a", ["b/z", "a/x", "a/v", "a/x"]), ("b", ["a/y", "b/z"]), ("d", [])]⟩
    let relist (ns : String) (topics : List String) : List String :=
      topics.reverse ++ topics ++ ["a/y", "b/z"].filter (Topic.namespaceOf · ≠ ns)
    let s := (empty {}).restore d
    (∀ ns topics topic, Topic.namespaceOf topic = ns →
        (topic ∈ relist ns topics ↔ topic ∈ topics)) ∧
      s.payloads.toList = [("a/x", [1]), ("b/z", [3])] ∧ s.tries.keys = ["a", "b", "d"] ∧
      (empty {}).restore { d with namespaces := d.namespaces.map relist } = s := by
  intro d relist s
  have same : ∀ ns topics topic, Topic.namespaceOf topic = ns →
      (topic ∈ relist ns topics ↔ topic ∈ topics) := by
    rintro ns topics topic rfl
    have foreign : topic ∉ ["a/y", "b/z"].filter (Topic.namespaceOf · ≠ Topic.namespaceOf topic) := by
      simp [List.mem_filter]
    simp only [relist, List.mem_append, List.mem_reverse, foreign, or_false, or_self]
  obtain ⟨-, -, -, -, -, relisted, -⟩ := restore_exact d (empty {})
  exact ⟨same, by decide +kernel, by decide +kernel, relisted relist same⟩

end Store

end Retained
