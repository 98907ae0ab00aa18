import Retained.Proofs.Json.Document

/-!
# Reading back data

What `ofNat`, `ofString` and `ofMembers` write is plain, and the readers of numbers, texts, byte
strings, maps and records get back what was written.
-/

namespace Retained.Json

open Std (ExtTreeMap)

/-- What is written item by item is read item by item. -/
theorem mapM_map {α β γ : Type} {write : α → β} {read : β → Option γ} {out : α → γ} {l : List α}
    (h : ∀ a ∈ l, read (write a) = some (out a)) : (l.map write).mapM read = some (l.map out) := by
  induction l with
  | nil => rfl
  | cons a l ih =>
    have rest := ih fun b hb => h b (List.mem_cons_of_mem _ hb)
    rw [List.map_cons, List.mapM_cons, h a List.mem_cons_self, rest]
    rfl

theorem mapM_map_self {α β : Type} {write : α → β} {read : β → Option α} {l : List α}
    (h : ∀ a ∈ l, read (write a) = some a) : (l.map write).mapM read = some l := by
  have items := mapM_map fun a ha => (h a ha : read (write a) = some (id a))
  rwa [List.map_id'] at items

@[simp]
theorem Text.text?_ofString (s : String) : (Text.ofString s).text? = some s := Bytes.text?_utf8 s

namespace Value

/-! ## Plain values -/

theorem plain_ofNat (n : Nat) : (ofNat n).Plain := by
  intro t ht
  rw [show t = .number (decimal n) from List.mem_singleton.1 ht]
  exact ⟨decimal_ne_nil n, fun b hb => isBare_of_isDigit (isDigit_of_mem_decimal hb),
    bare?_decimal n⟩

theorem plain_ofString (s : String) : (ofString s).Plain := by
  intro t ht
  rw [show t = .string (.ofString s) from List.mem_singleton.1 ht]
  rfl

theorem plain_of_mem_itemTokens {vs : List Value} (h : ∀ v ∈ vs, v.Plain) :
    ∀ t ∈ itemTokens vs, t.Plain := by
  induction vs with
  | nil => intro t ht; rw [List.mem_singleton.1 ht]; trivial
  | cons v vs ih =>
    intro t ht
    rcases List.mem_cons.1 ht with rfl | ht
    · trivial
    rcases List.mem_append.1 ht with ht | ht
    · exact h v List.mem_cons_self t ht
    · exact ih (fun u hu => h u (List.mem_cons_of_mem _ hu)) t ht

theorem plain_array {vs : List Value} (h : ∀ v ∈ vs, v.Plain) : (array vs).Plain := by
  have items := plain_of_mem_itemTokens h
  intro t ht
  cases vs with
  | nil =>
    rcases List.mem_cons.1 ht with rfl | ht
    · trivial
    · rw [List.mem_singleton.1 ht]; trivial
  | cons v vs =>
    -- the tokens of an array are those behind a comma, with a bracket in its place
    rcases List.mem_cons.1 ht with rfl | ht
    · trivial
    · exact items t (List.mem_cons_of_mem _ ht)

theorem plain_of_mem_memberTokens {ms : List (Text × Value)}
    (h : ∀ m ∈ ms, m.1.strict = true ∧ m.2.Plain) : ∀ t ∈ memberTokens ms, t.Plain := by
  induction ms with
  | nil => intro t ht; rw [List.mem_singleton.1 ht]; trivial
  | cons m ms ih =>
    obtain ⟨key, v⟩ := m
    have here : key.strict = true ∧ v.Plain := h (key, v) List.mem_cons_self
    intro t ht
    rcases List.mem_cons.1 ht with rfl | ht
    · trivial
    rcases List.mem_cons.1 ht with rfl | ht
    · exact here.1
    rcases List.mem_cons.1 ht with rfl | ht
    · trivial
    rcases List.mem_append.1 ht with ht | ht
    · exact here.2 t ht
    · exact ih (fun n hn => h n (List.mem_cons_of_mem _ hn)) t ht

theorem plain_object {ms : List (Text × Value)} (h : ∀ m ∈ ms, m.1.strict = true ∧ m.2.Plain) :
    (object ms).Plain := by
  have members := plain_of_mem_memberTokens h
  intro t ht
  cases ms with
  | nil =>
    rcases List.mem_cons.1 ht with rfl | ht
    · trivial
    · rw [List.mem_singleton.1 ht]; trivial
  | cons m ms =>
    rcases List.mem_cons.1 ht with rfl | ht
    · trivial
    · exact members t (List.mem_cons_of_mem _ ht)

theorem plain_ofMembers {ms : List (String × Value)} (h : ∀ m ∈ ms, m.2.Plain) :
    (ofMembers ms).Plain := by
  refine plain_object fun m hm => ?_
  obtain ⟨n, hn, rfl⟩ := List.mem_map.1 hm
  exact ⟨rfl, h n hn⟩

theorem plain_ofStrings (ss : List String) : (array (ss.map .ofString)).Plain := by
  refine plain_array fun v hv => ?_
  obtain ⟨s, _, rfl⟩ := List.mem_map.1 hv
  exact plain_ofString s

/-! ## The readers -/

theorem lt_of_nat? {v : Value} {bound n : Nat} (h : v.nat? bound = some n) : n < bound := by
  unfold nat? at h
  split at h
  · next spelling =>
    split at h
    · next fits =>
      obtain rfl := Option.some.inj h
      simp only [Bool.and_eq_true, decide_eq_true_eq] at fits
      exact fits.2
    · cases h
  · cases h

/-- A number that was written is read wherever it is in bounds. -/
theorem nat?_ofNat (bound n : Nat) : (ofNat n).nat? bound = if n < bound then some n else none := by
  have digits : (decimal n).all isDigit = true :=
    List.all_eq_true.2 fun b hb => isDigit_of_mem_decimal hb
  unfold ofNat nat?
  simp only [digits, ofDecimal_decimal, Bool.true_and, decide_eq_true_eq]

theorem text?_ofString (s : String) : (ofString s).text? = some s := Text.text?_ofString s

theorem texts?_ofStrings (ss : List String) : (array (ss.map .ofString)).texts? = some ss :=
  mapM_map_self fun s _ => text?_ofString s

theorem bytes?_ofBytes (bs : Bytes) :
    (array (bs.map fun b => ofNat b.toNat)).bytes? = some bs := by
  refine mapM_map_self fun b _ => ?_
  have hb : b.toNat < 256 := b.toNat_lt
  simp [nat?_ofNat, hb]

theorem members?_ofMembers (ms : List (String × Value)) : (ofMembers ms).members? = some ms :=
  mapM_map_self fun m _ => by simp

/-- A map is rebuilt from its entries. -/
theorem ofList_toList {α : Type} (m : ExtTreeMap String α) : ExtTreeMap.ofList m.toList = m := by
  refine ExtTreeMap.ext_getElem? fun k => ?_
  cases h : m[k]? with
  | some a =>
    exact ExtTreeMap.getElem?_ofList_of_mem Std.ReflCmp.compare_self ExtTreeMap.distinct_keys_toList
      (ExtTreeMap.mem_toList_iff_getElem?_eq_some.2 h)
  | none =>
    refine ExtTreeMap.getElem?_ofList_of_contains_eq_false ?_
    rw [ExtTreeMap.map_fst_toList_eq_keys]
    simpa using h

/-- A map that was written in key order is read back. -/
theorem map?_ofMembers {α : Type} {write : α → Value} {read : Value → Option α}
    (m : ExtTreeMap String α) (h : ∀ a, read (write a) = some a) :
    (ofMembers (m.toList.map fun e => (e.1, write e.2))).map? read = some m := by
  have entries : (m.toList.map fun e => (e.1, write e.2)).mapM
      (fun e => (read e.2).map (e.1, ·)) = some m.toList :=
    mapM_map_self fun e _ => by simp [h]
  unfold map?
  rw [members?_ofMembers, Option.bind_some, entries, Option.map_some, ofList_toList]

/-! ## Records -/

theorem filter_key_eq {ms : List (String × Value)} (distinct : (ms.map (·.1)).Nodup)
    {m : String × Value} (hm : m ∈ ms) : ms.filter (·.1 = m.1) = [m] := by
  induction ms with
  | nil => cases hm
  | cons n ms ih =>
    rw [List.map_cons, List.nodup_cons] at distinct
    rcases List.mem_cons.1 hm with rfl | hm
    · have none_else : ms.filter (·.1 = m.1) = [] := by
        refine List.filter_eq_nil_iff.2 fun n hn => ?_
        have : n.1 ≠ m.1 := fun h => distinct.1 (h ▸ List.mem_map_of_mem hn)
        simpa using this
      rw [List.filter_cons_of_pos (by simp), none_else]
    · have other : n.1 ≠ m.1 := fun h => distinct.1 (h ▸ List.mem_map_of_mem hm)
      rw [List.filter_cons_of_neg (by simpa using other), ih distinct.2 hm]

/-- A record of distinct keys gives its values back. -/
theorem record?_ofMembers (ms : List (String × Value)) (distinct : (ms.map (·.1)).Nodup) :
    (ofMembers ms).record? (ms.map (·.1)) = some (ms.map (·.2)) := by
  have known : (ms.all fun m => (ms.map (·.1)).contains m.1 || m.2.isStrict) = true := by
    refine List.all_eq_true.2 fun m hm => ?_
    have : (ms.map (·.1)).contains m.1 = true :=
      List.contains_iff_mem.2 (List.mem_map_of_mem hm)
    simp only [this, Bool.true_or]
  have values : (ms.map (·.1)).mapM (member? ms) = some (ms.map (·.2)) :=
    mapM_map fun m hm => by rw [member?, filter_key_eq distinct hm]
  show ((ofMembers ms).members?.bind _) = _
  rw [members?_ofMembers, Option.bind_some]
  exact (if_pos known).trans values

end Value

end Retained.Json
