import Retained.Proofs.Store.Admission

/-!
# Addressable topics

Reads and removals reach a topic through its normal form, and a write with a wildcard is refused:
what they can name are the addressable topics (`Topic.Addressable`). A put files no others.
`restore` does, since it takes the topics of a snapshot as they are. A stored topic is then either
served under its own name (`Store.Served`), or it came with the snapshot and is stranded: it
counts, and no call short of another `restore` takes it away again (`Store.Stranded`,
`Store.served_or_stranded`).
-/

namespace Retained

open Std (ExtTreeMap)

namespace Topic

/-- A topic that writes can name: a normal form without wildcards. -/
structure Addressable (topic : String) : Prop where
  normal : normalize topic = topic
  tame : hasWildcard topic = false

variable {first topic : String}

instance : DecidablePred Addressable := fun topic =>
  decidable_of_iff (normalize topic = topic ∧ hasWildcard topic = false)
    ⟨fun ⟨normal, tame⟩ => ⟨normal, tame⟩, fun h => ⟨h.normal, h.tame⟩⟩

theorem Writable.addressable (h : Writable first topic) : Addressable (normalize topic) := by
  refine ⟨normalize_normalize topic, ?_⟩
  rw [← Bool.not_eq_true, Store.hasWildcard_iff]
  rintro (single | multi)
  · exact (mem_of_mem_normalize single).elim (by decide) h.no_single
  · exact (mem_of_mem_normalize multi).elim (by decide) h.no_multi

theorem Addressable.writable (h : Addressable topic) : Writable topic topic := by
  have nonblank : Text.isAllBlank topic = false := by
    unfold Text.isAllBlank
    rw [← Bool.not_eq_true, List.all_eq_true]
    intro blank
    have := blank delimiter (h.normal ▸ delimiter_mem_normalize topic)
    revert this
    decide
  have tame := Bool.not_eq_true _ ▸ h.tame
  rw [Store.hasWildcard_iff, not_or] at tame
  exact ⟨nonblank, nonblank, tame.1, tame.2, rfl⟩

end Topic

namespace Store

variable {s : Store} {d : Snapshot} {c : Call} {ns m topic first : String} {payload : Bytes}

/-! ## What stays beyond reach -/

theorem addressable_of_resolve (h : resolve first topic = .ok (ns, m)) : Topic.Addressable m := by
  rcases resolve_cases first topic with ⟨writable, resolved⟩ | ⟨-, fault, resolved⟩
  · rw [resolved] at h
    cases h
    exact writable.addressable
  · cases resolved.symm.trans h

/-- The payload of a topic that no write can name is left alone by every call but a `restore`. -/
theorem getElem?_payloads_after (h : ¬ Topic.Addressable topic) (own : ∀ d, c ≠ .restore d) :
    (s.after c).payloads[topic]? = s.payloads[topic]? := by
  cases c with
  | put first other payload =>
    show (s.put first other payload).2.payloads[topic]? = _
    rcases put_cases first other payload s with ⟨_, e⟩ | ⟨_, _, e⟩ | ⟨ns, m, resolved, e⟩ <;> rw [e]
    · rfl
    · rw [getElem?_payloads_file, if_neg]
      rintro rfl
      exact h (addressable_of_resolve resolved)
  | remove first other =>
    show (s.remove first other).2.payloads[topic]? = _
    rcases remove_cases first other s with ⟨_, e⟩ | ⟨ns, m, resolved, e⟩ <;> rw [e]
    rw [getElem?_payloads_discard, if_neg]
    rintro rfl
    exact h (addressable_of_resolve resolved)
  | get other => rfl
  | matching first filter =>
    show (s.matching first filter).2.payloads[topic]? = _
    rcases matching_cases first filter s with e | ⟨_, e⟩ <;> rw [e]
    rfl
  | restore d => exact absurd rfl (own d)

theorem getElem?_payloads_run (h : ¬ Topic.Addressable topic) {calls : List Call}
    (later : ∀ c ∈ calls, ∀ d, c ≠ .restore d) (s : Store) :
    (calls.foldl after s).payloads[topic]? = s.payloads[topic]? := by
  induction calls generalizing s with
  | nil => rfl
  | cons c calls ih =>
    rw [List.foldl_cons, ih fun c hc => later c (List.mem_cons_of_mem _ hc)]
    exact getElem?_payloads_after h (later c (List.mem_cons_self ..))

/-! ## What is in reach -/

theorem get?_of_normal (h : Topic.normalize topic = topic) : s.get? topic = s.payloads[topic]? := by
  rw [get?, h]

theorem remove_self (h : Topic.Addressable topic) :
    s.remove topic topic = (.ok topic, s.discard (Topic.namespaceOf topic) topic) := by
  unfold remove
  rw [resolve_of_writable h.writable, h.normal]

theorem InStep.namespaceSize_discard (h : s.InStep) (stored : topic ∈ s.payloads) :
    (s.discard (Topic.namespaceOf topic) topic).namespaceSize topic + 1 = s.namespaceSize topic := by
  unfold namespaceSize
  rw [trie_discard, if_pos rfl]
  exact (h.valid _).size_erase ((h.contains_iff _ _).2 ⟨rfl, stored⟩)

/-- A store in step exports a topic in both halves of its snapshot, or in neither. -/
theorem InStep.not_mem_namespaces (h : s.InStep) (absent : topic ∉ s.payloads) {topics : List String}
    (listed : s.toSnapshot.namespaces[ns]? = some topics) : topic ∉ topics := by
  rw [getElem?_namespaces_toSnapshot] at listed
  split at listed
  · cases listed
    rw [List.mem_mergeSort, (h.valid ns).mem_toList, h.contains_iff]
    exact fun held => absent held.2
  · cases listed

/-! ## Stored topics after a restore -/

/-- The topic can be read and dropped by its own name. -/
structure Served (s : Store) (topic : String) (payload : Bytes) : Prop where
  read : s.get? topic = some payload
  dropped : (s.remove topic topic).1 = .ok topic
  absent : topic ∉ (s.remove topic topic).2.toSnapshot.payloads
  unlisted : ∀ (ns : String) (topics : List String),
    (s.remove topic topic).2.toSnapshot.namespaces[ns]? = some topics → topic ∉ topics
  uncounted : (s.remove topic topic).2.namespaceSize topic + 1 = s.namespaceSize topic

/-- The topic came with the snapshot, and only another one can take it away. -/
structure Stranded (d : Snapshot) (s : Store) (topic : String) (payload : Bytes) : Prop where
  listed : d.lists topic = true
  brought : d.payloads[topic]? = some payload
  /-- It takes up room and is matched by filters. -/
  held : (s.trie (Topic.namespaceOf topic)).contains topic = true
  stays : ∀ calls : List Call, (∀ c ∈ calls, ∀ d', c ≠ .restore d') →
    (calls.foldl after s).payloads[topic]? = some payload
  /-- Unless it is a normal form, reads by name are the same without it. -/
  unread : Topic.normalize topic ≠ topic →
    ∀ asked, (s.discard (Topic.namespaceOf topic) topic).get? asked = s.get? asked

theorem InStep.served (h : s.InStep) (addressable : Topic.Addressable topic)
    (stored : s.payloads[topic]? = some payload) : s.Served topic payload := by
  have there : topic ∈ s.payloads := ExtTreeMap.mem_iff_isSome_getElem?.2 (by rw [stored]; rfl)
  have gone : topic ∉ (s.discard (Topic.namespaceOf topic) topic).payloads := by
    rw [ExtTreeMap.mem_iff_isSome_getElem?, getElem?_payloads_discard, if_pos rfl]
    nofun
  have removed := remove_self (s := s) addressable
  exact ⟨(get?_of_normal addressable.normal).trans stored, by rw [removed],
    by rw [removed]; exact gone,
    by rw [removed]; exact fun _ _ => (h.discard rfl).not_mem_namespaces gone,
    by rw [removed]; exact h.namespaceSize_discard there⟩

theorem get?_discard (h : Topic.normalize topic ≠ topic) (asked : String) :
    (s.discard ns topic).get? asked = s.get? asked := by
  unfold get?
  rw [getElem?_payloads_discard, if_neg]
  intro e
  exact h (by rw [e, Topic.normalize_normalize])

/--
After a snapshot was restored, and any calls but another `restore`, a stored topic that is a
normal form without wildcards can be read and dropped by its own name. Any other stored topic is
as the snapshot brought it, and stays.
-/
theorem served_or_stranded (s₀ : Store) (d : Snapshot) {calls : List Call}
    (later : ∀ c ∈ calls, ∀ d', c ≠ .restore d')
    (stored : (calls.foldl after (s₀.restore d)).toSnapshot.payloads[topic]? = some payload) :
    Topic.Addressable topic ∧ (calls.foldl after (s₀.restore d)).Served topic payload ∨
      ¬ Topic.Addressable topic ∧ (calls.foldl after (s₀.restore d)).Stranded d topic payload := by
  have inStep : (calls.foldl after (s₀.restore d)).InStep := InStep.restore.run calls
  by_cases addressable : Topic.Addressable topic
  · exact .inl ⟨addressable, inStep.served addressable stored⟩
  have brought := (getElem?_payloads_run addressable later _).symm.trans stored
  rw [getElem?_payloads_restore] at brought
  split at brought
  · next listed =>
    have there := ExtTreeMap.mem_iff_isSome_getElem?.2 (Option.isSome_of_mem stored)
    exact .inr ⟨addressable, listed, brought, (inStep.contains_iff _ _).2 ⟨rfl, there⟩,
      fun calls own => (getElem?_payloads_run addressable own _).trans stored, get?_discard⟩
  · cases brought

def twoSpellings : Snapshot where
  payloads := .ofList ([(" a/x", [118]), ("a/x", [119])] : List (String × Bytes))
  namespaces := .ofList [("a", [" a/x", "a/x"])]

/-- The spelling with the blank is stranded, and the other one is served. -/
theorem served_or_stranded_spellings :
    let s := (empty {}).restore twoSpellings
    s.get? " a/x" = some [119] ∧ s.Served "a/x" [119] ∧ s.Stranded twoSpellings " a/x" [118] := by
  intro s
  have none_later : ∀ c ∈ ([] : List Call), ∀ d', c ≠ .restore d' := nofun
  have kept : s.toSnapshot.payloads["a/x"]? = some [119] := by decide +kernel
  have kept' : s.toSnapshot.payloads[" a/x"]? = some [118] := by decide +kernel
  refine ⟨by decide +kernel, ?_, ?_⟩
  · rcases served_or_stranded (empty {}) twoSpellings none_later kept with ⟨-, served⟩ | ⟨h, -⟩
    · exact served
    · exact absurd (by decide +kernel) h
  · rcases served_or_stranded (empty {}) twoSpellings none_later kept' with ⟨h, -⟩ | ⟨-, stranded⟩
    · exact absurd h (by decide +kernel)
    · exact stranded

end Store

end Retained
