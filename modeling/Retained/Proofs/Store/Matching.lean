import Retained.Proofs.Store.Admission
import Retained.Proofs.Topic.Filter

/-!
# Reading by a filter

A store in step answers a filter by the payloads of the topics that the filter matches, one for
each (`InStep.matched_perm`): no answer of the trie lacks a payload, since a stored topic has one.
A retained topic that a filter matches as both were sent is among them, unless the filter is a
number sign alone (`matching_of_matches`).
-/

namespace Retained

open Std (ExtTreeMap)

namespace Store

variable {s : Store} {first topic filter : String} {payload : Bytes}

/-- The topic lies in the first topic's namespace and the filter matches it, both in normal
form. -/
def Matched (first filter topic : String) : Prop :=
  Topic.namespaceOf topic = Topic.namespaceOf first ∧
    Topic.Matches (Topic.levels (Topic.normalize filter)) (Topic.levels topic)

instance : Decidable (Matched first filter topic) := inferInstanceAs (Decidable (_ ∧ _))

/-! ## What is answered -/

theorem InStep.answers_perm (h : s.InStep) (first filter : String) :
    ((s.trie (Topic.namespaceOf first)).matching (Topic.normalize filter)).Perm
      (s.payloads.keys.filter (Matched first filter ·)) := by
  refine (List.perm_ext_iff_of_nodup (h.valid _).nodup_matching
    (ExtTreeMap.nodup_keys.filter _)).2 fun topic => ?_
  rw [(h.valid _).mem_matching, and_iff_right (Topic.normalize_ne_empty filter), h.contains_iff,
    List.mem_filter, ExtTreeMap.mem_keys, decide_eq_true_eq, Matched, and_left_comm, ← and_assoc,
    @eq_comm _ (Topic.namespaceOf first), and_assoc]

theorem filterMap_keys (m : ExtTreeMap String Bytes) (keep : String → Bool) :
    (m.keys.filter keep).filterMap (m[·]?) = (m.toList.filter (keep ·.1)).map (·.2) := by
  rw [← ExtTreeMap.map_fst_toList_eq_keys, List.filter_map, List.filterMap_map,
    ← List.filterMap_eq_map]
  refine List.filterMap_congr fun p hp => ?_
  exact ExtTreeMap.mem_toList_iff_getElem?_eq_some.1 (List.mem_filter.1 hp).1

theorem InStep.matched_perm (h : s.InStep) (first : String)
    (nonblank : Text.isAllBlank filter = false) :
    (s.matching first filter).1.Perm
      ((s.payloads.toList.filter (Matched first filter ·.1)).map (·.2)) := by
  rw [matching_of_nonblank nonblank, ← filterMap_keys s.payloads (Matched first filter ·)]
  dsimp only
  exact (h.answers_perm first filter).filterMap _

theorem InStep.mem_matching (h : s.InStep) (nonblank : Text.isAllBlank filter = false)
    (matched : Matched first filter topic) (stored : s.payloads[topic]? = some payload) :
    payload ∈ (s.matching first filter).1 := by
  rw [(h.matched_perm first nonblank).mem_iff, List.mem_map]
  refine ⟨(topic, payload), List.mem_filter.2 ⟨?_, decide_eq_true matched⟩, rfl⟩
  exact ExtTreeMap.mem_toList_iff_getElem?_eq_some.2 stored

/-! ## The number sign alone -/

/-- A filter of a number sign alone matches one topic only, which no put can store. -/
theorem Matched.eq_of_multi (h : Matched first filter topic)
    (bare : Text.trim filter = Topic.multiLevelWildcard) : Topic.namespaceOf first = "#" := by
  obtain ⟨same, matched⟩ := h
  rw [Topic.levels_normalize_multi bare, Topic.matches_multi_blank_iff] at matched
  have e : topic = "#/" := by
    rw [← Topic.ofLevels_levels topic, matched]
    decide +kernel
  rw [← same, e]
  decide +kernel

theorem InStep.matching_multi (h : s.InStep) (nonblank : Text.isAllBlank filter = false)
    (bare : Text.trim filter = Topic.multiLevelWildcard)
    (plain : '#' ∉ (Topic.namespaceOf first).toList) : (s.matching first filter).1 = [] := by
  have none_matched : s.payloads.toList.filter (Matched first filter ·.1) = [] := by
    refine List.filter_eq_nil_iff.2 fun p _ matched => plain ?_
    rw [(of_decide_eq_true matched).eq_of_multi bare]
    decide
  have perm := h.matched_perm first nonblank
  rw [none_matched] at perm
  exact perm.eq_nil

/-! ## Reads in any history -/

/-- After any calls, a blank filter is answered by nothing and leaves the store as it is. Any
other one is answered by one payload for each topic of the namespace that it matches, and leaves
at most an empty entry for the namespace behind. -/
theorem matching_exact (limits : Limits) (calls : List Call) (first filter : String) :
    let s := calls.foldl Store.after (empty limits)
    if Text.isAllBlank filter then s.matching first filter = ([], s)
    else
      (s.matching first filter).1.Perm
          ((s.payloads.toList.filter (Matched first filter ·.1)).map (·.2)) ∧
        (s.matching first filter).2 =
          { s with tries := s.tries.insertIfNew (Topic.namespaceOf first) ∅ } := by
  intro s
  have h : s.InStep := (InStep.empty limits).run calls
  split
  · next blank => exact matching_of_blank blank first s
  · next nonblank =>
    rw [Bool.not_eq_true] at nonblank
    exact ⟨h.matched_perm first nonblank, by rw [matching_of_nonblank nonblank]; rfl⟩

/-- A topic that a put has stored and that is still retained is answered to every filter that
matches it as both were sent, but for their blank ends. The exception is a number sign alone,
which is answered by nothing at all. -/
theorem matching_of_matches {limits : Limits} {earlier later : List Call} {first' : String}
    {old : Bytes}
    (accepted : ∃ m, ((earlier.foldl Store.after (empty limits)).put first topic old).1 = .ok m)
    (retained : ((earlier ++ .put first topic old :: later).foldl Store.after (empty limits)).get? topic =
      some payload)
    (nonblank : Text.isAllBlank filter = false)
    (same : Topic.namespaceOf first' = Topic.namespaceOf topic)
    (matched : Topic.Matches (Topic.levels (Text.trim filter)) (Topic.levels (Text.trim topic))) :
    let s := (earlier ++ .put first topic old :: later).foldl Store.after (empty limits)
    if Text.trim filter = Topic.multiLevelWildcard then (s.matching first' filter).1 = []
    else payload ∈ (s.matching first' filter).1 := by
  intro s
  have h : s.InStep := (InStep.empty limits).run _
  split
  · next bare =>
    have writable : Topic.Writable first topic := by
      rcases resolve_cases first topic with ⟨writable, _⟩ | ⟨_, _, resolved⟩
      · exact writable
      · obtain ⟨m, accepted⟩ := accepted
        rw [put, resolved] at accepted
        cases accepted
    refine h.matching_multi nonblank bare fun sign => ?_
    rw [same] at sign
    rcases Topic.mem_of_mem_namespaceOf sign with e | sign
    · exact absurd e (by decide)
    · exact writable.no_multi sign
  · next bare =>
    refine h.mem_matching nonblank ⟨?_, matched.normalize bare⟩ retained
    rw [Topic.namespaceOf_normalize, same]

/-- A topic of one level, sent with a blank in front, is answered to a filter that goes on below
it, but not to the number sign alone. Both match it. -/
theorem matching_of_matches_parent :
    let calls : List Call := [.put "a" " a" [118], .put "a" "a/b" [119], .remove "a" "a/b"]
    let s := calls.foldl Store.after (empty {})
    Topic.Matches (Topic.levels (Text.trim "a/#")) (Topic.levels (Text.trim " a")) ∧
      [118] ∈ (s.matching "a" "a/#").1 ∧
      Topic.Matches (Topic.levels (Text.trim "#")) (Topic.levels (Text.trim " a")) ∧
      (s.matching "a" "#").1 = [] := by
  intro calls s
  have accepted : ∃ m, ((([] : List Call).foldl Store.after (empty {})).put "a" " a" [118]).1 = .ok m :=
    ⟨"a/", by decide +kernel⟩
  have retained : (([] ++ calls).foldl Store.after (empty {})).get? " a" = some [118] := by
    decide +kernel
  have same : Topic.namespaceOf "a" = Topic.namespaceOf " a" := by decide +kernel
  have below : Topic.Matches (Topic.levels (Text.trim "a/#")) (Topic.levels (Text.trim " a")) := by
    decide +kernel
  have bare : Topic.Matches (Topic.levels (Text.trim "#")) (Topic.levels (Text.trim " a")) := by
    decide +kernel
  have answered := matching_of_matches accepted retained (by decide) same below
  have unanswered := matching_of_matches accepted retained (by decide) same bare
  rw [if_neg (by decide +kernel)] at answered
  rw [if_pos (by decide +kernel)] at unanswered
  exact ⟨below, answered, bare, unanswered⟩

end Store

end Retained
