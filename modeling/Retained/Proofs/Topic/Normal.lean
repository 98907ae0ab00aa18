import Mathlib.Data.List.DropRight
import Retained.Proofs.Topic.Filter

/-!
# Normal forms

A normal form is trimmed and has a delimiter, so that it is its own normal form
(`normalize_normalize`) and lies in the namespace of the topic it comes from. A filter and a topic
that match with their blank ends off match in normal form too (`Matches.normalize`). The filter
that is a number sign alone is the exception: its normal form has a level behind the number sign,
which then stands for itself (`matches_multi_blank_iff`).
-/

namespace Retained

namespace Text

variable {cs ds : List Char} {s : String}

/-- No blank stands at either end. -/
structure Trimmed (cs : List Char) : Prop where
  start : cs.dropWhile isBlank = cs
  stop : trimEnd cs = cs

theorem trim_eq_self (h : Trimmed s.toList) : trim s = s := by
  unfold trim
  rw [h.start, h.stop, String.ofList_toList]

theorem dropWhile_of_isPrefix (h : cs.dropWhile isBlank = cs) (hp : ds <+: cs) :
    ds.dropWhile isBlank = ds := by
  obtain ⟨rest, rfl⟩ := hp
  rw [List.dropWhile_eq_self_iff] at h ⊢
  intro hl
  have := h (by simp only [List.length_append]; omega)
  rwa [List.getElem_append_left hl] at this

theorem trimmed_trim (s : String) : Trimmed (trim s).toList := by
  unfold trim
  rw [String.toList_ofList]
  refine ⟨dropWhile_of_isPrefix (List.dropWhile_idempotent ..) (List.rdropWhile_prefix ..), ?_⟩
  exact List.rdropWhile_idempotent ..

theorem Trimmed.push {c : Char} (h : Trimmed s.toList) (hc : isBlank c = false) :
    Trimmed (s.push c).toList := by
  have hc' : ¬ isBlank c = true := by simp [hc]
  rw [String.toList_push]
  refine ⟨?_, List.rdropWhile_concat_neg _ _ _ hc'⟩
  rw [List.dropWhile_append, h.start]
  split
  · next e => simp [List.isEmpty_iff.1 e, hc]
  · rfl

theorem mem_of_mem_trim {c : Char} (h : c ∈ (trim s).toList) : c ∈ s.toList := by
  unfold trim at h
  rw [String.toList_ofList] at h
  exact (List.dropWhile_sublist _).subset ((List.rdropWhile_prefix _ _).subset h)

end Text

namespace Topic

variable {topic filter : String} {ls : List String}

/-! ## Levels -/

theorem levels_of_notMem (h : delimiter ∉ topic.toList) : levels topic = [topic] := by
  unfold levels Text.pieces
  rw [List.splitOn_eq_singleton h, List.map_singleton, String.ofList_toList]

theorem levels_push (topic : String) : levels (topic.push delimiter) = levels topic ++ [""] := by
  unfold levels Text.pieces
  rw [String.toList_push, List.splitOn_append_cons_self, List.splitOn_nil, List.map_append]
  rfl

/-- A delimiter stands between two levels. -/
theorem exists_levels_of_mem (h : delimiter ∈ topic.toList) :
    ∃ l k ls, levels topic = l :: k :: ls := by
  obtain ⟨before, after, e⟩ := List.append_of_mem h
  have hb := List.splitOn_ne_nil delimiter before
  have ha := List.splitOn_ne_nil delimiter after
  unfold levels Text.pieces
  rw [e, List.splitOn_append_cons_self]
  generalize before.splitOn delimiter = bs at hb
  generalize after.splitOn delimiter = as at ha
  match bs, as, hb, ha with
  | [b], a :: as, _, _ => exact ⟨_, _, _, rfl⟩
  | b :: b' :: bs, as, _, _ => exact ⟨_, _, _, rfl⟩

/-! ## Normal forms -/

theorem delimiter_mem_normalize (topic : String) : delimiter ∈ (normalize topic).toList := by
  unfold normalize
  dsimp only
  split
  · assumption
  · rw [String.toList_push]
    exact List.mem_append_right _ (List.mem_singleton_self _)

theorem normalize_ne_empty (topic : String) : normalize topic ≠ "" := by
  intro e
  have := delimiter_mem_normalize topic
  rw [e] at this
  cases this

theorem trimmed_normalize (topic : String) : Text.Trimmed (normalize topic).toList := by
  unfold normalize
  dsimp only
  split
  · exact Text.trimmed_trim topic
  · exact (Text.trimmed_trim topic).push rfl

@[simp]
theorem normalize_normalize (topic : String) : normalize (normalize topic) = normalize topic := by
  have trimmed : Text.trim (normalize topic) = normalize topic :=
    Text.trim_eq_self (trimmed_normalize topic)
  rw [normalize, trimmed]
  exact if_pos (delimiter_mem_normalize topic)

@[simp]
theorem namespaceOf_normalize (topic : String) :
    namespaceOf (normalize topic) = namespaceOf topic := by
  unfold namespaceOf
  rw [normalize_normalize]

theorem mem_of_mem_normalize {c : Char} (h : c ∈ (normalize topic).toList) :
    c = delimiter ∨ c ∈ topic.toList := by
  unfold normalize at h
  dsimp only at h
  split at h
  · exact .inr (Text.mem_of_mem_trim h)
  · rw [String.toList_push] at h
    rcases List.mem_append.1 h with h | h
    · exact .inr (Text.mem_of_mem_trim h)
    · exact .inl (List.mem_singleton.1 h)

theorem mem_of_mem_namespaceOf {c : Char} (h : c ∈ (namespaceOf topic).toList) :
    c = delimiter ∨ c ∈ topic.toList := by
  unfold namespaceOf at h
  refine mem_of_mem_normalize ?_
  rw [← ofLevels_levels (normalize topic)]
  cases e : levels (normalize topic) with
  | nil => exact absurd e (levels_ne_nil _)
  | cons l ls =>
    rw [e, List.headD_cons] at h
    unfold ofLevels Text.join
    cases ls <;> simp [h]

/-! ## Matching in normal form -/

/-- A filter and a topic that match with their blank ends off match in normal form, unless the
filter is a number sign alone. -/
theorem Matches.normalize
    (h : Matches (levels (Text.trim filter)) (levels (Text.trim topic)))
    (hf : Text.trim filter ≠ multiLevelWildcard) :
    Matches (levels (normalize filter)) (levels (normalize topic)) := by
  unfold Topic.normalize
  generalize Text.trim filter = f at h hf
  generalize Text.trim topic = t at h
  dsimp only
  split
  · next inFilter =>
    split
    · exact h
    · next inTopic =>
      -- only a number sign at the end of the filter is left to meet the level that the topic gets
      obtain ⟨p, q, ps, e⟩ := exists_levels_of_mem inFilter
      rw [e, levels_of_notMem inTopic] at h
      rw [e, levels_push, levels_of_notMem inTopic]
      rcases matches_cons_cons_iff.1 h with ⟨_, e'⟩ | ⟨here, rest⟩
      · cases e'
      · obtain ⟨rfl, rfl⟩ := matches_cons_nil_iff.1 rest
        exact matches_cons_cons_iff.2 (.inr ⟨here, matches_multi⟩)
  · next inFilter =>
    rw [levels_of_notMem inFilter] at h
    rw [levels_push, levels_of_notMem inFilter]
    split
    · next inTopic =>
      obtain ⟨l, k, ls, e⟩ := exists_levels_of_mem inTopic
      rw [e] at h
      rcases matches_cons_cons_iff.1 h with ⟨e', _⟩ | ⟨_, rest⟩
      · exact absurd e' hf
      · cases matches_nil_iff.1 rest
    · next inTopic =>
      rw [levels_of_notMem inTopic] at h
      rw [levels_push, levels_of_notMem inTopic]
      rcases matches_cons_cons_iff.1 h with ⟨e', _⟩ | ⟨here, _⟩
      · exact absurd e' hf
      · exact matches_cons_cons_iff.2 (.inr ⟨here, .same "" .nil⟩)

/-- The normal form of a number sign alone has a second, empty level. -/
theorem levels_normalize_multi (h : Text.trim filter = multiLevelWildcard) :
    levels (normalize filter) = [multiLevelWildcard, ""] := by
  have bare : delimiter ∉ multiLevelWildcard.toList := by decide
  unfold normalize
  rw [h]
  dsimp only
  rw [if_neg bare, levels_push, levels_of_notMem bare]
  rfl

/-- A number sign before the end of a filter stands for itself. -/
theorem matches_multi_blank_iff :
    Matches [multiLevelWildcard, ""] ls ↔ ls = [multiLevelWildcard, ""] := by
  have single : multiLevelWildcard ≠ singleLevelWildcard := by decide
  have blank : "" ≠ singleLevelWildcard ∧ "" ≠ multiLevelWildcard := by decide
  match ls with
  | [] => simp [matches_cons_nil_iff]
  | [l] => simp [matches_cons_cons_iff, matches_cons_nil_iff, blank.2]
  | l :: k :: ls =>
    simp [matches_cons_cons_iff, matches_nil_iff, single, blank.1, blank.2, eq_comm]

end Topic

end Retained
