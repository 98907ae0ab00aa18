import Retained.Proofs.Store.Addressable
import Retained.Proofs.Store.Entries

/-!
# Namespaces by their keys

The key of a namespace is what stands before the first delimiter of a normal form
(`Topic.toList_normalize_eq`). As a first topic it is normalized once more, which trims it: a key
names its own namespace unless it ends in a blank (`Topic.namespaceOf_namespaceOf`). An entry of a
summary can then be asked for by its name, and its topics can be stored and dropped under it, save
that no write takes the empty name for a first topic (`key_addresses`).
-/

namespace Retained

open Std (ExtTreeMap)

namespace Topic

variable {first topic name : String}

/-- The text does not end in a blank. -/
def Closed (name : String) : Prop := ∀ c ∈ name.toList.getLast?, Text.isBlank c = false

instance : DecidablePred Closed := fun name =>
  decidable_of_iff ((name.toList.getLast?.all fun c => !Text.isBlank c) = true)
    (by simp [Closed, Option.all_eq_true])

/-- A topic lies in the namespace that stands before the first delimiter of its normal form. -/
theorem toList_normalize_eq (topic : String) :
    ∃ rest, (normalize topic).toList = (namespaceOf topic).toList ++ delimiter :: rest ∧
      delimiter ∉ (namespaceOf topic).toList := by
  obtain ⟨key, rest, e, free⟩ := List.eq_append_cons_of_mem (delimiter_mem_normalize topic)
  have head : namespaceOf topic = String.ofList key := by
    unfold namespaceOf levels Text.pieces
    rw [e, List.splitOn_append_cons_self_of_not_mem free]
    rfl
  rw [head, String.toList_ofList]
  exact ⟨rest, e, free⟩

theorem namespaceOf_of_notMem (h : delimiter ∉ name.toList) :
    namespaceOf name = Text.trim name := by
  have bare : delimiter ∉ (Text.trim name).toList := h ∘ Text.mem_of_mem_trim
  unfold namespaceOf normalize
  dsimp only
  rw [if_neg bare, levels_push, levels_of_notMem bare]
  rfl

/-- A key does not begin with a blank, since a normal form does not. -/
theorem trim_namespaceOf (closed : Closed (namespaceOf topic)) :
    Text.trim (namespaceOf topic) = namespaceOf topic := by
  obtain ⟨rest, e, -⟩ := toList_normalize_eq topic
  have front : (namespaceOf topic).toList <+: (normalize topic).toList := ⟨_, e.symm⟩
  have start := Text.dropWhile_of_isPrefix (trimmed_normalize topic).start front
  have stop : (namespaceOf topic).toList.rdropWhile Text.isBlank = (namespaceOf topic).toList := by
    refine List.rdropWhile_eq_self_iff.2 fun nonempty => ?_
    rw [closed _ (List.getLast?_eq_some_getLast nonempty)]
    decide
  exact Text.trim_eq_self ⟨start, stop⟩

/-- A key names its own namespace, unless it ends in a blank. -/
theorem namespaceOf_namespaceOf (closed : Closed (namespaceOf topic)) :
    namespaceOf (namespaceOf topic) = namespaceOf topic := by
  obtain ⟨-, -, free⟩ := toList_normalize_eq topic
  rw [namespaceOf_of_notMem free, trim_namespaceOf closed]

theorem Closed.isAllBlank (closed : Closed name) (nonempty : name ≠ "") :
    Text.isAllBlank name = false := by
  have chars : name.toList ≠ [] := nonempty ∘ String.toList_eq_nil_iff.1
  refine List.all_eq_false.2 ⟨_, List.getLast_mem chars, ?_⟩
  rw [closed _ (List.getLast?_eq_some_getLast chars)]
  decide

end Topic

namespace Store

variable {s : Store} {limits : Limits} {c : Call} {calls : List Call} {e : Summary.Entry}
  {ns first topic filter : String}

/-! ## Entries and topics of a run without a `restore` -/

theorem mem_tries_after (own : ∀ d, c ≠ .restore d) (h : ns ∈ (s.after c).tries) :
    ns ∈ s.tries ∨ ∃ first, Topic.namespaceOf first = ns := by
  cases c with
  | put first topic payload =>
    refine (mem_tries_put.1 h).imp_right fun ⟨_, _, resolved⟩ => ?_
    exact ⟨first, (resolve_ok resolved).1.symm⟩
  | remove first topic =>
    refine (mem_tries_remove.1 h).imp_right fun ⟨_, resolved⟩ => ?_
    exact ⟨first, (resolve_ok resolved).1.symm⟩
  | get topic => exact .inl h
  | matching first filter => exact (mem_tries_matching.1 h).imp_right fun ⟨_, e⟩ => ⟨first, e⟩
  | restore d => exact absurd rfl (own d)

theorem exists_first (own : ∀ c ∈ calls, ∀ d, c ≠ .restore d)
    (h : ns ∈ (calls.foldl after (empty limits)).tries) : ∃ first, Topic.namespaceOf first = ns := by
  refine List.foldlRecOn
    (motive := fun s : Store => ∀ ns, ns ∈ s.tries → ∃ first, Topic.namespaceOf first = ns)
    calls after (fun ns none => ?_) (fun s ih c hc ns there => ?_) ns h
  · exact absurd none ExtTreeMap.not_mem_empty
  · exact (mem_tries_after (own c hc) there).elim (ih ns) id

theorem addressable_of_mem (own : ∀ c ∈ calls, ∀ d, c ≠ .restore d)
    (stored : topic ∈ (calls.foldl after (empty limits)).payloads) : Topic.Addressable topic := by
  by_contra unaddressable
  rw [ExtTreeMap.mem_iff_isSome_getElem?, getElem?_payloads_run unaddressable own] at stored
  cases stored

theorem trie_of_mem_summary (h : e ∈ s.summary.namespaces) :
    e.name ∈ s.tries ∧ (s.trie e.name).size = e.topics := by
  unfold summary at h
  obtain ⟨p, listed, rfl⟩ := List.mem_map.1 h
  have there := ExtTreeMap.mem_toList_iff_getElem?_eq_some.1 listed
  exact ⟨ExtTreeMap.mem_iff_isSome_getElem?.2 (Option.isSome_of_mem there),
    congrArg Trie.size (trie_of_mem_toList listed)⟩

theorem mem_topicsIn : topic ∈ s.topicsIn ns ↔ topic ∈ s.payloads ∧ Topic.namespaceOf topic = ns := by
  rw [topicsIn, List.mem_filter, ExtTreeMap.mem_keys, decide_eq_true_eq]

/-! ## Requests under a key -/

theorem resolve_key (h : Topic.Addressable topic) (nonblank : Text.isAllBlank ns = false)
    (key : Topic.namespaceOf ns = ns) (same : Topic.namespaceOf topic = ns) :
    resolve ns topic = .ok (ns, topic) := by
  have self := h.writable
  have writable : Topic.Writable ns topic :=
    ⟨nonblank, self.topic_nonblank, self.no_single, self.no_multi, key.trans same.symm⟩
  rcases resolve_cases ns topic with ⟨-, resolved⟩ | ⟨unwritable, -⟩
  · rw [resolved, h.normal, same]
  · exact absurd writable unwritable

theorem resolve_empty (nonblank : Text.isAllBlank topic = false) :
    resolve "" topic = .error (.malformed .emptyFirstTopic) := by
  unfold resolve
  rw [nonblank]
  rfl

def matchedIn (ns filter : String) (s : Store) : List String :=
  (s.topicsIn ns).filter fun topic =>
    Topic.Matches (Topic.levels (Topic.normalize filter)) (Topic.levels topic)

theorem InStep.matchedIn_perm (h : s.InStep) (key : Topic.namespaceOf first = ns)
    (nonblank : Text.isAllBlank filter = false) :
    (s.matching first filter).1.Perm ((s.matchedIn ns filter).filterMap (s.payloads[·]?)) := by
  have same : s.payloads.keys.filter (Matched first filter ·) = s.matchedIn ns filter := by
    rw [matchedIn, topicsIn, List.filter_filter]
    refine List.filter_congr fun topic _ => ?_
    simp only [Matched, key, Bool.decide_and, Bool.and_comm]
  rw [matching_of_nonblank nonblank, ← same]
  dsimp only
  exact (h.answers_perm first filter).filterMap _

/-- The name of a namespace's entry reaches the namespace and each topic in it. -/
structure Addresses (s : Store) (e : Summary.Entry) : Prop where
  known : s.hasNamespace e.name = true
  counted : s.namespaceSize e.name = e.topics
  matched : ∀ filter, Text.isAllBlank filter = false →
    (s.matching e.name filter).1.Perm ((s.matchedIn e.name filter).filterMap (s.payloads[·]?))
  dropped : ∀ topic ∈ s.topicsIn e.name, e.name ≠ "" →
    s.remove e.name topic = (.ok topic, s.discard e.name topic)
  stored : ∀ topic ∈ s.topicsIn e.name, e.name ≠ "" → s.admits (Topic.levels topic).length = true →
    ∀ payload, s.put e.name topic payload = (.ok topic, s.file e.name topic payload)
  /-- The empty name is a first topic for reads only. -/
  refused : ∀ topic ∈ s.topicsIn e.name, e.name = "" →
    s.remove e.name topic = (.error (.malformed .emptyFirstTopic), s) ∧
      ∀ payload, s.put e.name topic payload = (.error (.malformed .emptyFirstTopic), s)

/-- A key that is its own namespace addresses it, in a store of topics that writes can name. -/
theorem InStep.addresses (h : s.InStep) (named : ∀ topic ∈ s.payloads, Topic.Addressable topic)
    (listed : e ∈ s.summary.namespaces) (closed : Topic.Closed e.name)
    (key : Topic.namespaceOf e.name = e.name) : s.Addresses e := by
  obtain ⟨there, size⟩ := trie_of_mem_summary listed
  have resolved {topic : String} (held : topic ∈ s.topicsIn e.name) (nonempty : e.name ≠ "") :
      resolve e.name topic = .ok (e.name, topic) := by
    obtain ⟨stored, same⟩ := mem_topicsIn.1 held
    exact resolve_key (named topic stored) (closed.isAllBlank nonempty) key same
  refine ⟨?_, ?_, fun filter => h.matchedIn_perm key, ?_, ?_, ?_⟩
  · rw [hasNamespace, key]
    exact ExtTreeMap.contains_iff_mem.2 there
  · rw [namespaceSize, key, size]
  · intro topic held nonempty
    rw [Store.remove, resolved held nonempty]
  · intro topic held nonempty admitted payload
    have room : s.hasRoom e.name topic = true := by
      obtain ⟨stored, same⟩ := mem_topicsIn.1 held
      rw [hasRoom, (h.contains_iff _ _).2 ⟨same.symm, stored⟩, Bool.true_or]
    rw [Store.put, resolved held nonempty]
    simp only [admitted, room, if_true]
  · intro topic held empty
    have nonblank := (named topic (mem_topicsIn.1 held).1).writable.topic_nonblank
    rw [empty, Store.remove, resolve_empty nonblank]
    exact ⟨rfl, fun payload => by rw [Store.put, resolve_empty nonblank]⟩

/--
After any calls but a `restore`, an entry of the summary whose name does not end in a blank is
addressed by it: the name as a first topic finds the namespace, its count and the matches in it,
and every topic stored in it can be dropped and, within the limit on levels, stored anew. The
empty name does so for reads alone; as the first topic of a write it is refused.
-/
theorem key_addresses (own : ∀ c ∈ calls, ∀ d, c ≠ .restore d)
    (listed : e ∈ (calls.foldl after (empty limits)).summary.namespaces)
    (closed : Topic.Closed e.name) : (calls.foldl after (empty limits)).Addresses e := by
  have inStep : (calls.foldl after (empty limits)).InStep := (InStep.empty limits).run calls
  obtain ⟨first, lies⟩ := exists_first own (trie_of_mem_summary listed).1
  refine inStep.addresses (fun _ => addressable_of_mem own) listed closed ?_
  rw [← lies] at closed ⊢
  exact Topic.namespaceOf_namespaceOf closed

/-- A key with a blank inside, put with one in front, addresses its namespace. -/
theorem key_addresses_blank :
    let calls : List Call := [.put " a b/x" " a b/x" [118], .matching "c" "#", .put "/" "/y" [119]]
    let s := calls.foldl after (empty {})
    s.hasNamespace "a b" = true ∧ s.namespaceSize "a b" = 1 ∧ (s.matching "a b" "a b/+").1 = [[118]] ∧
      (s.remove "a b" "a b/x").1 = .ok "a b/x" ∧ (s.put "a b" "a b/x" [120]).1 = .ok "a b/x" ∧
      (s.remove "" "/y").1 = .error (.malformed .emptyFirstTopic) := by
  intro calls s
  have own : ∀ c ∈ calls, ∀ d, c ≠ .restore d := by simp [calls]
  have inner : Addresses s ⟨"a b", 1, 2⟩ := key_addresses own (by decide +kernel) (by decide)
  have outer : Addresses s ⟨"", 1, 2⟩ := key_addresses own (by decide +kernel) (by decide)
  have held : "a b/x" ∈ s.topicsIn "a b" := by decide +kernel
  refine ⟨inner.known, inner.counted, ?_, ?_, ?_, ?_⟩
  · rw [← List.perm_singleton]
    refine (inner.matched "a b/+" (by decide)).trans (.of_eq ?_)
    decide +kernel
  · rw [inner.dropped _ held (by decide)]
  · rw [inner.stored _ held (by decide) (by decide +kernel)]
  · rw [(outer.refused "/y" (by decide +kernel) rfl).1]

/-- As a first topic, the empty key is refused, and a key that ends in a blank is taken for
another one. -/
theorem not_every_key_addresses :
    let s := [Call.put "/" "/x" [118], .put "a /b" "a /b" [119]].foldl after (empty {})
    (⟨"", 1, 2⟩ ∈ s.summary.namespaces ∧ "/x" ∈ s.topicsIn "" ∧
        (s.remove "" "/x").1 = .error (.malformed .emptyFirstTopic) ∧
        (s.put "" "/x" [118]).1 = .error (.malformed .emptyFirstTopic)) ∧
      ⟨"a ", 1, 2⟩ ∈ s.summary.namespaces ∧ s.hasNamespace "a " = false ∧ s.namespaceSize "a " = 0 ∧
        (s.remove "a " "a /b").1 = .error (.malformed (.foreign "a /b" "a")) := by
  decide +kernel

end Store

end Retained
