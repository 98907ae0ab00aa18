import Retained.Proofs.Replica.CatchUp
import Retained.Proofs.Store.Entries

/-!
# Namespaces apart

A write or a read belongs to the namespace of its first topic, and a read of one topic to that of
this topic. What belongs to other namespaces does not show in this one: without it the rest of a
run is answered the same and the namespace is left the same (`isolated`). Two stores that agree in
a namespace (`Store.AgreeIn`) need have nothing else in common. What belongs to it is answered
alike by both and keeps them so; what does not, on either side, touches nothing that they agree
in.
-/

namespace Retained

open Std (ExtTreeMap)

/-- The namespace that a write belongs to, if it names a first topic. -/
def WriteRequest.namespaceOf? (r : WriteRequest) : Option String :=
  (r.fields[firstTopicField]?).map Topic.namespaceOf

def ReadRequest.namespaceOf? (r : ReadRequest) : Option String :=
  (r.fields[if r.operation = topicOperation then topicField else firstTopicField]?).map
    Topic.namespaceOf

theorem ReadRequest.Visits.namespaceOf?_eq {r : ReadRequest} {ns : String} (h : r.Visits ns) :
    r.namespaceOf? = some ns := by
  obtain ⟨wildcard, first, _, given, -, -, rfl⟩ := h
  rw [namespaceOf?, if_neg wildcard, given, Option.map_some]

def Summary.entry? (ns : String) (m : Summary) : Option Summary.Entry :=
  m.namespaces.find? (·.name = ns)

namespace Store

variable {s u v : Store} {ns m first topic filter : String} {payload : Bytes}

theorem entry?_summary (s : Store) (ns : String) :
    s.summary.entry? ns = (s.tries[ns]?).map fun t => ⟨ns, t.size, t.nodeCount⟩ := by
  have named : s.summary.entry? ns =
      (s.tries.toList.find? fun p => compare p.1 ns == .eq).map fun p =>
        ⟨p.1, p.2.size, p.2.nodeCount⟩ := by
    unfold Summary.entry? summary
    rw [List.find?_map]
    congr 2
    funext p
    rw [Function.comp_apply, Bool.eq_iff_iff, decide_eq_true_eq, beq_iff_eq,
      Std.LawfulEqOrd.compare_eq_iff_eq]
  rw [named]
  cases there : s.tries[ns]? with
  | none =>
    have absent : ns ∉ s.tries := by
      rw [ExtTreeMap.mem_iff_isSome_getElem?, there]
      nofun
    rw [ExtTreeMap.find?_toList_eq_none_iff_not_mem.2 absent]
    rfl
  | some t =>
    have known : s.tries.getKey? ns = some ns :=
      ExtTreeMap.getKey?_eq_some (ExtTreeMap.mem_iff_isSome_getElem?.2 (Option.isSome_of_mem there))
    rw [ExtTreeMap.find?_toList_eq_some_iff_getKey?_eq_some_and_getElem?_eq_some.2 ⟨known, there⟩]
    rfl

/-! ## Agreement in a namespace -/

/-- The two have the same limits, the same entry for the namespace and the same payloads in it. -/
structure AgreeIn (ns : String) (s u : Store) : Prop where
  limits : s.limits = u.limits
  entry : s.tries[ns]? = u.tries[ns]?
  payloads : ∀ topic, Topic.namespaceOf topic = ns → s.payloads[topic]? = u.payloads[topic]?

namespace AgreeIn

theorem refl (ns : String) (s : Store) : AgreeIn ns s s := ⟨rfl, rfl, fun _ _ => rfl⟩

theorem trans (h : AgreeIn ns s u) (h' : AgreeIn ns u v) : AgreeIn ns s v :=
  ⟨h.limits.trans h'.limits, h.entry.trans h'.entry,
    fun topic own => (h.payloads topic own).trans (h'.payloads topic own)⟩

theorem trie_eq (h : AgreeIn ns s u) : s.trie ns = u.trie ns := by
  rw [trie, trie, ExtTreeMap.getD_eq_getD_getElem?, ExtTreeMap.getD_eq_getD_getElem?, h.entry]

theorem mem_iff (h : AgreeIn ns s u) : ns ∈ s.tries ↔ ns ∈ u.tries := by
  rw [ExtTreeMap.mem_iff_isSome_getElem?, ExtTreeMap.mem_iff_isSome_getElem?, h.entry]

/-! ### Changes elsewhere -/

theorem openNamespace_of_ne (other : m ≠ ns) : AgreeIn ns (s.openNamespace m) s := by
  refine ⟨rfl, ?_, fun _ _ => rfl⟩
  unfold Store.openNamespace
  rw [ExtTreeMap.getElem?_insertIfNew, if_neg]
  rintro ⟨e, -⟩
  exact other (Std.LawfulEqOrd.eq_of_compare e)

theorem file_of_ne (other : m ≠ ns) (lies : Topic.namespaceOf topic = m) :
    AgreeIn ns (s.file m topic payload) s := by
  refine ⟨rfl, ?_, fun asked own => ?_⟩
  · unfold Store.file
    rw [ExtTreeMap.getElem?_insert, if_neg (other ∘ Std.LawfulEqOrd.eq_of_compare)]
  · rw [getElem?_payloads_file, if_neg]
    rintro rfl
    exact other (lies.symm.trans own)

theorem discard_of_ne (other : m ≠ ns) (lies : Topic.namespaceOf topic = m) :
    AgreeIn ns (s.discard m topic) s := by
  refine ⟨rfl, ?_, fun asked own => ?_⟩
  · unfold Store.discard
    rw [ExtTreeMap.getElem?_insert, if_neg (other ∘ Std.LawfulEqOrd.eq_of_compare)]
  · rw [getElem?_payloads_discard, if_neg]
    rintro rfl
    exact other (lies.symm.trans own)

/-- A write that belongs elsewhere changes nothing in the namespace. -/
theorem write_foreign (h : s.InStep) {r : WriteRequest} (foreign : r.namespaceOf? ≠ some ns) :
    AgreeIn ns (s.write r).2 s := by
  have elsewhere {first topic : String} (eligible : s.Eligible r first topic) :
      Topic.namespaceOf topic ≠ ns := by
    rintro rfl
    refine foreign ?_
    rw [WriteRequest.namespaceOf?, eligible.first_given, Option.map_some,
      eligible.writable.same_namespace]
  have ending := h.ending r
  generalize applied : s.apply r = p at ending
  cases ending with
  | dropped eligible drop =>
    rw [write_of_ok applied]
    exact discard_of_ne (elsewhere eligible) (Topic.namespaceOf_normalize _)
  | stored eligible store fits =>
    rw [write_of_ok applied]
    exact file_of_ne (elsewhere eligible) (Topic.namespaceOf_normalize _)
  | full eligible store full =>
    rw [write_of_error applied]
    exact openNamespace_of_ne (elsewhere eligible)
  | malformed ineligible =>
    rw [write_of_error applied]
    exact .refl ns s

theorem read_foreign {r : ReadRequest} (foreign : r.namespaceOf? ≠ some ns) :
    AgreeIn ns (s.read r).2 s := by
  rcases read_leaves r s with ⟨-, e⟩ | ⟨m, visits, e⟩ <;> rw [e]
  · exact .refl ns s
  · refine openNamespace_of_ne ?_
    rintro rfl
    exact foreign visits.namespaceOf?_eq

/-! ### Changes in the namespace -/

theorem openNamespace (h : AgreeIn ns s u) : AgreeIn ns (s.openNamespace ns) (u.openNamespace ns) := by
  refine ⟨h.limits, ?_, h.payloads⟩
  unfold Store.openNamespace
  rw [ExtTreeMap.getElem?_insertIfNew, ExtTreeMap.getElem?_insertIfNew, h.entry]
  simp only [h.mem_iff]

theorem file (h : AgreeIn ns s u) :
    AgreeIn ns (s.file ns topic payload) (u.file ns topic payload) := by
  refine ⟨h.limits, ?_, fun asked own => ?_⟩
  · unfold Store.file
    rw [ExtTreeMap.getElem?_insert_self, ExtTreeMap.getElem?_insert_self, h.trie_eq]
  · rw [getElem?_payloads_file, getElem?_payloads_file, h.payloads asked own]

theorem discard (h : AgreeIn ns s u) : AgreeIn ns (s.discard ns topic) (u.discard ns topic) := by
  refine ⟨h.limits, ?_, fun asked own => ?_⟩
  · unfold Store.discard
    rw [ExtTreeMap.getElem?_insert_self, ExtTreeMap.getElem?_insert_self, h.trie_eq]
  · rw [getElem?_payloads_discard, getElem?_payloads_discard, h.payloads asked own]

theorem keptIn (ns : String) : KeptIn ns (AgreeIn ns) where
  limits h := h.limits
  trie h := h.trie_eq
  openNamespace h := h.openNamespace
  file _ _ h := h.file
  discard _ h := h.discard

theorem write (h : AgreeIn ns s u) {r : WriteRequest} (own : r.namespaceOf? = some ns) :
    (s.write r).1 = (u.write r).1 ∧ AgreeIn ns (s.write r).2 (u.write r).2 := by
  refine KeptIn.write (fun first given => ?_) h
  obtain ⟨first', given', rfl⟩ := Option.map_eq_some_iff.1 own
  obtain rfl := Option.some.inj (given.symm.trans given')
  exact keptIn _

/-! ### Reads in the namespace -/

theorem get?_eq (h : AgreeIn ns s u) (own : Topic.namespaceOf topic = ns) :
    s.get? topic = u.get? topic :=
  h.payloads _ ((Topic.namespaceOf_normalize topic).trans own)

theorem matching_eq (h : AgreeIn ns s u) (inStep : s.InStep) (own : Topic.namespaceOf first = ns)
    (filter : String) : (s.matching first filter).1 = (u.matching first filter).1 := by
  cases blank : Text.isAllBlank filter with
  | true => rw [matching_of_blank blank, matching_of_blank blank]
  | false =>
    rw [matching_of_nonblank blank, matching_of_nonblank blank, own, ← h.trie_eq]
    dsimp only
    refine List.filterMap_congr fun topic matched => ?_
    -- Only what the trie holds is looked up, and that lies in the namespace.
    obtain ⟨-, held, -⟩ := (inStep.valid ns).mem_matching.1 matched
    exact h.payloads topic ((inStep.contains_iff ns topic).1 held).1.symm

theorem read_eq (h : AgreeIn ns s u) (inStep : s.InStep) {r : ReadRequest}
    (own : r.namespaceOf? = some ns) : (s.read r).1 = (u.read r).1 := by
  unfold ReadRequest.namespaceOf? at own
  unfold Store.read Fields.required
  cases given : r.fields[topicField]? with
  | none => rfl
  | some topic =>
    dsimp only
    split
    · next point =>
      rw [if_pos point, given, Option.map_some] at own
      rw [h.get?_eq (Option.some.inj own)]
    · next wildcard =>
      rw [if_neg wildcard] at own
      obtain ⟨first, given, own⟩ := Option.map_eq_some_iff.1 own
      rw [given]
      exact congrArg Response.payloads (h.matching_eq inStep own topic)

theorem read (h : AgreeIn ns s u) (inStep : s.InStep) {r : ReadRequest}
    (own : r.namespaceOf? = some ns) :
    (s.read r).1 = (u.read r).1 ∧ AgreeIn ns (s.read r).2 (u.read r).2 := by
  refine ⟨h.read_eq inStep own, ?_⟩
  rcases read_leaves r s with ⟨nowhere, e⟩ | ⟨m, visits, e⟩ <;>
    rcases read_leaves r u with ⟨nowhere', e'⟩ | ⟨m', visits', e'⟩ <;> rw [e, e']
  · exact h
  · exact absurd visits' (nowhere m')
  · exact absurd visits (nowhere' m)
  · obtain rfl := Option.some.inj (visits.namespaceOf?_eq.symm.trans own)
    obtain rfl := visits.unique visits'
    exact h.openNamespace

end AgreeIn

end Store

namespace Replica

variable {limits : Limits} {a b : Replica} {ns : String} {e : Event}

/-! ## Runs -/

def Event.namespaceOf? : Event → Option String
  | .write r => r.namespaceOf?
  | .read r => r.namespaceOf?

inductive Exchange where
  | written (r : WriteRequest) (reply : Option Reply)
  | read (r : ReadRequest) (response : Response)

def Exchange.namespaceOf? : Exchange → Option String
  | .written r _ => r.namespaceOf?
  | .read r _ => r.namespaceOf?

/-- The same event with the same answer, save for the order of payloads. -/
inductive Exchange.Alike : Exchange → Exchange → Prop
  | written (r : WriteRequest) (reply : Option Reply) : Alike (.written r reply) (.written r reply)
  | read (r : ReadRequest) {x y : Response} (h : x.Alike y) : Alike (.read r x) (.read r y)

def exchange (disk : Disk) (a : Replica) : Event → Exchange
  | .write r => .written r (a.handle (.write r) disk).1
  | .read r => .read r (a.read r).1

def transcript (disk : Disk) : List Event → Replica → List Exchange
  | [], _ => []
  | e :: es, a => exchange disk a e :: transcript disk es (afterEvent disk a e)

theorem namespaceOf?_exchange (disk : Disk) (a : Replica) (e : Event) :
    (exchange disk a e).namespaceOf? = e.namespaceOf? := by
  cases e with
  | write r => rfl
  | read r => rfl

theorem agreeIn_foreign (disk : Disk) (h : a.machine.Sound limits)
    (foreign : e.namespaceOf? ≠ some ns) :
    Store.AgreeIn ns (afterEvent disk a e).machine a.machine := by
  cases e with
  | write r => exact .write_foreign h.inStep foreign
  | read r => exact .read_foreign foreign

/-- An event that belongs to the namespace is answered alike by replicas that agree in it, and
they go on to agree. -/
theorem agreeIn_own (disk disk' : Disk) (h : a.machine.Sound limits)
    (agree : Store.AgreeIn ns a.machine b.machine) (own : e.namespaceOf? = some ns) :
    (exchange disk a e).Alike (exchange disk' b e) ∧
      Store.AgreeIn ns (afterEvent disk a e).machine (afterEvent disk' b e).machine := by
  cases e with
  | write r =>
    obtain ⟨same, after⟩ := agree.write own
    refine ⟨?_, after⟩
    show Exchange.Alike (.written r (some (.written (a.machine.write r).1))) (.written r _)
    rw [same]
    exact .written r _
  | read r =>
    obtain ⟨same, after⟩ := agree.read h.inStep own
    refine ⟨.read r ?_, after⟩
    show ((a.machine.read r).1).Alike _
    rw [same]
    exact .same _

/-- Of two replicas that agree in a namespace, one serves all events and the other only those that
belong to the namespace. These are answered alike, and the replicas agree afterwards. -/
theorem agreeIn_serve (disk disk' : Disk) (es : List Event) (h : a.machine.Sound limits)
    (agree : Store.AgreeIn ns a.machine b.machine) :
    let own := es.filter (·.namespaceOf? = some ns)
    List.Forall₂ Exchange.Alike ((transcript disk es a).filter (·.namespaceOf? = some ns))
        (transcript disk' own b) ∧
      Store.AgreeIn ns (serve disk es a).2.machine (serve disk' own b).2.machine := by
  induction es generalizing a b with
  | nil => exact ⟨.nil, agree⟩
  | cons e es ih =>
    have after := sound_afterEvent disk e h
    dsimp only at ih ⊢
    rw [transcript, snd_serve_cons]
    by_cases own : e.namespaceOf? = some ns
    · obtain ⟨same, agree⟩ := agreeIn_own disk disk' h agree own
      obtain ⟨rest, later⟩ := ih after agree
      have kept : (exchange disk a e).namespaceOf? = some ns := (namespaceOf?_exchange ..).trans own
      rw [List.filter_cons_of_pos (by simpa using kept), List.filter_cons_of_pos (by simpa using own),
        transcript, snd_serve_cons]
      exact ⟨.cons same rest, later⟩
    · have dropped : (exchange disk a e).namespaceOf? ≠ some ns := fun kept =>
        own ((namespaceOf?_exchange ..).symm.trans kept)
      rw [List.filter_cons_of_neg (by simpa using dropped), List.filter_cons_of_neg (by simpa using own)]
      exact ih after ((agreeIn_foreign disk h own).trans agree)

/--
A run of writes and reads on a fresh replica is compared with what is left of it if all that
belongs to other namespaces is taken out. What is left is answered alike, save for the order of
payloads, and at the end the count of the namespace, the question for it and its entry in the
summary are the same. A run may end anywhere, so they are at every point.
-/
theorem isolated (limits : Limits) (disk disk' : Disk) (ns : String) (es : List Event) :
    let own := es.filter (·.namespaceOf? = some ns)
    let s := (serve disk es (empty limits)).2.machine
    let u := (serve disk' own (empty limits)).2.machine
    List.Forall₂ Exchange.Alike ((transcript disk es (empty limits)).filter (·.namespaceOf? = some ns))
        (transcript disk' own (empty limits)) ∧
      (∀ first, Topic.namespaceOf first = ns →
        s.namespaceSize first = u.namespaceSize first ∧ s.hasNamespace first = u.hasNamespace first) ∧
      s.summary.entry? ns = u.summary.entry? ns := by
  intro own s u
  have fresh : (empty limits).machine.Sound limits := .empty limits
  obtain ⟨same, agree⟩ := agreeIn_serve disk disk' es fresh (.refl ns _)
  refine ⟨same, fun first lies => ⟨?_, ?_⟩, ?_⟩
  · rw [Store.namespaceSize, Store.namespaceSize, lies, agree.trie_eq]
  · rw [Store.hasNamespace, Store.hasNamespace, lies, Bool.eq_iff_iff, ExtTreeMap.contains_iff_mem,
      ExtTreeMap.contains_iff_mem, agree.mem_iff]
  · rw [Store.entry?_summary, Store.entry?_summary, agree.entry]

/-- A full namespace, a write that names two of them and a filter for another one than its first
topic's leave the room in a namespace alone. -/
theorem isolated_room :
    let es : List Event := [.write (.ofTopic "b" "b/x" false [118]),
      .write (.ofTopic "b" "b/y" false [118]), .write (.ofTopic "b" "a/x" false [118]),
      .read (.ofFilter "b" "a/#"), .write (.ofTopic "a" "a/y" false [119]), .read (.ofTopic "a/y")]
    let s := (serve {} es (empty { topics := 1 })).2.machine
    let u := (serve {} (es.filter (·.namespaceOf? = some "a")) (empty { topics := 1 })).2.machine
    s.namespaceSize "a" = 1 ∧ u.namespaceSize "a" = 1 ∧ s.hasNamespace "a" = u.hasNamespace "a" := by
  intro es s u
  obtain ⟨-, same, -⟩ := isolated { topics := 1 } {} {} "a" es
  obtain ⟨size, known⟩ := same "a" (by decide +kernel)
  have one : s.namespaceSize "a" = 1 := by decide +kernel
  exact ⟨one, size.symm.trans one, known⟩

end Replica

end Retained
