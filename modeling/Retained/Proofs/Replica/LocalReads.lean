import Retained.Proofs.Replica.CatchUp
import Retained.Proofs.Store.Canonical
import Retained.Proofs.Store.Entries

/-!
# Reads on one replica only

A read is not logged, and yet it may change the store: it leaves an entry for the namespace that
it visits. Two replicas that take the same writes may so come to differ, but no write and no later
read tells (`local_reads`). What has an entry after a run is what some event of it enters
(`mem_tries_serve`), and an entry that the writes alone would not have made lists no topics.
-/

namespace Retained

namespace Store

variable {s u : Store} {r : WriteRequest} {ns first topic : String}

theorem eligible_iff (same : s.limits = u.limits) :
    s.Eligible r first topic ↔ u.Eligible r first topic := by
  constructor
  · rintro ⟨first_given, topic_given, writable, levels⟩
    exact ⟨first_given, topic_given, writable, same ▸ levels⟩
  · rintro ⟨first_given, topic_given, writable, levels⟩
    exact ⟨first_given, topic_given, writable, same ▸ levels⟩

/-- Stores that cannot be told apart list the same topics for a namespace that has an entry in
both, and in one of them none for a namespace that has an entry only there. -/
theorem namespaces_cases (h : s.Alike u) (more : ns ∈ u.tries → ns ∈ s.tries) :
    s.toSnapshot.namespaces[ns]? = u.toSnapshot.namespaces[ns]? ∨
      s.toSnapshot.namespaces[ns]? = some [] ∧ u.toSnapshot.namespaces[ns]? = none ∧
        ns ∈ s.tries ∧ ns ∉ u.tries := by
  rw [getElem?_namespaces_toSnapshot, getElem?_namespaces_toSnapshot, h.trie]
  by_cases both : ns ∈ u.tries
  · rw [if_pos both, if_pos (more both)]
    exact .inl rfl
  by_cases entry : ns ∈ s.tries
  · have bare : (u.trie ns).toList.mergeSort = [] := by
      rw [trie_eq_empty both]
      exact List.mergeSort_nil
    rw [if_pos entry, if_neg both, bare]
    exact .inr ⟨rfl, rfl, entry, both⟩
  · rw [if_neg entry, if_neg both]
    exact .inl rfl

end Store

namespace Replica

variable {limits : Limits} {a : Replica} {ns : String}

/-! ## Entries made on the way -/

/-- The event makes an entry for the namespace in a store with these limits. -/
def Event.Enters (limits : Limits) (ns : String) : Event → Prop
  | .write r => ∃ first topic, (Store.empty limits).Eligible r first topic ∧ Topic.namespaceOf topic = ns
  | .read r => r.Visits ns

theorem mem_tries_afterEvent (disk : Disk) (e : Event) (h : a.machine.Sound limits) :
    ns ∈ (afterEvent disk a e).machine.tries ↔ ns ∈ a.machine.tries ∨ e.Enters limits ns := by
  cases e with
  | write r =>
    refine (h.inStep.mem_tries_write r).trans (or_congr_right ?_)
    have same : a.machine.limits = (Store.empty limits).limits := h.limits_eq
    simp only [Event.Enters, Store.eligible_iff same]
  | read r => exact Store.mem_tries_read r a.machine

theorem mem_tries_serve (disk : Disk) (es : List Event) (h : a.machine.Sound limits) :
    ns ∈ (serve disk es a).2.machine.tries ↔
      ns ∈ a.machine.tries ∨ ∃ e ∈ es, e.Enters limits ns := by
  induction es generalizing a with
  | nil => simp [serve]
  | cons e es ih =>
    rw [snd_serve_cons, ih (sound_afterEvent disk e h), mem_tries_afterEvent disk e h, or_assoc,
      List.exists_mem_cons_iff]

theorem exists_enters_iff (es : List Event) :
    (∃ e ∈ es, e.Enters limits ns) ↔
      (∃ e ∈ (es.filterMap Event.write?).map .write, Event.Enters limits ns e) ∨
        ∃ r, .read r ∈ es ∧ r.Visits ns := by
  constructor
  · rintro ⟨e, he, enters⟩
    cases e with
    | write r =>
      have logged : r ∈ es.filterMap Event.write? := List.mem_filterMap.2 ⟨_, he, rfl⟩
      exact .inl ⟨_, List.mem_map_of_mem logged, enters⟩
    | read r => exact .inr ⟨r, he, enters⟩
  · rintro (⟨e, he, enters⟩ | ⟨r, he, visits⟩)
    · obtain ⟨r, logged, rfl⟩ := List.mem_map.1 he
      obtain ⟨e, he, is_write⟩ := List.mem_filterMap.1 logged
      cases e with
      | write r' =>
        cases is_write
        exact ⟨_, he, enters⟩
      | read r' => cases is_write
    · exact ⟨_, he, visits⟩

/-! ## Replicas with and without reads -/

/--
A fresh replica that answers reads between its writes is compared with one that takes the writes
alone. The writes are replied alike, and as on any replica that answers other reads between them.
At the end, and so at every point, the payloads are the same, and no count of topics and no read
tells the two apart. The data lists the same topics for every namespace, save that an entry which
a read has made may list none and be missing without the reads.
-/
theorem local_reads (limits : Limits) (disk disk' : Disk) (es : List Event) :
    let a := serve disk es (empty limits)
    let b := serve disk' ((es.filterMap Event.write?).map .write) (empty limits)
    a.1 = b.1 ∧
      (∀ fs : List Event, fs.filterMap Event.write? = es.filterMap Event.write? →
        (serve disk' fs (empty limits)).1 = a.1) ∧
      a.2.machine.toSnapshot.payloads = b.2.machine.toSnapshot.payloads ∧
      a.2.machine.Agree b.2.machine ∧
      ∀ ns, a.2.machine.toSnapshot.namespaces[ns]? = b.2.machine.toSnapshot.namespaces[ns]? ∨
        a.2.machine.toSnapshot.namespaces[ns]? = some [] ∧
          b.2.machine.toSnapshot.namespaces[ns]? = none ∧ ∃ r, .read r ∈ es ∧ r.Visits ns := by
  intro a b
  have start : Together (empty limits) (empty limits) := ⟨rfl, .refl _⟩
  have fresh : (empty limits).machine.Sound limits := .empty limits
  obtain ⟨same, together⟩ := start.serve_writes disk disk' es
  have entries : ∀ ns, ns ∈ a.2.machine.tries ↔
      ns ∈ b.2.machine.tries ∨ ∃ r, .read r ∈ es ∧ r.Visits ns := fun ns => by
    rw [mem_tries_serve disk es fresh, exists_enters_iff, ← or_assoc, ← mem_tries_serve disk' _ fresh]
  refine ⟨same, fun fs writes => (start.serve disk' disk writes).1, together.alike.payloads,
    together.alike.agree, fun ns => ?_⟩
  rcases Store.namespaces_cases together.alike fun old => (entries ns).2 (.inl old) with
    listed | ⟨bare, missing, entry, new⟩
  · exact .inl listed
  · exact .inr ⟨bare, missing, ((entries ns).1 entry).resolve_left new⟩

/-- One replica reads two namespaces before they are written, one of which never is, and the other
does not. -/
theorem local_reads_before :
    let x := WriteRequest.ofTopic "b" "b/x" false [118]
    let y := WriteRequest.ofTopic "b" "b/y" false [119]
    let es : List Event := [.read (.ofFilter "b" "#"), .write x, .read (.ofFilter "c" "+"), .write y]
    let fs : List Event := [.write x, .write y, .read (.ofTopic "c/x")]
    let a := serve {} es (empty { topics := 1 })
    let b := serve {} fs (empty { topics := 1 })
    b.1 = a.1 ∧ a.2.machine.toSnapshot.namespaces["c"]? = some [] ∧
      b.2.machine.toSnapshot.namespaces["c"]? = none := by
  intro x y es fs a b
  obtain ⟨-, unseen, -⟩ := local_reads { topics := 1 } {} {} es
  exact ⟨unseen fs rfl, by decide +kernel, by decide +kernel⟩

end Replica

end Retained
