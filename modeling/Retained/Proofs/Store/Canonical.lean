import Retained.Proofs.Store.Alike
import Retained.Proofs.Text.Order
import Retained.Snapshot.Codec

/-!
# Canonical data

A store in step keeps no trace of how it came about: under the same limits, its payloads and the
names of its namespaces settle all that it shows, its data, the bytes of its snapshot file and its
summary (`canonical`). The data lists a namespace by the topics with a payload that lie in it,
each once and in the order of their UTF-8 bytes (`InStep.listing`).
-/

namespace Retained

open Std (ExtTreeMap)

namespace Store

variable {s : Store} {ns : String} {topics : List String}

/-! ## The listed topics -/

theorem pairwise_lt_mergeSort (nodup : topics.Nodup) : topics.mergeSort.Pairwise (· < ·) := by
  have sorted : topics.mergeSort.Pairwise fun a b => decide (a ≤ b) = true :=
    List.pairwise_mergeSort (by simpa using fun a b c => String.le_trans)
      (by simpa using String.le_total) topics
  have distinct : topics.mergeSort.Nodup := (List.mergeSort_perm topics _).nodup_iff.2 nodup
  refine (sorted.and distinct).imp fun {a b} h => ?_
  exact Std.lt_of_le_of_ne (of_decide_eq_true h.1) h.2

theorem InStep.listing (h : s.InStep) (listed : s.toSnapshot.namespaces[ns]? = some topics) :
    (topics.Pairwise fun a b => Bytes.utf8 a < Bytes.utf8 b) ∧
      ∀ topic, topic ∈ topics ↔ Topic.namespaceOf topic = ns ∧ topic ∈ s.payloads := by
  rw [getElem?_namespaces_toSnapshot] at listed
  split at listed
  · cases listed
    refine ⟨(pairwise_lt_mergeSort (h.valid ns).nodup_toList).imp Bytes.utf8_lt_utf8, fun topic => ?_⟩
    rw [List.mem_mergeSort, (h.valid ns).mem_toList, h.contains_iff, eq_comm]
  · cases listed

/-! ## Histories forgotten -/

/--
After any calls, the topics listed for a namespace are those with a payload in it, strictly
increasing by their UTF-8 bytes. After any other calls under the same limits that end with the
same payloads and an entry for the same namespaces, the data, the snapshot file and the summary
are the same.
-/
theorem canonical (limits : Limits) (calls : List Call) :
    let s := calls.foldl after (empty limits)
    (∀ (ns : String) (topics : List String), s.toSnapshot.namespaces[ns]? = some topics →
        (topics.Pairwise fun a b => Bytes.utf8 a < Bytes.utf8 b) ∧
          ∀ topic, topic ∈ topics ↔ Topic.namespaceOf topic = ns ∧ topic ∈ s.payloads) ∧
      ∀ calls' : List Call,
        let u := calls'.foldl after (empty limits)
        s.payloads = u.payloads → (∀ ns, ns ∈ s.tries ↔ ns ∈ u.tries) →
          s.toSnapshot = u.toSnapshot ∧ s.toSnapshot.encode = u.toSnapshot.encode ∧
            s.summary = u.summary := by
  intro s
  have sound : s.Sound limits := (Sound.empty limits).run calls
  refine ⟨fun ns topics => sound.inStep.listing, fun calls' => ?_⟩
  intro u payloads namespaces
  have sound' : u.Sound limits := (Sound.empty limits).run calls'
  have same_limits : s.limits = u.limits := sound.limits_eq.trans sound'.limits_eq.symm
  have same : s = u :=
    sound.inStep.ext sound'.inStep same_limits (fun topic => by rw [payloads]) namespaces
  rw [same]
  exact ⟨rfl, rfl, rfl⟩

/-- A topic that came and went leaves nothing behind, and neither does a list that names one
twice. -/
theorem canonical_churn :
    let calls : List Call := [.put "a" "a/b/c" [119], .put "a" "a/b" [118], .matching "b" "b/#",
      .remove "a" "a/b/c"]
    let calls' : List Call := [.put "c" "c" [120],
      .restore ⟨.ofList [("a/b", ([118] : Bytes))], .ofList [("a", ["a/b", "a/b"]), ("b", ["a/b"])]⟩]
    let s := calls.foldl after (empty {})
    let u := calls'.foldl after (empty {})
    s.payloads = u.payloads ∧ (∀ ns, ns ∈ s.tries ↔ ns ∈ u.tries) ∧
      s.toSnapshot = u.toSnapshot ∧ s.toSnapshot.encode = u.toSnapshot.encode ∧
      s.summary = u.summary := by
  intro calls calls' s u
  have payloads : s.payloads = u.payloads := by decide +kernel
  have keys : s.tries.keys = u.tries.keys := by decide +kernel
  have namespaces : ∀ ns, ns ∈ s.tries ↔ ns ∈ u.tries := fun ns => by
    rw [← ExtTreeMap.mem_keys, keys, ExtTreeMap.mem_keys]
  obtain ⟨-, same⟩ := canonical {} calls
  exact ⟨payloads, namespaces, same calls' payloads namespaces⟩

end Store

end Retained
