import Retained.Proofs.Replica.Writes

/-!
# The last write counts

What a topic reads is settled by the last accepted write that names it, under whatever spelling of
the same normal form (`read_last`): its data if it stores, and nothing if it drops. One write sets
what is retained under the normal form of its topic if it is accepted, and otherwise changes
nothing (`InStep.getElem?_write`); a log of writes follows by induction (`getElem?_drain`).
-/

namespace Retained

namespace WriteRequest

def normalForm? (r : WriteRequest) : Option String := (r.fields[topicField]?).map Topic.normalize

/-- What an accepted write leaves retained. -/
def retained? (r : WriteRequest) : Option Bytes := if r.isEmpty then none else some r.data

end WriteRequest

def Reply.isAccepted : Reply → Bool
  | written response => response.isSuccess
  | snapshot _ | index _ => false

/-- The write was accepted and names the topic with this normal form. -/
def settles (m : String) (w : WriteRequest × Reply) : Bool :=
  w.2.isAccepted && w.1.normalForm? = some m

def lastWrite? (topic : String) (log : List (WriteRequest × Reply)) : Option WriteRequest :=
  (log.reverse.find? (settles (Topic.normalize topic))).map Prod.fst

theorem lastWrite?_cons (topic : String) (w : WriteRequest × Reply)
    (log : List (WriteRequest × Reply)) :
    lastWrite? topic (w :: log) =
      (lastWrite? topic log).or (if settles (Topic.normalize topic) w then some w.1 else none) := by
  unfold lastWrite?
  rw [List.reverse_cons, List.find?_append]
  cases log.reverse.find? (settles (Topic.normalize topic)) with
  | some _ => rfl
  | none =>
    cases h : settles (Topic.normalize topic) w <;> simp [h]

namespace Store

variable {s : Store} {m : String}

theorem normalForm?_of_eligible {r : WriteRequest} {first topic : String}
    (h : s.Eligible r first topic) : r.normalForm? = some (Topic.normalize topic) := by
  rw [WriteRequest.normalForm?, h.topic_given, Option.map_some]

/-- An accepted write sets what is retained under the normal form of its topic, and nothing
else. -/
theorem InStep.getElem?_write (h : s.InStep) (r : WriteRequest) (m : String) :
    (s.write r).2.payloads[m]? =
      if settles m (r, .written (s.write r).1) then r.retained? else s.payloads[m]? := by
  have ending := h.ending r
  generalize applied : s.apply r = p at ending
  cases ending with
  | dropped eligible drop =>
    rw [write_of_ok applied, getElem?_payloads_discard, WriteRequest.retained?, drop]
    simp [settles, Reply.isAccepted, Response.isSuccess, normalForm?_of_eligible eligible]
  | stored eligible store fits =>
    rw [write_of_ok applied, getElem?_payloads_file, WriteRequest.retained?, store]
    simp [settles, Reply.isAccepted, Response.isSuccess, normalForm?_of_eligible eligible]
  | full eligible store full =>
    rw [write_of_error applied]
    rfl
  | malformed ineligible =>
    rw [write_of_error applied]
    rfl

end Store

namespace Replica

variable {limits : Limits} {a : Replica} {q : ReadRequest} {topic : String}

theorem drain_write (r : WriteRequest) (queue : List Command) (a : Replica) (disk : Disk) :
    let b : Replica := { a with machine := (a.machine.write r).2, index := a.index + 1 }
    a.drain disk (.write r :: queue) =
      (.written (a.machine.write r).1 :: (b.drain disk queue).1, (b.drain disk queue).2) := rfl

/-- What is retained under a topic's normal form is what the last write that settles it has left,
or what was there before if there is none. -/
theorem getElem?_drain (h : a.machine.Sound limits) (topic : String) (log : List WriteRequest)
    (disk : Disk) :
    let out := a.drain disk (log.map .write)
    out.2.1.machine.payloads[Topic.normalize topic]? =
      (lastWrite? topic (log.zip out.1)).elim a.machine.payloads[Topic.normalize topic]?
        (·.retained?) := by
  induction log generalizing a with
  | nil => rfl
  | cons r log ih =>
    dsimp only
    rw [List.map_cons, drain_write, List.zip_cons_cons, lastWrite?_cons]
    have rest := ih (a := ⟨(a.machine.write r).2, a.index + 1, a.isRunning⟩) (h.write r)
    dsimp only at rest ⊢
    rw [rest, h.inStep.getElem?_write]
    cases lastWrite? topic (log.zip _) with
    | some later => rfl
    | none =>
      rw [Option.none_or]
      cases settles (Topic.normalize topic) (r, .written (a.machine.write r).1) with
      | true => rfl
      | false => rfl

theorem read_point (point : q.operation = topicOperation)
    (given : q.fields[topicField]? = some topic)
    (a : Replica) :
    (read q a).1 = .data ((a.machine.payloads[Topic.normalize topic]?).getD nullPayload) := by
  have asked : q.fields.required topicField = .ok topic := by
    unfold Fields.required
    rw [given]
  show (a.machine.read q).1 = _
  unfold Store.read
  rw [asked]
  dsimp only
  rw [if_pos point]
  rfl

/--
A fresh replica that has taken a log of writes answers a point read by the data of the last
accepted write to the topic, under any spelling of its normal form, and by the null payload if
that write dropped the topic or there is none. A further write changes the answer only if it is
accepted and names the same normal form.
-/
theorem read_last (limits : Limits) (log : List WriteRequest) (disk : Disk)
    (point : q.operation = topicOperation) (given : q.fields[topicField]? = some topic) :
    let out := (empty limits).submit (log.map .write) disk
    let a := out.2.1
    (read q a).1 =
        .data (((lastWrite? topic (log.zip out.1)).bind (·.retained?)).getD nullPayload) ∧
      ∀ r, (a.machine.write r).1.isSuccess = false ∨ r.normalForm? ≠ some (Topic.normalize topic) →
        (read q (a.handle (.write r) disk).2.1).1 = (read q a).1 := by
  intro out a
  have fresh : (empty limits).machine.Sound limits := .empty limits
  have last := getElem?_drain fresh topic log disk
  have sound : a.machine.Sound limits := sound_drain _ _ fresh
  refine ⟨?_, fun r unsettled => ?_⟩
  · rw [read_point point given, show a.machine.payloads[Topic.normalize topic]? = _ from last]
    show Response.data (((lastWrite? topic (log.zip out.1)).elim none _).getD _) = _
    cases lastWrite? topic (log.zip out.1) with
    | some r => rfl
    | none => rfl
  · have unchanged : settles (Topic.normalize topic) (r, .written (a.machine.write r).1) = false := by
      rw [settles, Bool.and_eq_false_iff, decide_eq_false_iff_not]
      exact unsettled
    rw [read_point point given, read_point point given]
    show Response.data (((a.machine.write r).2.payloads[_]?).getD _) = _
    rw [sound.inStep.getElem?_write, unchanged]
    rfl

/-- Two spellings of one topic are stored, one after the other, and a topic with a wildcard is
refused. -/
theorem read_last_spellings :
    let log := [WriteRequest.ofTopic "a" " a" false [118], .ofTopic "a" "a/" false [119],
      .ofTopic "a" "a/+" false [120]]
    let out := (empty {}).submit (log.map .write) {}
    (read (.ofTopic "a") out.2.1).1 = .data [119] := by
  intro log out
  have given : (ReadRequest.ofTopic "a").fields[topicField]? = some "a" := by decide +kernel
  obtain ⟨answer, -⟩ := read_last {} log {} rfl given
  have last : (lastWrite? "a" (log.zip out.1)).bind (·.retained?) = some [119] := by decide +kernel
  rw [answer, last]
  rfl

end Replica

end Retained
