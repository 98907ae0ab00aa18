import Retained.Proofs.Json.Value
import Retained.Proofs.Replica.LastWrite
import Retained.Proofs.Store.Addressable

/-!
# Acknowledgements

An accepted write is acknowledged by the JSON string of the topic's normal form, which is read
back to just this text whatever its characters are (`text?_acknowledgement`). Named in place of
the topic, the normal form passes the same checks and comes down to the same key, so that no store
tells the two apart (`Store.apply_naming`, `Store.read_naming`).
-/

namespace Retained

/-- The acknowledgement is one JSON string, and spells the topic. -/
theorem text?_acknowledgement (topic : String) :
    (Json.Value.ofBytes? (acknowledgement topic)).bind Json.Value.text? = some topic := by
  have line : acknowledgement topic = (Json.Value.ofString topic).compact :=
    (List.append_nil _).symm
  rw [line, Json.Value.ofBytes?_compact (Json.Value.plain_ofString topic), Option.bind_some]
  exact Json.Value.text?_ofString topic

/-! ## Another name for a topic -/

def WriteRequest.naming (topic : String) (r : WriteRequest) : WriteRequest :=
  { r with fields := r.fields.insert topicField topic }

def ReadRequest.naming (topic : String) (q : ReadRequest) : ReadRequest :=
  { q with fields := q.fields.insert topicField topic }

namespace Fields

variable {fields : Fields} {key value topic : String}

theorem required_eq_ok (h : fields[key]? = some value) : fields.required key = .ok value := by
  unfold required
  rw [h]

theorem required_naming : required topicField (fields.insert topicField topic) = .ok topic :=
  required_eq_ok (Std.ExtTreeMap.getElem?_insert_self ..)

theorem getElem?_naming (h : key ≠ topicField) :
    (fields.insert topicField topic)[key]? = fields[key]? := by
  rw [Std.ExtTreeMap.getElem?_insert, if_neg]
  rw [Std.LawfulEqOrd.compare_eq_iff_eq]
  exact h.symm

end Fields

namespace Topic

variable {first topic : String}

theorem Writable.normal (h : Writable first topic) : Writable first (normalize topic) := by
  have own : Writable (normalize topic) (normalize topic) := h.addressable.writable
  refine ⟨h.first_nonblank, own.topic_nonblank, own.no_single, own.no_multi, ?_⟩
  rw [namespaceOf_normalize]
  exact h.same_namespace

end Topic

namespace Store

variable {first topic : String}

theorem resolve_normalize (h : Topic.Writable first topic) :
    resolve first (Topic.normalize topic) = resolve first topic := by
  rw [resolve_of_writable h, resolve_of_writable h.normal, Topic.namespaceOf_normalize,
    Topic.normalize_normalize]

/-- A write does the same under the normal form of its topic. -/
theorem apply_naming {r : WriteRequest} (h : Topic.Writable first topic)
    (first_given : r.fields[firstTopicField]? = some first)
    (topic_given : r.fields[topicField]? = some topic) (s : Store) :
    s.apply (r.naming (Topic.normalize topic)) = s.apply r := by
  have same_first : (r.naming (Topic.normalize topic)).fields.required firstTopicField = .ok first :=
    Fields.required_eq_ok ((Fields.getElem?_naming (by decide)).trans first_given)
  have normal : (r.naming (Topic.normalize topic)).fields.required topicField =
      .ok (Topic.normalize topic) := Fields.required_naming
  have same_kind : (r.naming (Topic.normalize topic)).isEmpty = r.isEmpty := by
    unfold WriteRequest.isEmpty WriteRequest.naming
    rw [Fields.getElem?_naming (by decide)]
  unfold apply
  rw [same_first, normal, same_kind, Fields.required_eq_ok first_given,
    Fields.required_eq_ok topic_given]
  unfold Store.remove Store.put
  dsimp only
  rw [resolve_normalize h]
  rfl

theorem read_naming {q : ReadRequest} (h : Topic.Writable first topic)
    (given : q.fields[topicField]? = some topic) (s : Store) :
    s.read (q.naming (Topic.normalize topic)) = s.read q := by
  have normal : (q.naming (Topic.normalize topic)).fields.required topicField =
      .ok (Topic.normalize topic) := Fields.required_naming
  have same_first : (q.naming (Topic.normalize topic)).fields.required firstTopicField =
      q.fields.required firstTopicField := by
    unfold Fields.required ReadRequest.naming
    rw [Fields.getElem?_naming (by decide)]
  have same_get : s.get? (Topic.normalize topic) = s.get? topic := by
    unfold get?
    rw [Topic.normalize_normalize]
  have same_matching (other : String) :
      s.matching other (Topic.normalize topic) = s.matching other topic := by
    rw [matching_of_nonblank h.normal.topic_nonblank, matching_of_nonblank h.topic_nonblank,
      Topic.normalize_normalize]
  unfold read
  rw [normal, same_first, Fields.required_eq_ok given]
  dsimp only
  rw [same_get]
  simp only [same_matching]
  rfl

theorem InStep.exists_acknowledged {s : Store} {r : WriteRequest} (h : s.InStep)
    (accepted : (s.write r).1.isSuccess = true) :
    ∃ first topic, s.Eligible r first topic ∧
      (s.write r).1 = .data (acknowledgement (Topic.normalize topic)) := by
  have ending := h.ending r
  generalize applied : s.apply r = p at ending
  cases ending with
  | dropped eligible drop => exact ⟨_, _, eligible, by rw [write_of_ok applied]⟩
  | stored eligible _ fits => exact ⟨_, _, eligible, by rw [write_of_ok applied]⟩
  | full eligible _ full =>
    rw [write_of_error applied] at accepted
    cases accepted
  | malformed ineligible =>
    rw [write_of_error applied] at accepted
    cases accepted

end Store

namespace Replica

variable {limits : Limits} {a : Replica} {r : WriteRequest} {first topic : String}

/--
An accepted write is acknowledged by one JSON string that spells the normal form of its topic, and
what the write has left is retained under this name. Whatever has become of a replica, a read that
names the topic is answered as one that names the normal form, and a write with the same first
topic is replied to alike and leaves the same replica.
-/
theorem acknowledgement_names (reached : Reached limits a) (disk : Disk)
    (first_given : r.fields[firstTopicField]? = some first)
    (topic_given : r.fields[topicField]? = some topic)
    (accepted : (a.machine.write r).1.isSuccess = true) :
    let m := Topic.normalize topic
    let out := a.handle (.write r) disk
    (∃ bytes, out.1 = some (.written (.data bytes)) ∧
        (Json.Value.ofBytes? bytes).bind Json.Value.text? = some m) ∧
      out.2.1.machine.get? m = r.retained? ∧
      (∀ (b : Replica) (q : ReadRequest), q.fields[topicField]? = some topic →
        b.read (q.naming m) = b.read q) ∧
      ∀ (b : Replica) (q : WriteRequest) (disk' : Disk), q.fields[firstTopicField]? = some first →
        q.fields[topicField]? = some topic →
          b.handle (.write (q.naming m)) disk' = b.handle (.write q) disk' := by
  intro m out
  have inStep := reached.sound.inStep
  obtain ⟨first', topic', eligible, answer⟩ := inStep.exists_acknowledged accepted
  obtain rfl := Option.some.inj (first_given.symm.trans eligible.first_given)
  obtain rfl := Option.some.inj (topic_given.symm.trans eligible.topic_given)
  refine ⟨⟨acknowledgement m, congrArg (some ∘ Reply.written) answer, text?_acknowledgement m⟩, ?_,
    fun b q given => ?_, fun b q disk' first_given topic_given => ?_⟩
  · have settled : settles m (r, .written (a.machine.write r).1) = true :=
      Bool.and_eq_true_iff.2 ⟨accepted, decide_eq_true (Store.normalForm?_of_eligible eligible)⟩
    show (a.machine.write r).2.get? m = _
    rw [Store.get?_of_normal (Topic.normalize_normalize topic), inStep.getElem?_write, settled]
    rfl
  · unfold read
    rw [Store.read_naming eligible.writable given]
  · show (some (Reply.written (b.machine.write _).1), _, _) = _
    unfold Store.write
    rw [Store.apply_naming eligible.writable first_given topic_given]
    rfl

/-- The name of a topic with blanks around it, a quotation mark, a backslash and control
characters. -/
theorem acknowledgement_names_quoted :
    let r := WriteRequest.ofTopic "a" " a/\"\n\\\x01 " false [118]
    let out := (empty {}).handle (.write r) {}
    (∃ bytes, out.1 = some (.written (.data bytes)) ∧
        (Json.Value.ofBytes? bytes).bind Json.Value.text? = some "a/\"\n\\\x01") ∧
      out.2.1.machine.get? "a/\"\n\\\x01" = some [118] := by
  intro r out
  have first_given : r.fields[firstTopicField]? = some "a" := by decide +kernel
  have topic_given : r.fields[topicField]? = some " a/\"\n\\\x01 " := by decide +kernel
  have accepted : ((empty {}).machine.write r).1.isSuccess = true := by decide +kernel
  have normal : Topic.normalize " a/\"\n\\\x01 " = "a/\"\n\\\x01" := by decide +kernel
  have retained : r.retained? = some [118] := by decide +kernel
  obtain ⟨acknowledged, stored, -⟩ :=
    acknowledgement_names .empty {} first_given topic_given accepted
  rw [normal] at acknowledged stored
  exact ⟨acknowledged, stored.trans retained⟩

end Replica

end Retained
