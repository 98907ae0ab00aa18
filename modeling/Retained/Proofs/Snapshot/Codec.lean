import Mathlib.Algebra.Ring.Nat
import Retained.Proofs.Json.Value
import Retained.Snapshot.Codec
import Retained.Snapshot.Meta

/-!
# Snapshot files and meta files are read back

`decode_encode`: the header holds the length of the body modulo 2^32, so a file is read back
exactly as long as its body is shorter than that, and is refused as corrupt from there on. A meta
file is read back exactly while the index fits 64 bits.
-/

namespace Retained

namespace Bytes

theorem toNat_word (a b c d : UInt8) :
    (word a b c d).toNat = a.toNat * 2 ^ 24 + b.toNat * 2 ^ 16 + c.toNat * 2 ^ 8 + d.toNat := by
  have hb := b.toNat_lt
  have hc := c.toNat_lt
  have hd := d.toNat_lt
  have shifted (x : UInt8) (k : Nat) (hk : k ≤ 24) : x.toNat <<< k % 2 ^ 32 = x.toNat <<< k := by
    refine Nat.mod_eq_of_lt ?_
    rw [Nat.shiftLeft_eq]
    calc x.toNat * 2 ^ k
        < 2 ^ 8 * 2 ^ k := Nat.mul_lt_mul_of_pos_right x.toNat_lt (Nat.two_pow_pos k)
      _ ≤ 2 ^ 8 * 2 ^ 24 := Nat.mul_le_mul_left _ (Nat.pow_le_pow_right (by decide) hk)
  show a.toNat <<< 24 % 2 ^ 32 ||| b.toNat <<< 16 % 2 ^ 32 ||| c.toNat <<< 8 % 2 ^ 32 ||| d.toNat = _
  rw [shifted a 24 (by decide), shifted b 16 (by decide), shifted c 8 (by decide)]
  -- the bytes do not overlap, so that each can be added instead
  have two : a.toNat <<< 24 ||| b.toNat <<< 16 = (a.toNat * 2 ^ 8 + b.toNat) <<< 16 := by
    rw [← Nat.shiftLeft_add_eq_or_of_lt (by rw [Nat.shiftLeft_eq]; omega)]
    simp only [Nat.shiftLeft_eq]
    omega
  have three : (a.toNat * 2 ^ 8 + b.toNat) <<< 16 ||| c.toNat <<< 8 =
      (a.toNat * 2 ^ 16 + b.toNat * 2 ^ 8 + c.toNat) <<< 8 := by
    rw [← Nat.shiftLeft_add_eq_or_of_lt (by rw [Nat.shiftLeft_eq]; omega)]
    simp only [Nat.shiftLeft_eq]
    omega
  rw [two, three, ← Nat.shiftLeft_add_eq_or_of_lt (by omega), Nat.shiftLeft_eq]
  omega

theorem toNat_shiftRight_toUInt8 (w : UInt32) {amount : UInt32} {k : Nat}
    (h : amount.toNat % 32 = k) :
    (w >>> amount).toUInt8.toNat = w.toNat / 2 ^ k % 2 ^ 8 := by
  show (w >>> amount).toNat % 2 ^ 8 = _
  rw [UInt32.toNat_shiftRight, h, Nat.shiftRight_eq_div_pow]

theorem word_bigEndian (w : UInt32) :
    word (w >>> 24).toUInt8 (w >>> 16).toUInt8 (w >>> 8).toUInt8 w.toUInt8 = w := by
  have hw := w.toNat_lt
  have low : w.toUInt8.toNat = w.toNat % 2 ^ 8 := rfl
  rw [← UInt32.toNat_inj, toNat_word, toNat_shiftRight_toUInt8 w (k := 24) rfl,
    toNat_shiftRight_toUInt8 w (k := 16) rfl, toNat_shiftRight_toUInt8 w (k := 8) rfl, low]
  omega

theorem bigEndian_word (a b c d : UInt8) : bigEndian (word a b c d) = [a, b, c, d] := by
  have ha := a.toNat_lt
  have hb := b.toNat_lt
  have hc := c.toNat_lt
  have hd := d.toNat_lt
  have first : ((word a b c d) >>> 24).toUInt8 = a := by
    rw [← UInt8.toNat_inj, toNat_shiftRight_toUInt8 _ (k := 24) rfl, toNat_word]
    omega
  have second : ((word a b c d) >>> 16).toUInt8 = b := by
    rw [← UInt8.toNat_inj, toNat_shiftRight_toUInt8 _ (k := 16) rfl, toNat_word]
    omega
  have third : ((word a b c d) >>> 8).toUInt8 = c := by
    rw [← UInt8.toNat_inj, toNat_shiftRight_toUInt8 _ (k := 8) rfl, toNat_word]
    omega
  have fourth : (word a b c d).toUInt8 = d := by
    have low : (word a b c d).toUInt8.toNat = (word a b c d).toNat % 2 ^ 8 := rfl
    rw [← UInt8.toNat_inj, low, toNat_word]
    omega
  rw [bigEndian, first, second, third, fourth]

theorem bigEndian_injective {v w : UInt32} (h : bigEndian v = bigEndian w) : v = w := by
  simp only [bigEndian, List.cons.injEq] at h
  obtain ⟨first, second, third, fourth, -⟩ := h
  rw [← word_bigEndian v, first, second, third, fourth, word_bigEndian]

end Bytes

namespace Snapshot

open Json Value

variable {d : Snapshot}

theorem plain_toJson (d : Snapshot) : d.toJson.Plain := by
  refine plain_ofMembers fun m hm => ?_
  rcases List.mem_cons.1 hm with rfl | hm
  · refine plain_ofMembers fun m hm => ?_
    obtain ⟨⟨topic, payload⟩, _, rfl⟩ := List.mem_map.1 hm
    refine plain_array fun v hv => ?_
    obtain ⟨b, _, rfl⟩ := List.mem_map.1 hv
    exact plain_ofNat b.toNat
  · rw [List.mem_singleton.1 hm]
    refine plain_ofMembers fun m hm => ?_
    obtain ⟨⟨ns, topics⟩, _, rfl⟩ := List.mem_map.1 hm
    exact plain_ofStrings topics

theorem plain_document (d : Snapshot) : d.document.Plain := by
  refine plain_ofMembers fun m hm => ?_
  rcases List.mem_cons.1 hm with rfl | hm
  · exact plain_ofNat version
  · rw [List.mem_singleton.1 hm]
    exact plain_toJson d

theorem ofJson?_toJson (d : Snapshot) : ofJson? d.toJson = some d := by
  have record : d.toJson.record? ["payloads", "namespaces"] = some [_, _] :=
    record?_ofMembers _ (by simp)
  have payloads := map?_ofMembers d.payloads bytes?_ofBytes
  have namespaces := map?_ofMembers d.namespaces texts?_ofStrings
  unfold ofJson?
  simp [record, payloads, namespaces]

theorem ofDocument?_document (d : Snapshot) : ofDocument? d.document = some (version, d) := by
  have record : d.document.record? ["version", "data"] = some [_, _] :=
    record?_ofMembers _ (by simp)
  have found : (ofNat version).nat? UInt32.size = some version := by
    rw [nat?_ofNat, if_pos (by decide)]
  unfold ofDocument?
  simp only [record, found, ofJson?_toJson, Option.bind_eq_bind, Option.bind_some, Option.pure_def]

theorem ofBody_body (d : Snapshot) : ofBody d.body = .ok d := by
  unfold ofBody body
  rw [ofBytes?_compact d.plain_document, Option.bind_some, ofDocument?_document]
  rfl

/-- The header of a frame gives away the length of its body up to a multiple of 2^32. -/
theorem unframe_frame (body : Bytes) :
    unframe (frame body) =
      if body.length < 2 ^ 32 then .ok body
      else .error (.bodyLength (body.length % 2 ^ 32) body.length) := by
  have length : (UInt32.ofNat body.length).toNat = body.length % 2 ^ 32 := UInt32.toNat_ofNat'
  unfold frame Bytes.bigEndian
  simp only [List.cons_append, List.nil_append, unframe, Bytes.word_bigEndian, length]
  by_cases short : body.length < 2 ^ 32
  · rw [if_neg (by omega), if_neg (fun h => h rfl), if_pos short]
  · rw [if_pos (by omega), if_neg short]

/-- What is taken out of a frame is what was put into it: the header admits no other body. -/
theorem eq_frame_of_unframe {raw body : Bytes} (h : unframe raw = .ok body) :
    raw = frame body ∧ body.length < 2 ^ 32 := by
  unfold unframe at h
  split at h
  · next l₁ l₂ l₃ l₄ c₁ c₂ c₃ c₄ rest =>
    dsimp only at h
    split at h
    · cases h
    next length =>
    split at h
    · cases h
    next checksum =>
    obtain rfl : rest = body := Except.ok.inj h
    rw [ne_eq, not_not] at length checksum
    refine ⟨?_, length ▸ UInt32.toNat_lt _⟩
    rw [frame, length, checksum, UInt32.ofNat_toNat, Bytes.bigEndian_word, Bytes.bigEndian_word]
    rfl
  · cases h

theorem decode_encode_short (h : d.body.length < 2 ^ 32) : decode d.encode = .ok d := by
  unfold decode encode
  rw [unframe_frame, if_pos h]
  show (ofBody d.body).mapError Error.codec = _
  rw [ofBody_body]
  rfl

theorem decode_encode_long (h : ¬ d.body.length < 2 ^ 32) :
    decode d.encode = .error (.corrupt (.bodyLength (d.body.length % 2 ^ 32) d.body.length)) := by
  unfold decode encode
  rw [unframe_frame, if_neg h]
  rfl

/-- Whatever the data, a file gives it back or is refused as corrupt, by the length of its
body. -/
theorem decode_encode (d : Snapshot) :
    decode d.encode =
      if d.body.length < 2 ^ 32 then .ok d
      else .error (.corrupt (.bodyLength (d.body.length % 2 ^ 32) d.body.length)) := by
  split
  · next h => exact decode_encode_short h
  · next h => exact decode_encode_long h

theorem Meta.appliedIndex_lt {bytes : Bytes} {m : Meta} (h : Meta.decode? bytes = some m) :
    m.appliedIndex < 2 ^ 64 := by
  unfold decode? at h
  obtain ⟨v, -, h⟩ := Option.bind_eq_some_iff.1 h
  unfold ofJson? at h
  obtain ⟨fields, -, h⟩ := Option.bind_eq_some_iff.1 h
  split at h
  · obtain ⟨index, number, h⟩ := Option.bind_eq_some_iff.1 h
    obtain ⟨created, -, h⟩ := Option.bind_eq_some_iff.1 h
    obtain ⟨files, -, h⟩ := Option.bind_eq_some_iff.1 h
    obtain rfl := Option.some.inj h
    exact lt_of_nat? number
  · cases h

/-- A meta file is read back exactly while its index fits 64 bits. -/
theorem Meta.decode?_encode (m : Meta) :
    Meta.decode? m.encode = if m.appliedIndex < 2 ^ 64 then some m else none := by
  have plain : m.toJson.Plain := by
    refine plain_ofMembers fun n hn => ?_
    rcases List.mem_cons.1 hn with rfl | hn
    · exact plain_ofNat m.appliedIndex
    rcases List.mem_cons.1 hn with rfl | hn
    · exact plain_ofString m.createdAt
    · rw [List.mem_singleton.1 hn]
      exact plain_ofStrings m.files
  have record : m.toJson.record? ["applied_index", "created_at", "files"] = some [_, _, _] :=
    record?_ofMembers _ (by simp)
  have size : UInt64.size = 2 ^ 64 := rfl
  unfold decode? encode
  rw [ofBytes?_indented plain, Option.bind_some]
  unfold Meta.ofJson?
  by_cases h : m.appliedIndex < 2 ^ 64
  · simp only [record, nat?_ofNat, text?_ofString, texts?_ofStrings, size, if_pos h,
      Option.bind_eq_bind, Option.bind_some, Option.pure_def]
  · simp only [record, nat?_ofNat, size, if_neg h, Option.bind_eq_bind, Option.bind_some,
    Option.bind_none]

end Snapshot

end Retained
