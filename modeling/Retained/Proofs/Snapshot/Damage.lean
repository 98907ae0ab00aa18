import Retained.Proofs.Checksum
import Retained.Proofs.Snapshot.Codec

/-!
# Damaged snapshot files

A file that is read, whatever comes of its document, is a frame (`isCorrupt_of_ne_frame`), and a
frame is known by its header and its body together. So a file that was cut short, that goes on
behind its end or whose header was changed is refused as corrupt. So is one whose body was changed
within four bytes in a row, since its checksum shows that (`isCorrupt_of_damage`).
-/

namespace Retained

structure Bytes.AgreeOutside (i n : Nat) (f g : Bytes) : Prop where
  length : g.length = f.length
  same : ∀ j, j < i ∨ i + n ≤ j → g[j]? = f[j]?

namespace Bytes.AgreeOutside

variable {f g : Bytes} {i n m : Nat}

theorem take_eq (h : AgreeOutside i n f g) : g.take i = f.take i := by
  refine List.ext_getElem? fun j => ?_
  rw [List.getElem?_take, List.getElem?_take]
  split
  · next before => exact h.same j (.inl before)
  · rfl

theorem drop_eq (h : AgreeOutside i n f g) : g.drop (i + n) = f.drop (i + n) := by
  refine List.ext_getElem? fun j => ?_
  rw [List.getElem?_drop, List.getElem?_drop]
  exact h.same _ (.inr (Nat.le_add_right ..))

theorem drop (h : AgreeOutside (i + m) n f g) : AgreeOutside i n (f.drop m) (g.drop m) := by
  refine ⟨by rw [List.length_drop, List.length_drop, h.length], fun j outside => ?_⟩
  rw [List.getElem?_drop, List.getElem?_drop]
  exact h.same _ (by omega)

theorem exists_middle (h : AgreeOutside i n f g) :
    ∃ before bs cs after, f = before ++ bs ++ after ∧ g = before ++ cs ++ after ∧ bs.length ≤ n ∧
      bs.length = cs.length := by
  have parts (l : Bytes) : l = l.take i ++ (l.drop i).take n ++ l.drop (i + n) := by
    rw [List.append_assoc, ← List.drop_drop, List.take_append_drop, List.take_append_drop]
  refine ⟨_, _, (g.drop i).take n, _, parts f, ?_, List.length_take_le .., ?_⟩
  · rw [← h.take_eq, ← h.drop_eq]
    exact parts g
  · rw [List.length_take, List.length_take, List.length_drop, List.length_drop, h.length]

end Bytes.AgreeOutside

namespace Snapshot

variable {d : Snapshot} {body body' raw f g : Bytes}

/-! ## Frames -/

theorem frame_eq (body : Bytes) :
    frame body = Bytes.bigEndian (.ofNat body.length) ++
      (Bytes.bigEndian (Checksum.crc32 body) ++ body) := List.append_assoc ..

theorem take_frame (body : Bytes) :
    (frame body).take 8 =
      Bytes.bigEndian (.ofNat body.length) ++ Bytes.bigEndian (Checksum.crc32 body) := rfl

theorem length_frame (body : Bytes) : (frame body).length = body.length + 8 := rfl

/-- One frame is not the beginning of another, since it gives its own length. -/
theorem frame_eq_of_isPrefix (short : body.length < 2 ^ 32) (short' : body'.length < 2 ^ 32)
    (h : frame body <+: frame body') : frame body = frame body' := by
  obtain ⟨more, e⟩ := id h
  rw [frame_eq, frame_eq, List.append_assoc] at e
  have words := Bytes.bigEndian_injective (List.append_inj_left e rfl)
  have lengths := congrArg UInt32.toNat words
  rw [UInt32.toNat_ofNat_of_lt' short, UInt32.toNat_ofNat_of_lt' short'] at lengths
  exact h.eq_of_length (by rw [length_frame, length_frame, lengths])

/-- Bodies under one header that differ in at most four bytes in a row do not differ. -/
theorem eq_of_burst {i : Nat} (h : (frame body).AgreeOutside (i + 8) 4 (frame body')) :
    body = body' := by
  have header : (frame body).take 8 = (frame body').take 8 := by
    have := congrArg (List.take 8) h.take_eq
    rw [List.take_take, List.take_take, Nat.min_eq_left (by omega)] at this
    exact this.symm
  rw [take_frame, take_frame] at header
  have checksums := Bytes.bigEndian_injective (List.append_inj_right header rfl)
  have inside : body.AgreeOutside i 4 body' := h.drop
  obtain ⟨before, bs, cs, after, rfl, rfl, short, length⟩ := inside.exists_middle
  rw [Checksum.eq_of_crc32_eq short length checksums]

/-! ## Damage -/

def IsCorrupt (raw : Bytes) : Prop := ∃ fault, decode raw = .error (.corrupt fault)

/-- What is no frame is refused before its document is looked at. -/
theorem isCorrupt_of_ne_frame (h : ∀ body, body.length < 2 ^ 32 → raw ≠ frame body) :
    IsCorrupt raw := by
  unfold IsCorrupt decode
  cases taken : unframe raw with
  | error fault => exact ⟨fault, rfl⟩
  | ok body =>
    obtain ⟨e, short⟩ := eq_frame_of_unframe taken
    exact absurd e (h body short)

/-- What may become of a file, whose header takes the first eight bytes. -/
inductive Damage (f : Bytes) : Bytes → Prop where
  | cut {g : Bytes} (h : g <+: f) : Damage f g
  | extended {g : Bytes} (h : f <+: g) : Damage f g
  | header {g : Bytes} (h : f.AgreeOutside 0 8 g) : Damage f g
  /-- Up to four bytes in a row behind the header are others. -/
  | burst {g : Bytes} (i : Nat) (h : f.AgreeOutside (i + 8) 4 g) : Damage f g

theorem Damage.frame_eq (short : body.length < 2 ^ 32) (short' : body'.length < 2 ^ 32)
    (h : Damage (frame body) (frame body')) : frame body = frame body' := by
  cases h with
  | cut h => exact (frame_eq_of_isPrefix short' short h).symm
  | extended h => exact frame_eq_of_isPrefix short short' h
  | header h => exact congrArg frame (h.drop_eq).symm
  | burst i h => exact congrArg frame (eq_of_burst h)

/--
A file with a body shorter than 2^32 bytes that was cut short, goes on behind its end, has another
header or a body that is another within four bytes in a row is refused as corrupt.
-/
theorem isCorrupt_of_damage (short : d.body.length < 2 ^ 32) (damage : Damage d.encode g)
    (changed : g ≠ d.encode) : IsCorrupt g := by
  refine isCorrupt_of_ne_frame fun body short' e => changed ?_
  subst e
  exact (damage.frame_eq short short').symm

set_option maxRecDepth 4000 in
/-- A file of one topic that was cut within its header, and one whose payload was made another. -/
theorem isCorrupt_of_damage_one :
    let d : Snapshot := ⟨.ofList [("a/x", ([118] : Bytes))], .ofList [("a", ["a/x"])]⟩
    d.body.length < 2 ^ 32 ∧ IsCorrupt (d.encode.take 5) ∧ IsCorrupt (d.encode.set 50 0x39) := by
  intro d
  have short : d.body.length < 2 ^ 32 := by decide +kernel
  have burst : d.encode.AgreeOutside (42 + 8) 4 (d.encode.set 50 0x39) :=
    ⟨List.length_set, fun j outside => List.getElem?_set_ne (by omega)⟩
  exact ⟨short, isCorrupt_of_damage short (.cut (List.take_prefix ..)) (by decide +kernel),
    isCorrupt_of_damage short (.burst 42 burst) (by decide +kernel)⟩

end Snapshot

end Retained
