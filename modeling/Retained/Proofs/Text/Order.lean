import Mathlib.Data.String.Basic
import Retained.Bytes

/-!
# The order of texts

Texts are ordered by their characters, and so are their encodings byte by byte (`utf8_lt_utf8`):
sorted texts are sorted as byte strings too. The first characters that differ settle both. A
longer encoding of one character begins with a greater byte, and in equally long ones each byte
stands for a digit of the character's number, the high one first (`KeepsOrder`).
-/

namespace Retained.Bytes

variable {bound : Nat} {digits : Nat → Bytes} {a b : Nat} {as bs : Bytes} {c d : Char}
  {s t : String}

/-! ## Numbers as digits -/

/-- Numbers below the bound are written in their order, whatever comes behind them. -/
def KeepsOrder (bound : Nat) (digits : Nat → Bytes) : Prop :=
  ∀ m n, m < n → n < bound → ∀ bs cs, digits m ++ bs < digits n ++ cs

theorem cons_ofNat_lt (h : a < b) (hb : b < 256) : UInt8.ofNat a :: as < UInt8.ofNat b :: bs := by
  refine List.cons_lt_cons_iff.2 (.inl ?_)
  rw [UInt8.lt_iff_toNat_lt, UInt8.toNat_ofNat', UInt8.toNat_ofNat']
  omega

theorem keepsOrder_lead (bound lead : Nat) (h : bound + lead ≤ 256) :
    KeepsOrder bound fun n => [.ofNat (n % bound + lead)] := by
  intro m n lt room bs cs
  dsimp only
  rw [Nat.mod_eq_of_lt room, Nat.mod_eq_of_lt (Nat.lt_trans lt room)]
  exact cons_ofNat_lt (by omega) (by omega)

theorem KeepsOrder.further (h : KeepsOrder bound digits) :
    KeepsOrder (bound * 64) fun n => digits (n / 64) ++ [.ofNat (n % 64 + 0x80)] := by
  intro m n lt room bs cs
  rw [List.append_assoc, List.append_assoc]
  rcases Nat.lt_or_eq_of_le (Nat.div_le_div_right (c := 64) (Nat.le_of_lt lt)) with high | high
  · exact h _ _ high (by omega) _ _
  · rw [high]
    exact List.append_left_lt (cons_ofNat_lt (by omega) (by omega))

/-- Numbers up to a limit may be written otherwise than those above it, if that begins with
less. -/
theorem KeepsOrder.ite (limit : Nat) {low high : Nat → Bytes} (h : KeepsOrder (limit + 1) low)
    (h' : KeepsOrder bound high)
    (cross : ∀ m n, m ≤ limit → limit < n → n < bound → ∀ bs cs, low m ++ bs < high n ++ cs) :
    KeepsOrder bound fun n => if n ≤ limit then low n else high n := by
  intro m n lt room bs cs
  dsimp only
  split
  · split
    · next hm hn => exact h m n lt (by omega) bs cs
    · next hm hn => exact cross m n hm (by omega) room bs cs
  · rw [if_neg (by omega)]
    exact h' m n lt room bs cs

/-! ## Characters and texts -/

/-- The encodings of two characters differ before what comes behind them counts. -/
theorem utf8EncodeChar_append_lt (h : c < d) (as bs : Bytes) :
    String.utf8EncodeChar c ++ as < String.utf8EncodeChar d ++ bs := by
  have lt : c.val.toNat < d.val.toNat := h
  have valid : d.val.toNat.isValidChar := d.valid
  unfold Nat.isValidChar at valid
  have one : KeepsOrder 0x80 fun n => [.ofNat n] := fun m n lt room bs cs =>
    cons_ofNat_lt lt (by omega)
  have two := (keepsOrder_lead 0x20 0xc0 (by decide)).further
  have three := (keepsOrder_lead 0x10 0xe0 (by decide)).further.further
  have four := (keepsOrder_lead 0x08 0xf0 (by decide)).further.further.further
  simp only [Nat.div_div_eq_div_mul, Nat.reduceMul, List.cons_append, List.nil_append]
    at two three four
  -- a longer encoding begins with a greater byte
  have upper := three.ite 0xffff four fun m n _ _ _ _ _ =>
    cons_ofNat_lt (by omega) (by omega)
  have middle := two.ite 0x7ff upper fun m n _ _ _ _ _ => by
    split <;> exact cons_ofNat_lt (by omega) (by omega)
  have all := one.ite 0x7f middle fun m n _ _ _ _ _ => by
    split_ifs <;> exact cons_ofNat_lt (by omega) (by omega)
  exact all _ _ lt (by omega) as bs

theorem utf8_eq_flatMap (s : String) : utf8 s = s.toList.flatMap String.utf8EncodeChar := by
  unfold utf8 ofByteArray String.toUTF8
  rw [← String.utf8Encode_toList, List.utf8Encode, List.data_toByteArray]

theorem utf8_lt_utf8 (h : s < t) : utf8 s < utf8 t := by
  rw [utf8_eq_flatMap, utf8_eq_flatMap]
  have chars : s.toList < t.toList := h
  generalize s.toList = cs at chars
  generalize t.toList = ds at chars
  induction chars with
  | @nil d ds =>
    rw [List.flatMap_nil, List.flatMap_cons]
    cases e : String.utf8EncodeChar d with
    | nil => exact absurd e String.utf8EncodeChar_ne_nil
    | cons b bs => exact List.nil_lt_cons ..
  | rel lt => exact utf8EncodeChar_append_lt lt _ _
  | cons _ ih => exact List.append_left_lt ih

end Retained.Bytes
