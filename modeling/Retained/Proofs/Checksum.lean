import Mathlib.Algebra.Ring.Nat
import Retained.Checksum

/-!
# Which changes a checksum sees

Shifting is linear in exclusive or (`shift_xor`) and loses nothing (`shift_injective`), so a
register that differs stays different whatever bytes come after (`foldl_feed_injective`). Up to
four bytes are taken in as one word, added to the register before it is shifted (`foldl_feed`):
two runs of bytes of one length that are no longer than the register leave it different if they
are. Hence a change within four bytes in a row always shows (`eq_of_crc32_eq`).
-/

namespace Retained.Checksum

variable {r s : UInt32} {bs cs : Bytes}

/-! ## Shifts -/

/-- The bit that goes out decides whether the polynomial is added. -/
theorem shift_eq (r : UInt32) :
    shift r = (r >>> 1) ^^^ if r.toNat.testBit 0 then polynomial else 0 := by
  have low : r &&& 1 = 1 ↔ r.toNat.testBit 0 = true := by
    rw [← UInt32.toNat_inj, UInt32.toNat_and, Nat.testBit_zero, decide_eq_true_eq]
    exact Iff.of_eq (congrArg (· = 1) (Nat.and_one_is_mod r.toNat))
  unfold shift
  simp only [low]
  split
  · rfl
  · rw [UInt32.xor_zero]

theorem shift_xor (r s : UInt32) : shift (r ^^^ s) = shift r ^^^ shift s := by
  simp only [shift_eq, UInt32.toNat_xor, Nat.testBit_xor, UInt32.shiftRight_xor]
  cases r.toNat.testBit 0 <;> cases s.toNat.testBit 0
  · simp
  · simp [UInt32.xor_assoc]
  · simp [UInt32.xor_assoc, UInt32.xor_comm polynomial]
  · have twice : polynomial ^^^ (s >>> 1 ^^^ polynomial) = s >>> 1 := by
      rw [UInt32.xor_comm, UInt32.xor_assoc, UInt32.xor_self, UInt32.xor_zero]
    simp [UInt32.xor_assoc, twice]

/-- The bit that went out can be told from the top of the register. -/
theorem testBit_shift (r : UInt32) : (shift r).toNat.testBit 31 = r.toNat.testBit 0 := by
  have gone : (r >>> 1).toNat.testBit 31 = false := by
    rw [UInt32.toNat_shiftRight, Nat.testBit_shiftRight]
    exact Nat.testBit_lt_two_pow r.toNat_lt
  rw [shift_eq, UInt32.toNat_xor, Nat.testBit_xor, gone, Bool.false_xor]
  cases r.toNat.testBit 0
  · rfl
  · decide

theorem shift_injective (h : shift r = shift s) : r = s := by
  have low : r.toNat.testBit 0 = s.toNat.testBit 0 := by
    rw [← testBit_shift, h, testBit_shift]
  rw [shift_eq, shift_eq, low, UInt32.xor_left_inj] at h
  have high : r.toNat / 2 = s.toNat / 2 := congrArg UInt32.toNat h
  rw [Nat.testBit_zero, Nat.testBit_zero, decide_eq_decide] at low
  exact UInt32.toNat_inj.1 (by omega)

theorem shifts_xor (n : Nat) (r s : UInt32) : shifts n (r ^^^ s) = shifts n r ^^^ shifts n s := by
  induction n generalizing r s with
  | zero => rfl
  | succ n ih => rw [shifts, shift_xor, ih, shifts, shifts]

theorem shifts_injective {n : Nat} (h : shifts n r = shifts n s) : r = s := by
  induction n generalizing r s with
  | zero => exact h
  | succ n ih => exact shift_injective (ih h)

theorem shifts_add (m n : Nat) (r : UInt32) : shifts (m + n) r = shifts n (shifts m r) := by
  induction m generalizing r with
  | zero => rw [Nat.zero_add, shifts]
  | succ m ih => rw [Nat.add_right_comm, shifts, ih, shifts]

/-- As long as only zeros go out, shifts divide. -/
theorem shifts_of_mul {n : Nat} (h : r.toNat = s.toNat * 2 ^ n) : shifts n r = s := by
  induction n generalizing r with
  | zero => exact UInt32.toNat_inj.1 (by rwa [Nat.pow_zero, Nat.mul_one] at h)
  | succ n ih =>
    rw [Nat.pow_succ, ← Nat.mul_assoc] at h
    have zero : r.toNat.testBit 0 = false := by
      rw [Nat.testBit_zero, decide_eq_false_iff_not]
      omega
    have half : shift r = r >>> 1 := by
      rw [shift_eq, zero]
      exact UInt32.xor_zero
    rw [shifts, half]
    refine ih ?_
    show r.toNat / 2 = _
    omega

/-! ## Bytes -/

def littleEndian : Bytes → UInt32
  | [] => 0
  | b :: bs => b.toUInt32 ^^^ littleEndian bs <<< 8

theorem toNat_shiftLeft_eight (h : r.toNat < 2 ^ 24) : (r <<< 8).toNat = r.toNat * 2 ^ 8 := by
  show r.toNat <<< 8 % 2 ^ 32 = _
  rw [Nat.shiftLeft_eq, Nat.mod_eq_of_lt]
  omega

theorem littleEndian_lt {n : Nat} (hn : n ≤ 4) (h : bs.length ≤ n) :
    (littleEndian bs).toNat < 2 ^ (8 * n) := by
  induction bs generalizing n with
  | nil => exact Nat.two_pow_pos _
  | cons b bs ih =>
    rw [List.length_cons] at h
    obtain ⟨n, rfl⟩ : ∃ m, n = m + 1 := ⟨n - 1, by omega⟩
    have rest := ih (n := n) (by omega) (by omega)
    have word : (littleEndian bs).toNat < 2 ^ 24 :=
      Nat.lt_of_lt_of_le rest (Nat.pow_le_pow_right (by decide) (by omega))
    rw [littleEndian, UInt32.toNat_xor, toNat_shiftLeft_eight word]
    refine Nat.xor_lt_two_pow ?_ ?_
    · exact Nat.lt_of_lt_of_le b.toNat_lt (Nat.pow_le_pow_right (by decide) (by omega))
    · rw [show 8 * (n + 1) = 8 * n + 8 from rfl, Nat.pow_add]
      exact Nat.mul_lt_mul_of_pos_right rest (by decide)

theorem toNat_shiftLeft_littleEndian (h : bs.length ≤ 3) :
    (littleEndian bs <<< 8).toNat = (littleEndian bs).toNat * 2 ^ 8 :=
  toNat_shiftLeft_eight (littleEndian_lt (n := 3) (by decide) h)

theorem toNat_littleEndian_mod {b : UInt8} (h : bs.length ≤ 3) :
    (littleEndian (b :: bs)).toNat % 2 ^ 8 = b.toNat := by
  rw [littleEndian, UInt32.toNat_xor, toNat_shiftLeft_littleEndian h, Nat.xor_mod_two_pow,
    Nat.mul_mod_left, Nat.xor_zero, UInt8.toNat_toUInt32, Nat.mod_eq_of_lt b.toNat_lt]

theorem littleEndian_injective (short : bs.length ≤ 4) (length : bs.length = cs.length)
    (h : littleEndian bs = littleEndian cs) : bs = cs := by
  induction bs generalizing cs with
  | nil => exact (List.length_eq_zero_iff.1 length.symm).symm
  | cons b bs ih =>
    cases cs with
    | nil => cases length
    | cons c cs =>
    rw [List.length_cons] at short
    rw [List.length_cons, List.length_cons] at length
    have hb : bs.length ≤ 3 := by omega
    have hc : cs.length ≤ 3 := by omega
    obtain rfl : b = c := by
      rw [← UInt8.toNat_inj, ← toNat_littleEndian_mod hb, h, toNat_littleEndian_mod hc]
    rw [littleEndian, littleEndian, UInt32.xor_right_inj] at h
    have shifted := congrArg UInt32.toNat h
    rw [toNat_shiftLeft_littleEndian hb, toNat_shiftLeft_littleEndian hc] at shifted
    exact congrArg (b :: ·) (ih (by omega) (by omega) (UInt32.toNat_inj.1 (by omega)))

/-- Up to four bytes are taken in as one word. -/
theorem foldl_feed (r : UInt32) (h : bs.length ≤ 4) :
    bs.foldl feed r = shifts (8 * bs.length) (r ^^^ littleEndian bs) := by
  induction bs generalizing r with
  | nil => exact (UInt32.xor_zero).symm
  | cons b bs ih =>
    rw [List.length_cons] at h
    have above : shifts 8 (littleEndian bs <<< 8) = littleEndian bs :=
      shifts_of_mul (toNat_shiftLeft_littleEndian (by omega))
    calc (b :: bs).foldl feed r
        = shifts (8 * bs.length) (shifts 8 (r ^^^ b.toUInt32) ^^^ littleEndian bs) :=
          ih _ (by omega)
      _ = shifts (8 * bs.length) (shifts 8 (r ^^^ b.toUInt32 ^^^ littleEndian bs <<< 8)) := by
          rw [shifts_xor 8 (r ^^^ b.toUInt32), above]
      _ = shifts (8 * (b :: bs).length) (r ^^^ littleEndian (b :: bs)) := by
          rw [← shifts_add, UInt32.xor_assoc, List.length_cons, Nat.mul_succ, Nat.add_comm,
            littleEndian]

/-! ## Changes -/

theorem feed_injective {b : UInt8} (h : feed r b = feed s b) : r = s :=
  (UInt32.xor_left_inj _).1 (shifts_injective h)

theorem foldl_feed_injective (h : bs.foldl feed r = bs.foldl feed s) : r = s := by
  induction bs generalizing r s with
  | nil => exact h
  | cons b bs ih => exact feed_injective (ih h)

/-- A change of up to four bytes in a row changes the checksum. -/
theorem eq_of_crc32_eq {before after : Bytes} (short : bs.length ≤ 4)
    (length : bs.length = cs.length)
    (h : crc32 (before ++ bs ++ after) = crc32 (before ++ cs ++ after)) : bs = cs := by
  simp only [crc32, UInt32.xor_left_inj, List.foldl_append] at h
  have registers := foldl_feed_injective h
  rw [foldl_feed _ short, foldl_feed _ (length ▸ short : cs.length ≤ 4), length] at registers
  exact littleEndian_injective short length
    ((UInt32.xor_right_inj _).1 (shifts_injective registers))

end Retained.Checksum
