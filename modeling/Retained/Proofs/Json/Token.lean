import Mathlib.Data.List.Chain
import Retained.Json.Printer

/-!
# Scanning what is spelled

`Token.Spells ts bs`: the bytes `bs` spell the tokens `ts` in order, with blanks before any of
them and at the end. Both layouts of the printer are of this kind. Two words must not stand side
by side (`Token.Separated`); then the scanner finds the tokens again (`ofBytes?_of_spells`).
-/

namespace Retained.Json

/-! ## Strings -/

/-- How the scanner notes down a byte that `escape` has spelled. -/
def Piece.ofByte (b : UInt8) : Piece :=
  if b < 0x20 ∧ b ∉ ([0x08, 0x0C, 0x0A, 0x0D, 0x09] : Bytes) then .unit b.toNat else .byte b

theorem assemble_ofByte (tail bs : Bytes) : assemble tail (bs.map Piece.ofByte) = bs.reverse ++ tail := by
  induction bs generalizing tail with
  | nil => rfl
  | cons b bs ih =>
    rw [List.map_cons, List.reverse_cons, List.append_assoc, List.singleton_append, ← ih (b :: tail)]
    by_cases h : b < 0x20 ∧ b ∉ ([0x08, 0x0C, 0x0A, 0x0D, 0x09] : Bytes)
    · have hb : b.toNat < 0x20 := h.1
      have unit : encodePoint b.toNat = [b] := by
        rw [encodePoint, if_pos (by omega)]; simp
      have low : isLowSurrogate b.toNat = false := by
        unfold isLowSurrogate; simp; omega
      rw [show Piece.ofByte b = .unit b.toNat from if_pos h]
      -- a unit below the surrogates never joins the one before it
      cases bs with
      | nil => simp [assemble, unit]
      | cons c cs =>
        rw [List.map_cons]
        cases Piece.ofByte c with
        | byte _ => simp [assemble, unit]
        | unit _ => simp [assemble, unit, low]
    · rw [show Piece.ofByte b = .byte b from if_neg h]
      rfl

theorem hexDigit?_digitChar : ∀ n < 16, hexDigit? (Nat.digitChar n).toUInt8 = some n := by decide

namespace Scanner

variable {acc : List Token} {seen : List Piece} {b : UInt8}

theorem scan_escape (b : UInt8) (seen : List Piece) (acc : List Token) :
    (escape b).foldlM step? ⟨.quoted seen true, acc⟩ =
      some ⟨.quoted (Piece.ofByte b :: seen) true, acc⟩ := by
  unfold escape
  split
  · next h => subst h; rfl
  split
  · next h => subst h; rfl
  next quotation backslash =>
  split
  · next h => subst h; rfl
  split
  · next h => subst h; rfl
  split
  · next h => subst h; rfl
  split
  · next h => subst h; rfl
  split
  · next h => subst h; rfl
  next h₃ h₄ h₅ h₆ h₇ =>
  split
  · next h₈ =>
    have hb : b.toNat < 0x20 := h₈
    have hu : Piece.ofByte b = .unit (b.toNat / 16 * 16 + b.toNat % 16) := by
      rw [Piece.ofByte, if_pos ⟨h₈, by simp [h₃, h₄, h₅, h₆, h₇]⟩]
      congr 1; omega
    have d₁ := hexDigit?_digitChar (b.toNat / 16) (by omega)
    have d₂ := hexDigit?_digitChar (b.toNat % 16) (by omega)
    have u : (ascii "\\u00").foldlM step? ⟨.quoted seen true, acc⟩ =
        some ⟨.hex seen true 2 0, acc⟩ := rfl
    rw [List.foldlM_append, u, hu]
    simp [step?, d₁, d₂]
  · next h₈ =>
    have hu : Piece.ofByte b = .byte b := if_neg fun h => h₈ h.1
    have hb : 0x20 ≤ b := UInt8.not_lt.1 h₈
    simp [step?, quotation, backslash, hu, hb]

/-- Between the quotation marks, the bytes of a string are noted down one by one. -/
theorem scan_escapes (bs : Bytes) (seen : List Piece) (acc : List Token) :
    (bs.flatMap escape).foldlM step? ⟨.quoted seen true, acc⟩ =
      some ⟨.quoted (bs.reverse.map Piece.ofByte ++ seen) true, acc⟩ := by
  induction bs generalizing seen with
  | nil => rfl
  | cons b bs ih =>
    rw [List.flatMap_cons, List.foldlM_append, scan_escape]
    simp [ih]

end Scanner

/-! ## Numbers -/

theorem isDigit_of_mem_decimal {n : Nat} {b : UInt8} (h : b ∈ decimal n) : isDigit b = true := by
  obtain ⟨c, hc, rfl⟩ := List.mem_map.1 h
  have hd : c.isDigit = true := Nat.isDigit_of_mem_toDigits (by decide) (by decide) hc
  simp only [Char.isDigit, Bool.and_eq_true, decide_eq_true_eq] at hd
  have lo : 48 ≤ c.toNat := hd.1
  have hi : c.toNat ≤ 57 := hd.2
  have hb : c.toUInt8.toNat = c.toNat := by
    show c.toNat % 256 = c.toNat
    omega
  simp only [isDigit, Bool.and_eq_true, decide_eq_true_eq, UInt8.le_iff_toNat_le, hb]
  exact ⟨lo, hi⟩

theorem decimal_ne_nil (n : Nat) : decimal n ≠ [] := by
  simp [decimal]

theorem head?_decimal_ne {n : Nat} (hn : 0 < n) : (decimal n).head? ≠ some 0x30 := by
  induction n using Nat.strongRecOn with
  | _ n ih =>
    by_cases h : n < 10
    · have small : ∀ n < 10, 0 < n → (decimal n).head? ≠ some 0x30 := by decide
      exact small n h hn
    · have split : decimal n = decimal (n / 10) ++ [(n % 10).digitChar.toUInt8] := by
        unfold decimal
        rw [Nat.toDigits_of_base_le (by decide) (by omega)]
        simp
      obtain ⟨c, cs, hc⟩ := List.exists_cons_of_ne_nil (decimal_ne_nil (n / 10))
      have first := ih (n / 10) (by omega) (by omega)
      rw [hc] at first
      rw [split, hc]
      exact first

theorem isNumber_decimal (n : Nat) : isNumber (decimal n) = true := by
  have digits : ∀ b ∈ decimal n, isDigit b = true := fun b hb => isDigit_of_mem_decimal hb
  rcases Nat.eq_zero_or_pos n with rfl | hn
  · decide
  · have first := head?_decimal_ne hn
    have some_digit := decimal_ne_nil n
    revert digits first some_digit
    generalize decimal n = bs
    intro digits first some_digit
    cases bs with
    | nil => exact absurd rfl some_digit
    | cons b bs =>
      have hb : isDigit b = true := digits b List.mem_cons_self
      have h₁ : b ≠ 0x30 := by simpa using first
      have h₂ : b ≠ 0x2D := by rintro rfl; revert hb; decide
      have all : ∀ c ∈ bs, isDigit c = true := fun c hc => digits c (List.mem_cons_of_mem _ hc)
      have none_left : (bs ++ []).dropWhile isDigit = [] := List.dropWhile_append_of_pos all
      rw [List.append_nil] at none_left
      simp [isNumber, isMagnitude, isFraction, isExponent, h₁, h₂, hb, none_left]

theorem isBare_of_isDigit {b : UInt8} (h : isDigit b = true) : isBare b = true := by
  simp [isBare, h]

theorem bare?_decimal (n : Nat) : bare? (decimal n) = some (.number (decimal n)) := by
  have number := isNumber_decimal n
  have not_word {w : Bytes} (hw : isNumber w = false) : decimal n ≠ w := by
    rintro rfl
    rw [number] at hw
    cases hw
  unfold bare?
  rw [if_neg (not_word (by decide)), if_neg (not_word (by decide)), if_neg (not_word (by decide)),
    if_pos number]

theorem ofDecimal_decimal (n : Nat) : ofDecimal (decimal n) = n := by
  have same : ∀ c ∈ Nat.toDigits 10 n, Char.ofUInt8 c.toUInt8 = c := by
    intro c hc
    have hd : c.isDigit = true := Nat.isDigit_of_mem_toDigits (by decide) (by decide) hc
    simp only [Char.isDigit, Bool.and_eq_true, decide_eq_true_eq] at hd
    have hi : c.toNat ≤ 57 := hd.2
    apply Char.ext
    apply UInt32.toNat_inj.1
    show c.toNat % 256 = c.toNat
    omega
  unfold ofDecimal decimal
  have back : (Nat.toDigits 10 n).map (Char.ofUInt8 ∘ Char.toUInt8) = (Nat.toDigits 10 n).map id :=
    List.map_congr_left same
  rw [List.map_map, back, List.map_id]
  exact Nat.ofDigitChars_ten_toDigits

/-! ## Documents -/

namespace Token

/-- A word or a number: a byte that can go on with it must not follow. -/
def isWord : Token → Bool
  | null | bool _ | number _ => true
  | _ => false

/-- The scanner reads the spelling of the token as that token. -/
def Plain : Token → Prop
  | number spelling =>
    spelling ≠ [] ∧ (∀ b ∈ spelling, isBare b = true) ∧ bare? spelling = some (.number spelling)
  | string t => t.strict = true
  | _ => True

def Separated (ts : List Token) : Prop := ts.IsChain fun t u => ¬ (t.isWord ∧ u.isWord)

/-- The bytes spell the tokens, with blanks before any of them and at the end. -/
inductive Spells : List Token → Bytes → Prop
  | done : Spells [] []
  | blank {b ts bs} (h : isSpace b = true) : Spells ts bs → Spells ts (b :: bs)
  | token {ts bs} (t : Token) : Spells ts bs → Spells (t :: ts) (t.spell ++ bs)

end Token

namespace Scanner

variable {s : Scanner} {ts acc : List Token} {t : Token} {b : UInt8} {bs : Bytes}

/-- A byte that goes on with nothing finds the scanner between two tokens. -/
theorem step?_of_flush? (hs : s.flush? = some ⟨.between, acc⟩) (hb : isBare b = false) :
    s.step? b = begin? b ⟨.between, acc⟩ := by
  obtain ⟨state, tokens⟩ := s
  cases state with
  | between => rw [show (⟨.between, tokens⟩ : Scanner) = ⟨.between, acc⟩ from Option.some.inj hs]; rfl
  | bare seen => simp [step?, hb, hs]
  | quoted _ _ => cases hs
  | escape _ _ => cases hs
  | hex _ _ _ _ => cases hs

theorem isBare_of_isSpace (h : isSpace b = true) : isBare b = false := by
  unfold isSpace at h
  simp only [Bool.or_eq_true, beq_iff_eq] at h
  rcases h with ((rfl | rfl) | rfl) | rfl <;> rfl

theorem scan_bare {w : Bytes} (hw : ∀ b ∈ w, isBare b = true) (seen : Bytes) :
    w.foldlM step? ⟨.bare seen, acc⟩ = some ⟨.bare (w.reverse ++ seen), acc⟩ := by
  induction w generalizing seen with
  | nil => rfl
  | cons b w ih =>
    have hb : isBare b = true := hw b List.mem_cons_self
    have step : step? ⟨.bare seen, acc⟩ b = some ⟨.bare (b :: seen), acc⟩ := if_pos hb
    rw [List.foldlM_cons, step, Option.bind_eq_bind, Option.bind_some,
      ih (fun c hc => hw c (List.mem_cons_of_mem _ hc))]
    simp

theorem scan_word {w : Bytes} (hw : ∀ b ∈ w, isBare b = true) (some_byte : w ≠ []) :
    w.foldlM step? ⟨.between, acc⟩ = some ⟨.bare w.reverse, acc⟩ := by
  obtain ⟨b, w, rfl⟩ := List.exists_cons_of_ne_nil some_byte
  have hb : isBare b = true := hw b List.mem_cons_self
  have not_space : isSpace b = false := by
    cases h : isSpace b with
    | false => rfl
    | true => rw [isBare_of_isSpace h] at hb; cases hb
  have not_quote : b ≠ 0x22 := by rintro rfl; revert hb; decide
  have step : step? ⟨.between, acc⟩ b = some ⟨.bare [b], acc⟩ := by
    simp [step?, begin?, not_space, not_quote, hb]
  rw [List.foldlM_cons, step, Option.bind_eq_bind, Option.bind_some,
    scan_bare (fun c hc => hw c (List.mem_cons_of_mem _ hc))]
  simp

theorem scan_quote (hs : s.flush? = some ⟨.between, acc⟩) (str : Bytes) :
    (quote str).foldlM step? s = some ⟨.between, .string ⟨str, true⟩ :: acc⟩ := by
  have opening : s.step? 0x22 = some ⟨.quoted [] true, acc⟩ := step?_of_flush? hs rfl
  have content : assemble [] (str.reverse.map Piece.ofByte ++ []) = str := by
    rw [List.append_nil, assemble_ofByte, List.reverse_reverse, List.append_nil]
  have closing (seen : List Piece) (h : assemble [] seen = str) :
      step? ⟨.quoted seen true, acc⟩ 0x22 = some ⟨.between, .string ⟨str, true⟩ :: acc⟩ := by
    subst h; rfl
  have quotation : quote str = 0x22 :: (str.flatMap escape ++ [0x22]) := rfl
  rw [quotation, List.foldlM_cons, opening, Option.bind_eq_bind, Option.bind_some,
    List.foldlM_append, scan_escapes, Option.bind_eq_bind, Option.bind_some, List.foldlM_cons,
    closing _ content]
  rfl

/-- A token that is no word is complete as soon as its spelling is taken. -/
theorem scan_token (hs : s.flush? = some ⟨.between, acc⟩) (ht : t.Plain)
    (no_word : t.isWord = false) :
    t.spell.foldlM step? s = some ⟨.between, t :: acc⟩ := by
  have mark {b : UInt8} (bare : isBare b = false) : [b].foldlM step? s = begin? b ⟨.between, acc⟩ := by
    rw [List.foldlM_cons, step?_of_flush? hs bare]
    cases begin? b ⟨.between, acc⟩ <;> rfl
  cases t with
  | openArray => exact mark rfl
  | closeArray => exact mark rfl
  | openObject => exact mark rfl
  | closeObject => exact mark rfl
  | comma => exact mark rfl
  | colon => exact mark rfl
  | null => cases no_word
  | bool _ => cases no_word
  | number _ => cases no_word
  | string text =>
    obtain ⟨bytes, strict⟩ := text
    rw [show strict = true from ht]
    exact scan_quote hs bytes

theorem scan_spelled_word (acc : List Token) (ht : t.Plain) (word : t.isWord = true) :
    ∃ s', t.spell.foldlM step? ⟨.between, acc⟩ = some s' ∧ s'.flush? = some ⟨.between, t :: acc⟩ := by
  have spelled (bare : ∀ b ∈ t.spell, isBare b = true) (some_byte : t.spell ≠ [])
      (read : bare? t.spell = some t) :
      ∃ s', t.spell.foldlM step? ⟨.between, acc⟩ = some s' ∧
        s'.flush? = some ⟨.between, t :: acc⟩ := by
    refine ⟨_, scan_word bare some_byte, ?_⟩
    simp [flush?, emit, read]
  cases t with
  | null => exact spelled (List.all_eq_true.1 rfl) (by decide) rfl
  | bool b => cases b <;> exact spelled (List.all_eq_true.1 rfl) (by decide) rfl
  | number _ => exact spelled ht.2.1 ht.1 ht.2.2
  | _ => cases word

/-- A run over what spells tokens ends with these tokens, the last of them perhaps to be
flushed. -/
theorem scan_spells (h : Token.Spells ts bs) (plain : ∀ t ∈ ts, t.Plain) (sep : Token.Separated ts)
    (hs : s.flush? = some ⟨.between, acc⟩)
    (apart : ∀ t ∈ ts.head?, t.isWord = true → s = ⟨.between, acc⟩) :
    ∃ s', bs.foldlM step? s = some s' ∧ s'.flush? = some ⟨.between, ts.reverse ++ acc⟩ := by
  induction h generalizing s acc with
  | done => exact ⟨s, rfl, hs⟩
  | @blank b ts bs hb _ ih =>
    have step : s.step? b = some ⟨.between, acc⟩ := by
      rw [step?_of_flush? hs (isBare_of_isSpace hb)]
      exact if_pos hb
    rw [List.foldlM_cons, step]
    exact ih plain sep rfl (fun _ _ _ => rfl)
  | @token ts bs t _ ih =>
    have ht : t.Plain := plain t List.mem_cons_self
    have rest : ∀ u ∈ ts, u.Plain := fun u hu => plain u (List.mem_cons_of_mem _ hu)
    rw [List.foldlM_append, List.reverse_cons, List.append_assoc, List.singleton_append]
    cases word : t.isWord with
    | false =>
      rw [scan_token hs ht word]
      exact ih rest sep.tail rfl (fun _ _ _ => rfl)
    | true =>
      obtain ⟨s', scan, flush⟩ := scan_spelled_word acc ht word
      rw [apart t rfl word, scan]
      refine ih rest sep.tail flush ?_
      -- no word follows, so what follows finds the end of this one
      intro u hu uword
      obtain ⟨us, rfl⟩ : ∃ us, ts = u :: us := by
        cases ts with
        | nil => cases hu
        | cons v us => cases hu; exact ⟨us, rfl⟩
      exact absurd ⟨word, uword⟩ (List.isChain_cons_cons.1 sep).1

end Scanner

theorem Token.ofBytes?_of_spells {ts : List Token} {bs : Bytes} (h : Spells ts bs)
    (plain : ∀ t ∈ ts, t.Plain) (sep : Separated ts) : ofBytes? bs = some ts := by
  obtain ⟨s, scan, flush⟩ := Scanner.scan_spells (s := {}) h plain sep rfl (fun _ _ _ => rfl)
  unfold ofBytes?
  rw [scan, Option.bind_some, flush]
  simp

end Retained.Json
