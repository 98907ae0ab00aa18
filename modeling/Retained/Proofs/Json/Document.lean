import Retained.Proofs.Json.Token
import Retained.Json.Reader

/-!
# Reading what is printed

A value whose numbers and strings are plain (`Value.Plain`) is read back from its tokens, whatever
contains it, and so from each of its two layouts (`ofBytes?_compact`, `ofBytes?_indented`).
-/

namespace Retained.Json

/-! ## The two layouts -/

namespace Token

variable {t : Token} {ts : List Token} {bs : Bytes}

theorem Spells.blanks {blanks : Bytes} (hb : ∀ b ∈ blanks, isSpace b = true) (h : Spells ts bs) :
    Spells ts (blanks ++ bs) := by
  induction blanks with
  | nil => exact h
  | cons b blanks ih =>
    exact .blank (hb b List.mem_cons_self) (ih fun c hc => hb c (List.mem_cons_of_mem _ hc))

theorem isSpace_of_mem_newLine {depth : Nat} {b : UInt8} (h : b ∈ newLine depth) :
    isSpace b = true := by
  rcases List.mem_cons.1 h with rfl | h
  · rfl
  · rw [List.eq_of_mem_replicate h]; rfl

theorem spells_flatMap : (ts : List Token) → Spells ts (ts.flatMap spell)
  | [] => .done
  | t :: ts => .token t (spells_flatMap ts)

theorem spells_layOut (depth : Nat) (ts : List Token) : Spells ts (layOut depth ts) := by
  have line (d : Nat) : ∀ b ∈ newLine d, isSpace b = true := fun _ => isSpace_of_mem_newLine
  have before {t ts bs blanks} (hb : ∀ b ∈ blanks, isSpace b = true) (h : Spells ts bs) :
      Spells (t :: ts) (blanks ++ t.spell ++ bs) := by
    rw [List.append_assoc]
    exact (Spells.token t h).blanks hb
  have behind {t ts bs blanks} (hb : ∀ b ∈ blanks, isSpace b = true) (h : Spells ts bs) :
      Spells (t :: ts) (t.spell ++ blanks ++ bs) := by
    rw [List.append_assoc]
    exact .token t (h.blanks hb)
  fun_induction layOut depth ts with
  | case1 => exact .done
  | case2 depth ts ih => exact .token .openArray (.token .closeArray ih)
  | case3 depth ts ih => exact .token .openObject (.token .closeObject ih)
  | case4 depth ts _ _ ih => exact behind (line _) ih
  | case5 depth ts _ _ ih => exact behind (line _) ih
  | case6 depth ts _ _ ih => exact before (line _) ih
  | case7 depth ts _ _ ih => exact before (line _) ih
  | case8 depth ts _ _ ih => exact behind (line _) ih
  | case9 depth ts _ _ ih => exact behind (List.all_eq_true.1 rfl) ih
  | case10 depth t ts _ _ _ _ _ _ _ _ ih => exact .token t ih

theorem Separated.cons (ht : t.isWord = false) (h : Separated ts) : Separated (t :: ts) := by
  cases ts with
  | nil => exact .singleton t
  | cons u ts =>
    refine .cons_cons ?_ h
    rw [ht]
    simp

/-- Tokens that may come behind any value: the first of them, if any, is no word. -/
structure Stop (ts : List Token) : Prop where
  separated : Separated ts
  head : ∀ t ∈ ts.head?, t.isWord = false

theorem Stop.nil : Stop [] := ⟨.nil, by simp⟩

theorem Stop.cons (ht : t.isWord = false) (h : Separated ts) : Stop (t :: ts) :=
  ⟨h.cons ht, by simpa using ht⟩

theorem Stop.behind (h : Stop ts) (t : Token) : Separated (t :: ts) := by
  cases ts with
  | nil => exact .singleton t
  | cons u ts =>
    have hu : u.isWord = false := h.head u rfl
    refine .cons_cons ?_ h.separated
    rw [hu]
    simp

end Token

/-! ## Values -/

namespace Value

open Token (Separated Stop)

mutual

/-- No two words of a value stand side by side. -/
theorem separated_tokens {rest : List Token} (h : Stop rest) :
    (v : Value) → Separated (v.tokens ++ rest)
  | .null => h.behind .null
  | .bool b => h.behind (.bool b)
  | .number n => h.behind (.number n)
  | .string t => h.behind (.string t)
  | .array [] => (h.separated.cons rfl).cons rfl
  | .array (v :: vs) => by
    rw [tokens, List.cons_append, List.cons_append, List.append_assoc]
    exact (separated_tokens (stop_itemTokens h.separated vs) v).cons rfl
  | .object [] => (h.separated.cons rfl).cons rfl
  | .object ((key, v) :: ms) => by
    rw [tokens, List.cons_append, List.cons_append, List.cons_append, List.cons_append,
      List.append_assoc]
    exact (((separated_tokens (stop_memberTokens h.separated ms) v).cons rfl).cons rfl).cons rfl

theorem stop_itemTokens {rest : List Token} (h : Separated rest) :
    (vs : List Value) → Stop (itemTokens vs ++ rest)
  | [] => .cons rfl h
  | v :: vs => by
    rw [itemTokens, List.cons_append, List.cons_append, List.append_assoc]
    exact .cons rfl (separated_tokens (stop_itemTokens h vs) v)

theorem stop_memberTokens {rest : List Token} (h : Separated rest) :
    (ms : List (Text × Value)) → Stop (memberTokens ms ++ rest)
  | [] => .cons rfl h
  | (key, v) :: ms => by
    rw [memberTokens, List.cons_append, List.cons_append, List.cons_append, List.cons_append,
      List.append_assoc]
    exact .cons rfl (((separated_tokens (stop_memberTokens h ms) v).cons rfl).cons rfl)

end

end Value

/-! ## Building -/

namespace Builder

variable {rest : List Token} {outer : List Frame}

/-- Just inside an array that is not empty, the first item is on its way. -/
theorem firstItem_tokens (v : Value) :
    (v.tokens ++ rest).foldlM step? (.firstItem outer) =
      (v.tokens ++ rest).foldlM step? (.value (.array [] :: outer)) := by
  cases v with
  | null => rfl
  | bool _ => rfl
  | number _ => rfl
  | string _ => rfl
  | array vs => cases vs <;> rfl
  | object ms => cases ms <;> rfl

mutual

/-- The tokens of a value build it and hand it to what contains it. -/
theorem build_tokens (v : Value) (rest : List Token) (outer : List Frame) :
    (v.tokens ++ rest).foldlM step? (.value outer) = rest.foldlM step? (deliver v outer) := by
  match v with
  | .null => rfl
  | .bool _ => rfl
  | .number _ => rfl
  | .string _ => rfl
  | .array [] => rfl
  | .array (v :: vs) =>
    rw [Value.tokens, List.cons_append, List.cons_append, List.append_assoc]
    show (v.tokens ++ (Value.itemTokens vs ++ rest)).foldlM step? (.firstItem outer) = _
    rw [firstItem_tokens, build_tokens v]
    exact build_itemTokens [v] vs rest outer
  | .object [] => rfl
  | .object ((key, v) :: ms) =>
    rw [Value.tokens, List.cons_append, List.cons_append, List.cons_append, List.cons_append,
      List.append_assoc]
    show (v.tokens ++ (Value.memberTokens ms ++ rest)).foldlM step?
      (.value (.object [] key :: outer)) = _
    rw [build_tokens v]
    exact build_memberTokens [(key, v)] ms rest outer

theorem build_itemTokens (items vs : List Value) (rest : List Token) (outer : List Frame) :
    (Value.itemTokens vs ++ rest).foldlM step? (.afterItem items outer) =
      rest.foldlM step? (deliver (.array (items.reverse ++ vs)) outer) := by
  match vs with
  | [] => rw [List.append_nil]; rfl
  | v :: vs =>
    rw [Value.itemTokens, List.cons_append, List.cons_append, List.append_assoc]
    show (v.tokens ++ (Value.itemTokens vs ++ rest)).foldlM step? (.value (.array items :: outer)) = _
    rw [build_tokens v]
    show (Value.itemTokens vs ++ rest).foldlM step? (.afterItem (v :: items) outer) = _
    rw [build_itemTokens (v :: items) vs, List.reverse_cons, List.append_assoc,
      List.singleton_append]

theorem build_memberTokens (members ms : List (Text × Value)) (rest : List Token)
    (outer : List Frame) :
    (Value.memberTokens ms ++ rest).foldlM step? (.afterMember members outer) =
      rest.foldlM step? (deliver (.object (members.reverse ++ ms)) outer) := by
  match ms with
  | [] => rw [List.append_nil]; rfl
  | (key, v) :: ms =>
    rw [Value.memberTokens, List.cons_append, List.cons_append, List.cons_append,
      List.cons_append, List.append_assoc]
    show (v.tokens ++ (Value.memberTokens ms ++ rest)).foldlM step?
      (.value (.object members key :: outer)) = _
    rw [build_tokens v]
    show (Value.memberTokens ms ++ rest).foldlM step? (.afterMember ((key, v) :: members) outer) = _
    rw [build_memberTokens ((key, v) :: members) ms, List.reverse_cons, List.append_assoc,
      List.singleton_append]

end

end Builder

namespace Value

theorem ofTokens?_tokens (v : Value) : ofTokens? v.tokens = some v := by
  have build := Builder.build_tokens v [] []
  rw [List.append_nil] at build
  unfold ofTokens?
  rw [build]
  rfl

/-! ## Documents -/

/-- The numbers and strings of the value are read back as they are. -/
def Plain (v : Value) : Prop := ∀ t ∈ v.tokens, t.Plain

theorem ofBytes?_of_spells {v : Value} {bs : Bytes} (plain : v.Plain)
    (spelled : Token.Spells v.tokens bs) : ofBytes? bs = some v := by
  have separated := separated_tokens .nil v
  rw [List.append_nil] at separated
  unfold ofBytes?
  rw [Token.ofBytes?_of_spells spelled plain separated]
  exact ofTokens?_tokens v

theorem ofBytes?_compact {v : Value} (plain : v.Plain) : ofBytes? v.compact = some v :=
  ofBytes?_of_spells plain (Token.spells_flatMap v.tokens)

theorem ofBytes?_indented {v : Value} (plain : v.Plain) : ofBytes? v.indented = some v :=
  ofBytes?_of_spells plain (Token.spells_layOut 0 v.tokens)

end Value

end Retained.Json
