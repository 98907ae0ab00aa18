import Mathlib.Algebra.Ring.Nat
import Mathlib.Data.List.TakeWhile
import Retained.Disk

/-!
# Where paths lead

Where a path leads is a matter of its pieces alone (`Path.lead`), and so are the places on the way
(`Path.stops`); idle pieces change neither. The paths beside a path and within it lead to places
beside and within the place of that path.
-/

namespace Retained

namespace Path

/-- A piece that is the name of something. -/
def IsName (piece : String) : Prop := isIdle piece = false ∧ piece ≠ ".."

instance (piece : String) : Decidable (IsName piece) := inferInstanceAs (Decidable (_ ∧ _))

def turn (here : Place) (piece : String) : Place :=
  if isIdle piece then here else if piece = ".." then here.dropLast else here ++ [piece]

def lead (here : Place) (pieces : List String) : Place := pieces.foldl turn here

/-- The places from which the pieces of a path are followed. -/
def stops (here : Place) : List String → List Place
  | [] => []
  | p :: ps => here :: stops (turn here p) ps

/-- No name among the pieces is too long. -/
def Short (pieces : List String) : Prop :=
  ∀ p ∈ pieces, IsName p → p.utf8ByteSize ≤ Disk.maxName

variable {here : Place} {ps qs : List String} {p : String}

theorem turn_name (h : IsName p) : turn here p = here ++ [p] := by
  unfold turn
  rw [h.1, if_neg (by decide), if_neg h.2]

theorem turn_idle (h : isIdle p = true) : turn here p = here := if_pos h

@[simp]
theorem lead_nil : lead here [] = here := rfl

@[simp]
theorem lead_cons : lead here (p :: ps) = lead (turn here p) ps := rfl

theorem lead_append : lead here (ps ++ qs) = lead (lead here ps) qs := List.foldl_append

theorem lead_name (h : IsName p) : lead here (ps ++ [p]) = lead here ps ++ [p] := by
  rw [lead_append, lead_cons, lead_nil, turn_name h]

@[simp]
theorem stops_nil : stops here [] = [] := rfl

@[simp]
theorem stops_cons : stops here (p :: ps) = here :: stops (turn here p) ps := rfl

theorem stops_concat : stops here (ps ++ [p]) = stops here ps ++ [lead here ps] := by
  induction ps generalizing here with
  | nil => rfl
  | cons p ps ih => simp [ih]

theorem forall_stops_concat {P : Place → Prop} :
    (∀ s ∈ stops here (ps ++ [p]), P s) ↔ (∀ s ∈ stops here ps, P s) ∧ P (lead here ps) := by
  rw [stops_concat, List.forall_mem_append, List.forall_mem_singleton]

theorem IsName.ne_empty (h : IsName p) : p ≠ "" := by
  rintro rfl
  exact absurd h.1 (by decide)

theorem IsName.ne_dot (h : IsName p) : p ≠ "." := by
  rintro rfl
  exact absurd h.1 (by decide)

theorem exists_of_dropWhile_reverse {α : Type} {q : α → Bool} {l before : List α} {a : α}
    (h : l.reverse.dropWhile q = a :: before) :
    ∃ behind, l = before.reverse ++ a :: behind ∧ (∀ b ∈ behind, q b = true) ∧ q a = false := by
  have cut : l.reverse.takeWhile q ++ a :: before = l.reverse := h ▸ List.takeWhile_append_dropWhile
  refine ⟨(l.reverse.takeWhile q).reverse, ?_, ?_, ?_⟩
  · have := congrArg List.reverse cut
    rw [List.reverse_reverse, List.reverse_append, List.reverse_cons, List.append_assoc] at this
    exact this.symm
  · intro b hb
    exact List.mem_takeWhile_imp (List.mem_reverse.1 hb)
  · have := List.head_dropWhile_not q (l := l.reverse) (by simp [h])
    simpa [h] using this

/-! ## Idle pieces -/

/-- The pieces that are not idle. -/
def core (pieces : List String) : List String := pieces.filter fun p => !isIdle p

theorem core_append : core (ps ++ qs) = core ps ++ core qs := List.filter_append _ _

theorem core_name (h : IsName p) : core [p] = [p] := by
  unfold core
  rw [List.filter_cons_of_pos (by simp [h.1]), List.filter_nil]

theorem core_eq_nil (h : ∀ p ∈ ps, isIdle p = true) : core ps = [] :=
  List.filter_eq_nil_iff.2 fun p hp => by simp [h p hp]

theorem lead_core : lead here (core ps) = lead here ps := by
  induction ps generalizing here with
  | nil => rfl
  | cons p ps ih =>
    unfold core at *
    cases hp : isIdle p with
    | true => rw [List.filter_cons_of_neg (by simp [hp]), lead_cons, turn_idle hp, ih]
    | false => rw [List.filter_cons_of_pos (by simp [hp]), lead_cons, lead_cons, ih]

/-- An idle piece stays where the next piece is followed from. -/
theorem mem_stops_core {s : Place} :
    s ∈ stops here (core ps ++ [p]) ↔ s ∈ stops here (ps ++ [p]) := by
  induction ps generalizing here with
  | nil => rfl
  | cons q ps ih =>
    unfold core at *
    cases hq : isIdle q with
    | false =>
      rw [List.filter_cons_of_pos (by simp [hq]), List.cons_append, List.cons_append, stops_cons,
        stops_cons, List.mem_cons, List.mem_cons, ih]
    | true =>
      have first : here ∈ stops here (ps ++ [p]) := by cases ps <;> simp
      rw [List.filter_cons_of_neg (by simp [hq]), List.cons_append, stops_cons, List.mem_cons,
        turn_idle hq, ih]
      constructor
      · exact .inr
      · rintro (rfl | h)
        · exact first
        · exact h

theorem mem_stops_of_mem {s : Place} (h : s ∈ stops here ps) :
    s ∈ stops here (core ps) ∨ s = lead here ps := by
  have within : s ∈ stops here (ps ++ [""]) := by
    rw [stops_concat]
    exact List.mem_append_left _ h
  rw [← mem_stops_core, stops_concat, List.mem_append, lead_core] at within
  simpa using within

theorem short_concat :
    Short (ps ++ [p]) ↔ Short ps ∧ (IsName p → p.utf8ByteSize ≤ Disk.maxName) := by
  simp only [Short, List.mem_append, or_imp, forall_and, List.mem_singleton, forall_eq]

theorem short_core : Short (core ps) ↔ Short ps := by
  constructor
  · intro h p hp name
    exact h p (List.mem_filter.2 ⟨hp, by simp [name.1]⟩) name
  · intro h p hp
    exact h p (List.mem_filter.1 hp).1

/-! ## Paths beside a path and within it -/

variable {p dir : Path} {name suffix f : String}

theorem core_trimEnd : core (trimEnd ps) = core ps := by
  cases ps with
  | nil => rfl
  | cons q ps =>
    have ends := List.takeWhile_append_dropWhile (p := isIdle) (l := ps.reverse)
    have idle : core (ps.reverse.takeWhile isIdle).reverse = [] :=
      core_eq_nil fun r hr => List.mem_takeWhile_imp (List.mem_reverse.1 hr)
    have rest : core (ps.reverse.dropWhile isIdle).reverse = core ps := by
      have both : core (ps.reverse.takeWhile isIdle ++ ps.reverse.dropWhile isIdle).reverse =
          core ps := by
        rw [ends, List.reverse_reverse]
      rw [List.reverse_append, core_append, idle, List.append_nil] at both
      exact both
    rw [trimEnd, ← List.singleton_append, core_append, rest, ← core_append, List.singleton_append]

/-- A path with a file name ends in that name and idle pieces. -/
theorem exists_of_fileName? (h : p.fileName? = some name) :
    IsName name ∧ ∃ before idles, p.pieces = before ++ name :: idles ∧
      (∀ i ∈ idles, isIdle i = true) ∧ trimEnd p.pieces = before ++ [name] := by
  obtain ⟨last, named⟩ := Option.filter_eq_some_iff.1 h
  have isName : IsName name := by simpa [IsName] using named
  refine ⟨isName, ?_⟩
  cases pieces : p.pieces with
  | nil => rw [pieces] at last; cases last
  | cons q ps =>
    rw [pieces, trimEnd] at last
    cases ends : ps.reverse.dropWhile isIdle with
    | nil =>
      rw [ends] at last
      obtain rfl : q = name := by simpa using last
      refine ⟨[], ps, rfl, fun i hi => ?_, by simp [trimEnd, ends]⟩
      exact List.dropWhile_eq_nil_iff.1 ends i (List.mem_reverse.2 hi)
    | cons r before =>
      obtain ⟨idles, hps, idle, -⟩ := exists_of_dropWhile_reverse ends
      rw [ends, List.reverse_cons, ← List.cons_append, List.getLast?_concat] at last
      obtain rfl : r = name := Option.some.inj last
      refine ⟨q :: before.reverse, idles, by rw [hps]; rfl, idle, ?_⟩
      rw [trimEnd, ends, List.reverse_cons]
      rfl

theorem fileName?_of_pieces {before idles : List String} (h : p.pieces = before ++ name :: idles)
    (isName : IsName name) (idle : ∀ i ∈ idles, isIdle i = true) : p.fileName? = some name := by
  have trimmed : trimEnd p.pieces = before ++ [name] := by
    rw [h]
    cases before with
    | nil =>
      have : idles.reverse.dropWhile isIdle = [] := by simpa using idle
      rw [List.nil_append, trimEnd, this]
      rfl
    | cons q before =>
      rw [List.cons_append, trimEnd, List.reverse_append, List.reverse_cons, List.append_assoc,
        List.dropWhile_append_of_pos (by simpa using idle)]
      simp [isName.1]
  have solid : isIdle name = false ∧ name ≠ ".." := isName
  rw [fileName?, trimmed, List.getLast?_concat, Option.filter_eq_some_iff]
  simp [solid]

theorem isName_sibling (h : IsName name) (hs : suffix ≠ "") : IsName (name ++ "." ++ suffix) := by
  have long : 3 ≤ (name ++ "." ++ suffix).length := by
    have h₁ : 0 < name.length := by
      simpa [Nat.pos_iff_ne_zero] using h.ne_empty
    have h₂ : 0 < suffix.length := by
      simpa [Nat.pos_iff_ne_zero] using hs
    rw [String.length_append, String.length_append]
    show 3 ≤ name.length + 1 + suffix.length
    omega
  refine ⟨?_, ?_⟩
  · simp only [isIdle, Bool.or_eq_false_iff, decide_eq_false_iff_not]
    refine ⟨?_, ?_⟩
    · intro e
      rw [e] at long
      exact absurd long (by decide)
    · intro e
      rw [e] at long
      exact absurd long (by decide)
  · intro e
    rw [e] at long
    exact absurd long (by decide)

/-- The path ends in a name, behind pieces that are, but for idle ones, those of `way`. -/
structure Names (p : Path) (way : List String) (name : String) : Prop where
  isName : IsName name
  pieces : ∃ ps, p.pieces = ps ++ [name] ∧ core ps = way

theorem Names.core (h : p.Names ps name) : core p.pieces = ps ++ [name] := by
  obtain ⟨qs, hq, rfl⟩ := h.pieces
  rw [hq, core_append, core_name h.isName]

theorem names_join (dir : Path) (hf : IsName f) :
    (dir.join ⟨[f]⟩).Names (Path.core dir.pieces) f := by
  have relative : (⟨[f]⟩ : Path).isAbsolute = false := by simp [isAbsolute]
  refine ⟨hf, _, by rw [join, relative]; rfl, ?_⟩
  split
  · next slash =>
    obtain ⟨ps, hps⟩ := List.getLast?_eq_some_iff.1 slash
    rw [hps, List.dropLast_concat, core_append, show core [""] = [] from rfl,
      List.append_nil]
  · rfl

theorem join_of_names (h : p.Names ps name) : p.join ⟨[f]⟩ = ⟨p.pieces ++ [f]⟩ := by
  have relative : (⟨[f]⟩ : Path).isAbsolute = false := by simp [isAbsolute]
  obtain ⟨isName, qs, hq, -⟩ := h
  have no_slash : ¬ p.pieces.getLast? = some "" := by
    simp [hq, isName.ne_empty]
  rw [join, relative, if_neg (by decide), if_neg no_slash]

theorem isAbsolute_join (dir : Path) (hf : IsName f) :
    (dir.join ⟨[f]⟩).isAbsolute = dir.isAbsolute := by
  have relative : (⟨[f]⟩ : Path).isAbsolute = false := by simp [isAbsolute]
  rw [join, relative, if_neg (by decide)]
  obtain ⟨ps⟩ := dir
  match ps with
  | [] => simp [isAbsolute, hf.ne_empty]
  | [q] =>
    by_cases hq : q = ""
    · subst hq; simp [isAbsolute, hf.ne_empty]
    · simp [isAbsolute, hq]
  | q :: r :: ps =>
    split
    · simp [isAbsolute]
    · simp [isAbsolute]

def way (p : Path) : List String := (core p.pieces).dropLast

theorem core_of_fileName? (h : p.fileName? = some name) : core p.pieces = p.way ++ [name] := by
  obtain ⟨isName, before, idles, pieces, idle, -⟩ := exists_of_fileName? h
  have split : core p.pieces = core before ++ [name] := by
    rw [pieces, List.append_cons, core_append, core_append, core_name isName, core_eq_nil idle,
      List.append_nil]
  rw [way, split, List.dropLast_concat]

theorem sibling_eq (h : p.fileName? = some name) :
    ∃ before idles, p.pieces = before ++ name :: idles ∧ core before = p.way ∧
      ∀ suffix, p.sibling suffix = ⟨trimEnd before ++ [name ++ "." ++ suffix]⟩ := by
  obtain ⟨isName, before, idles, pieces, idle, trimmed⟩ := exists_of_fileName? h
  refine ⟨before, idles, pieces, ?_, fun suffix => ?_⟩
  · rw [way, pieces, List.append_cons, core_append, core_append, core_name isName,
      core_eq_nil idle, List.append_nil, List.dropLast_concat]
  · rw [sibling, h, trimmed]
    simp

theorem names_sibling (h : p.fileName? = some name) (hs : suffix ≠ "") :
    (p.sibling suffix).Names p.way (name ++ "." ++ suffix) := by
  obtain ⟨before, idles, pieces, way, beside⟩ := sibling_eq h
  rw [beside]
  exact ⟨isName_sibling (exists_of_fileName? h).1 hs, _, rfl, core_trimEnd.trans way⟩

theorem isAbsolute_sibling (h : p.fileName? = some name) :
    (p.sibling suffix).isAbsolute = p.isAbsolute := by
  obtain ⟨before, idles, pieces, -, beside⟩ := sibling_eq h
  have isName : IsName name := (exists_of_fileName? h).1
  have some_char : name ++ "." ++ suffix ≠ "" := by
    intro empty
    have := congrArg String.length empty
    simp at this
  rw [beside, isAbsolute, isAbsolute, pieces]
  cases before with
  | nil => simp [trimEnd, isName.ne_empty, some_char]
  | cons q qs =>
    simp only [trimEnd, List.cons_append, List.head?_cons, List.length_cons, List.length_append,
      List.length_nil]
    congr 1

/-! ## Paths that can be followed at all -/

theorem text_singleton (q : String) : (Path.mk [q]).text = q := by
  simp [text, Text.join]

theorem text_cons (q : String) (hps : ps ≠ []) :
    (Path.mk (q :: ps)).text = q ++ "/" ++ (Path.mk ps).text := by
  have rest : ps.map String.toList ≠ [] := by simpa using hps
  unfold text Text.join
  rw [List.map_cons, List.intercalate_cons_of_ne_nil rest]
  apply String.toList_inj.1
  simp

/-- The slashes between the pieces of a path count too. -/
theorem size_text {ps : List String} (hps : ps ≠ []) :
    (Path.mk ps).text.utf8ByteSize + 1 = (ps.map String.utf8ByteSize).sum + ps.length := by
  induction ps with
  | nil => exact absurd rfl hps
  | cons q ps ih =>
    by_cases more : ps = []
    · subst more
      rw [text_singleton]
      simp
    · have slash : "/".utf8ByteSize = 1 := by decide
      rw [text_cons q more, String.utf8ByteSize_append, String.utf8ByteSize_append, slash,
        List.map_cons, List.sum_cons, List.length_cons]
      have := ih more
      omega

theorem text_ne_empty {ps : List String} {q : String} (hq : q ∈ ps) (solid : q ≠ "") :
    (Path.mk ps).text ≠ "" := by
  intro empty
  have size := size_text (List.ne_nil_of_mem hq)
  have length : 0 < ps.length := List.length_pos_of_mem hq
  have positive : 0 < q.utf8ByteSize := by
    rw [Nat.pos_iff_ne_zero, ne_eq, String.utf8ByteSize_eq_zero_iff]
    exact solid
  have sum : 0 < (ps.map String.utf8ByteSize).sum :=
    List.sum_pos_iff_exists_pos_nat.2 ⟨_, List.mem_map_of_mem hq, positive⟩
  rw [empty] at size
  have : "".utf8ByteSize = 0 := rfl
  omega

theorem mem_text {c : Char} (hc : c ≠ '/') :
    c ∈ (Path.mk ps).text.toList ↔ ∃ q ∈ ps, c ∈ q.toList := by
  induction ps with
  | nil => simp [text, Text.join]
  | cons q ps ih =>
    by_cases more : ps = []
    · subst more
      simp [text_singleton]
    · rw [text_cons q more]
      simp [ih, hc]

theorem checkPath_eq_ok :
    Disk.checkPath p = .ok () ↔
      p.text ≠ "" ∧ '\x00' ∉ p.text.toList ∧ p.text.utf8ByteSize ≤ Disk.maxPath := by
  unfold Disk.checkPath
  split
  · next h => simp [h]
  split
  · next h => simpa using fun _ h' => absurd (by simpa using h) h'
  split
  · next h => simp; omega
  · next h₁ h₂ h₃ => simpa [h₁] using ⟨by simpa using h₂, by omega⟩

/-- A path whose last pieces give way to ones that take no more room can still be followed. -/
theorem checkPath_of_le {as bs : List String} {q : String}
    (h : Disk.checkPath ⟨ps ++ as⟩ = .ok ()) (hq : q ∈ ps ++ bs) (solid : q ≠ "")
    (room : (bs.map String.utf8ByteSize).sum + bs.length ≤
      (as.map String.utf8ByteSize).sum + as.length)
    (zero : ∀ b ∈ bs, '\x00' ∈ b.toList → ∃ a ∈ as, '\x00' ∈ a.toList) :
    Disk.checkPath ⟨ps ++ bs⟩ = .ok () := by
  obtain ⟨some_text, clean, fits⟩ := checkPath_eq_ok.1 h
  have as_ne : ps ++ as ≠ [] := by
    intro empty
    rw [empty] at some_text
    exact some_text rfl
  have old := size_text as_ne
  have new := size_text (List.ne_nil_of_mem hq)
  simp only [List.map_append, List.sum_append, List.length_append] at old new
  refine checkPath_eq_ok.2 ⟨text_ne_empty hq solid, ?_, by omega⟩
  rw [mem_text (by decide)] at clean ⊢
  rintro ⟨q, hq, hc⟩
  rcases List.mem_append.1 hq with hq | hq
  · exact clean ⟨q, List.mem_append_left _ hq, hc⟩
  · obtain ⟨a, ha, hc⟩ := zero q hq hc
    exact clean ⟨a, List.mem_append_right _ ha, hc⟩

/-- If a file within a directory can be asked for, so can one with a shorter name. -/
theorem checkPath_join_of_le {g : String} (h : Disk.checkPath (dir.join ⟨[f]⟩) = .ok ())
    (size : g.utf8ByteSize ≤ f.utf8ByteSize) (solid : g ≠ "") (zero : '\x00' ∉ g.toList) :
    Disk.checkPath (dir.join ⟨[g]⟩) = .ok () := by
  have relative (n : String) : (⟨[n]⟩ : Path).isAbsolute = false := by simp [isAbsolute]
  rw [join, relative, if_neg (by decide)] at h ⊢
  refine checkPath_of_le h (q := g) (by simp) solid (by simpa using size) ?_
  intro b hb hz
  rw [List.mem_singleton.1 hb] at hz
  exact absurd hz zero

/-- If a file within a directory can be asked for, so can the directory. -/
theorem checkPath_of_join {q : String} (h : Disk.checkPath (dir.join ⟨[f]⟩) = .ok ())
    (hq : q ∈ dir.pieces) (solid : q ≠ "") : Disk.checkPath dir = .ok () := by
  have relative : (⟨[f]⟩ : Path).isAbsolute = false := by simp [isAbsolute]
  rw [join, relative, if_neg (by decide)] at h
  obtain ⟨ps⟩ := dir
  split at h
  · next slash =>
    obtain ⟨qs, rfl⟩ := List.getLast?_eq_some_iff.1 slash
    dsimp only at h hq
    rw [List.dropLast_concat] at h
    exact checkPath_of_le h hq solid (by simp) (by simp)
  · have shorter : Disk.checkPath ⟨ps ++ []⟩ = .ok () :=
      checkPath_of_le h (by simpa using hq) solid (by simp) (by simp)
    rwa [List.append_nil] at shorter

end Path

end Retained
