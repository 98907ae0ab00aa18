import Retained.Proofs.Disk.Path

/-!
# What is at the end of a path

A path is followed to where its pieces lead, if there is a directory at every stop and no name is
too long (`follow_eq_ok`). From this, `find_eq_ok` and `slot_eq_ok` say when something is found
and when there is a slot for it.
-/

namespace Retained

namespace Disk

open Retained.Path

/-- Where a path leads. -/
def place (p : Path) (d : Disk) : Place := lead (d.origin p) p.pieces

variable {d d' : Disk} {p : Path} {here place : Place} {piece : String} {ps : List String}
  {u : Node Content} {s : Place × String}

def IsDir (d : Disk) (place : Place) : Prop :=
  ∃ t, d.root.at? place = some t ∧ t.value = .directory

theorem enter_eq_ok :
    d.enter here piece = .ok place ↔
      d.IsDir here ∧ place = turn here piece ∧ (IsName piece → piece.utf8ByteSize ≤ maxName) := by
  have answer (q : Place) : (.ok q : Except Error Place) = .ok place ↔ place = q :=
    ⟨fun h => (Except.ok.inj h).symm, fun h => h ▸ rfl⟩
  unfold enter
  split
  · next h =>
    refine ⟨nofun, ?_⟩
    rintro ⟨⟨t, ht, _⟩, _⟩
    rw [h] at ht
    cases ht
  · next h =>
    refine ⟨nofun, ?_⟩
    rintro ⟨⟨t, ht, dir⟩, _⟩
    rw [h] at ht
    cases ht
    cases dir
  · next h =>
    have dir : d.IsDir here := ⟨_, h, rfl⟩
    unfold turn IsName
    split
    · next idle => simp [answer, dir, idle]
    split
    · next up => simp [answer, dir, up]
    split
    · next idle up long =>
      refine ⟨nofun, ?_⟩
      rintro ⟨_, _, fits⟩
      have := fits ⟨by simpa using idle, up⟩
      omega
    · next idle up fits =>
      have fits : piece.utf8ByteSize ≤ maxName := by omega
      simp [answer, dir, fits]

theorem follow_eq_ok :
    d.follow here ps = .ok place ↔
      (∀ s ∈ stops here ps, d.IsDir s) ∧ place = lead here ps ∧ Short ps := by
  induction ps generalizing here with
  | nil => simp [follow, Short, eq_comm]
  | cons p ps ih =>
    have short : Short (p :: ps) ↔ (IsName p → p.utf8ByteSize ≤ maxName) ∧ Short ps := by
      simp [Short]
    rw [follow, short, stops_cons, lead_cons, List.forall_mem_cons]
    constructor
    · intro h
      cases first : d.enter here p with
      | error e => rw [first] at h; cases h
      | ok next =>
        rw [first] at h
        obtain ⟨dir, rfl, fits⟩ := enter_eq_ok.1 first
        obtain ⟨dirs, rfl, rest⟩ := ih.1 h
        exact ⟨⟨dir, dirs⟩, rfl, fits, rest⟩
    · rintro ⟨⟨dir, dirs⟩, rfl, fits, rest⟩
      rw [enter_eq_ok.2 ⟨dir, rfl, fits⟩]
      exact ih.2 ⟨dirs, rfl, rest⟩

theorem find_eq_ok :
    d.find p = .ok (place, u) ↔
      checkPath p = .ok () ∧ (∀ s ∈ stops (d.origin p) p.pieces, d.IsDir s) ∧ Short p.pieces ∧
        place = lead (d.origin p) p.pieces ∧ d.root.at? place = some u := by
  unfold find
  constructor
  · intro h
    cases check : checkPath p with
    | error e => rw [check] at h; cases h
    | ok _ =>
      rw [check] at h
      cases way : d.follow (d.origin p) p.pieces with
      | error e => rw [way] at h; cases h
      | ok pl =>
        obtain ⟨dirs, rfl, short⟩ := follow_eq_ok.1 way
        rw [way] at h
        cases found : d.root.at? (lead (d.origin p) p.pieces) with
        | none => simp [bind, Except.bind, found] at h
        | some v =>
          simp only [bind, Except.bind, pure, Except.pure, found, Except.ok.injEq,
            Prod.mk.injEq] at h
          obtain ⟨rfl, rfl⟩ := h
          exact ⟨rfl, dirs, short, rfl, found⟩
  · rintro ⟨check, dirs, short, rfl, found⟩
    rw [check, follow_eq_ok.2 ⟨dirs, rfl, short⟩]
    simp [bind, Except.bind, pure, Except.pure, found]

/-- A path has a slot if its last name, but for slashes behind it, can stand in a directory. -/
theorem slot_eq_ok :
    d.slot p = .ok s ↔
      checkPath p = .ok () ∧ ∃ before slashes, p.pieces = before ++ s.2 :: slashes ∧
        (∀ b ∈ slashes, b = "") ∧ IsName s.2 ∧ s.1 = lead (d.origin p) before ∧
        (∀ st ∈ stops (d.origin p) (before ++ [s.2]), d.IsDir st) ∧ Short (before ++ [s.2]) := by
  unfold slot
  constructor
  · intro h
    cases check : checkPath p with
    | error e => rw [check] at h; cases h
    | ok _ =>
    rw [check] at h
    cases named : p.pieces.reverse.dropWhile (· = "") with
    | nil => rw [named] at h; cases h
    | cons name before =>
    obtain ⟨slashes, pieces, blank, solid⟩ := exists_of_dropWhile_reverse named
    simp only [bind, Except.bind, pure, Except.pure, named] at h
    cases way : d.follow (d.origin p) before.reverse with
    | error e => simp only [way] at h; cases h
    | ok dir =>
    cases last : d.enter dir name with
    | error e => simp only [way, last] at h; cases h
    | ok next =>
    simp only [way, last] at h
    split at h
    · cases h
    next no_dots =>
    cases h
    obtain ⟨dirs, rfl, short⟩ := follow_eq_ok.1 way
    obtain ⟨dir, -, fits⟩ := enter_eq_ok.1 last
    simp only [Bool.or_eq_true, decide_eq_true_eq, not_or] at no_dots
    refine ⟨rfl, before.reverse, slashes, pieces, by simpa using blank, ⟨?_, no_dots.2⟩, rfl,
      forall_stops_concat.2 ⟨dirs, dir⟩, short_concat.2 ⟨short, fits⟩⟩
    simpa [isIdle, no_dots.1] using solid
  · rintro ⟨check, before, slashes, pieces, blank, name, dir, dirs, short⟩
    obtain ⟨way, last⟩ := forall_stops_concat.1 dirs
    obtain ⟨short, fits⟩ := short_concat.1 short
    have named : p.pieces.reverse.dropWhile (· = "") = s.2 :: before.reverse := by
      rw [pieces, List.reverse_append, List.reverse_cons, List.append_assoc,
        List.dropWhile_append_of_pos (by simpa using blank)]
      simp [name.ne_empty]
    have follow : d.follow (d.origin p) before = .ok s.1 := follow_eq_ok.2 ⟨way, dir, short⟩
    have enter : d.enter s.1 s.2 = .ok (turn s.1 s.2) :=
      enter_eq_ok.2 ⟨dir ▸ last, rfl, fits⟩
    have no_dots : ¬ (decide (s.2 = ".") || decide (s.2 = "..")) = true := by
      simp [name.ne_dot, name.2]
    rw [check, named]
    simp only [bind, Except.bind, pure, Except.pure, List.reverse_reverse, follow, enter,
      if_neg no_dots]

theorem slot_place (h : d.slot p = .ok s) : s.1 ++ [s.2] = d.place p := by
  obtain ⟨-, before, slashes, pieces, blank, isName, dir, -, -⟩ := slot_eq_ok.1 h
  have idle : core slashes = [] := core_eq_nil fun b hb => by rw [blank b hb]; decide
  have stay (here : Place) : lead here slashes = here := by rw [← lead_core, idle, lead_nil]
  rw [Disk.place, pieces, lead_append, lead_cons, turn_name isName, stay, dir]

theorem slot_isDir (h : d.slot p = .ok s) : d.IsDir s.1 := by
  obtain ⟨-, before, slashes, -, -, -, dir, dirs, -⟩ := slot_eq_ok.1 h
  rw [dir]
  exact (forall_stops_concat.1 dirs).2

/-- A path with a slot has a file name. -/
theorem slot_fileName? (h : d.slot p = .ok s) : p.fileName? = some s.2 := by
  obtain ⟨-, before, slashes, pieces, blank, isName, -⟩ := slot_eq_ok.1 h
  exact fileName?_of_pieces pieces isName fun b hb => by rw [blank b hb]; rfl

theorem find_of_isDir (check : checkPath p = .ok ()) (short : Short p.pieces)
    (dirs : ∀ st ∈ stops (d.origin p) (core p.pieces), d.IsDir st) (isDir : d.IsDir (d.place p))
    (found : d.root.at? (d.place p) = some u) : d.find p = .ok (d.place p, u) := by
  refine find_eq_ok.2 ⟨check, fun st hst => ?_, short, rfl, found⟩
  rcases mem_stops_of_mem hst with hst | rfl
  · exact dirs st hst
  · exact isDir

/-- There are directories all along the way to a slot. -/
theorem slot_dirs (h : d.slot p = .ok s) :
    ∀ st ∈ stops (d.origin p) (core p.pieces), d.IsDir st := by
  obtain ⟨-, before, slashes, pieces, blank, isName, -, dirs, -⟩ := slot_eq_ok.1 h
  have idle : core slashes = [] := core_eq_nil fun b hb => by rw [blank b hb]; decide
  rw [pieces, List.append_cons, core_append, core_append, core_name isName, idle, List.append_nil]
  exact fun st hst => dirs st (mem_stops_core.1 hst)

theorem slot_fits (h : d.slot p = .ok s) : checkPath p = .ok () ∧ Short p.pieces := by
  obtain ⟨check, before, slashes, pieces, blank, -, -, -, short⟩ := slot_eq_ok.1 h
  refine ⟨check, fun q hq isName => ?_⟩
  rw [pieces, List.append_cons] at hq
  rcases List.mem_append.1 hq with hq | hq
  · exact short q hq isName
  · exact absurd (blank q hq) isName.ne_empty

/-- There are directories all along the way to a directory that is found. -/
theorem find_dirs (found : d.find p = .ok (place, u)) (directory : u.value = .directory) :
    ∀ st ∈ stops (d.origin p) (core p.pieces), d.IsDir st := by
  obtain ⟨-, dirs, -, rfl, there⟩ := find_eq_ok.1 found
  intro st hst
  have within : st ∈ stops (d.origin p) (core p.pieces ++ [""]) := by
    rw [stops_concat]
    exact List.mem_append_left _ hst
  exact forall_stops_concat.2 ⟨dirs, u, there, directory⟩ st (mem_stops_core.1 within)

/-! ## Paths that end in a name -/

variable {way : List String} {name : String}

/-- The way to a name is open: there are directories all along, and no name is too long. -/
structure Open (d : Disk) (start : Place) (way : List String) (name : String) : Prop where
  dirs : ∀ st ∈ stops start (way ++ [name]), d.IsDir st
  short : Short (way ++ [name])

theorem open_core {start : Place} {ps : List String} :
    d.Open start (core ps) name ↔ d.Open start ps name := by
  have short : Short (core ps ++ [name]) ↔ Short (ps ++ [name]) := by
    rw [short_concat, short_concat, short_core]
  constructor
  · rintro ⟨dirs, fits⟩
    exact ⟨fun st hst => dirs st (mem_stops_core.2 hst), short.1 fits⟩
  · rintro ⟨dirs, fits⟩
    exact ⟨fun st hst => dirs st (mem_stops_core.1 hst), short.2 fits⟩

theorem slot_of_names (h : p.Names way name) :
    d.slot p = .ok s ↔
      checkPath p = .ok () ∧ d.Open (d.origin p) way name ∧ s = (lead (d.origin p) way, name) := by
  obtain ⟨isName, ps, hps, rfl⟩ := h
  rw [slot_eq_ok, open_core, lead_core]
  constructor
  · rintro ⟨check, before, slashes, pieces, blank, -, dir, dirs, short⟩
    -- the last piece is a name, so no slash is behind it
    have last : slashes = [] := by
      rcases List.eq_nil_or_concat slashes with rfl | ⟨init, b, rfl⟩
      · rfl
      · have both := hps.symm.trans pieces
        rw [List.concat_eq_append, ← List.cons_append, ← List.append_assoc] at both
        obtain rfl : name = b := by simpa using (List.append_inj' both rfl).2
        exact absurd (blank name (by simp)) isName.ne_empty
    subst last
    obtain ⟨rfl, last⟩ := List.append_inj' (hps.symm.trans pieces) rfl
    obtain rfl : name = s.2 := by simpa using last
    exact ⟨check, ⟨dirs, short⟩, Prod.ext dir rfl⟩
  · rintro ⟨check, ⟨dirs, short⟩, rfl⟩
    exact ⟨check, ps, [], hps, by simp, isName, rfl, dirs, short⟩

theorem find_of_names (h : p.Names way name) :
    d.find p = .ok (place, u) ↔
      checkPath p = .ok () ∧ d.Open (d.origin p) way name ∧
        place = lead (d.origin p) way ++ [name] ∧ d.root.at? place = some u := by
  obtain ⟨isName, ps, hps, rfl⟩ := h
  rw [find_eq_ok, open_core, lead_core, hps, lead_name isName]
  constructor
  · rintro ⟨check, dirs, short, place, found⟩
    exact ⟨check, ⟨dirs, short⟩, place, found⟩
  · rintro ⟨check, ⟨dirs, short⟩, place, found⟩
    exact ⟨check, dirs, short, place, found⟩

/-! ## Files within a directory -/

variable {f : String}

/-- The file `f` within the directory at a path can be asked for. -/
structure Reaches (d : Disk) (p : Path) (f : String) : Prop where
  check : checkPath (p.join ⟨[f]⟩) = .ok ()
  way_open : d.Open (d.origin p) (core p.pieces) f

theorem Open.isDir {start : Place} (h : d.Open start way name) : d.IsDir (lead start way) :=
  (forall_stops_concat.1 h.dirs).2

theorem Reaches.isDir (h : d.Reaches p f) : d.IsDir (d.place p) := by
  have := h.way_open.isDir
  rwa [lead_core] at this

theorem origin_join (hf : IsName f) : d.origin (p.join ⟨[f]⟩) = d.origin p := by
  rw [origin, origin, isAbsolute_join p hf]

theorem place_join (hf : IsName f) : d.place (p.join ⟨[f]⟩) = d.place p ++ [f] := by
  rw [Disk.place, origin_join hf, ← lead_core, (names_join p hf).core, lead_name hf, lead_core,
    Disk.place]

theorem find_join (hf : IsName f) :
    d.find (p.join ⟨[f]⟩) = .ok (here, u) ↔
      d.Reaches p f ∧ here = d.place p ++ [f] ∧ d.root.at? here = some u := by
  rw [find_of_names (names_join p hf), origin_join hf, lead_core]
  constructor
  · rintro ⟨check, way_open, rest⟩
    exact ⟨⟨check, way_open⟩, rest⟩
  · rintro ⟨⟨check, way_open⟩, rest⟩
    exact ⟨check, way_open, rest⟩

theorem slot_join (hf : IsName f) :
    d.slot (p.join ⟨[f]⟩) = .ok s ↔ d.Reaches p f ∧ s = (d.place p, f) := by
  rw [slot_of_names (names_join p hf), origin_join hf, lead_core]
  constructor
  · rintro ⟨check, way_open, rest⟩
    exact ⟨⟨check, way_open⟩, rest⟩
  · rintro ⟨⟨check, way_open⟩, rest⟩
    exact ⟨check, way_open, rest⟩

theorem Reaches.find (h : d.Reaches p f) {q : String} (hq : q ∈ p.pieces) (solid : q ≠ "")
    (found : d.root.at? (d.place p) = some u) : d.find p = .ok (d.place p, u) := by
  exact find_of_isDir (checkPath_of_join h.check hq solid)
    (short_core.1 (short_concat.1 h.way_open.short).1) (forall_stops_concat.1 h.way_open.dirs).1
    h.isDir found

/-- In a directory that is found, a file can be asked for unless its path is too long. -/
theorem Reaches.of_find (found : d.find p = .ok (here, u)) (directory : u.value = .directory)
    (check : checkPath (p.join ⟨[f]⟩) = .ok ()) (size : f.utf8ByteSize ≤ maxName) :
    d.Reaches p f := by
  obtain ⟨-, dirs, short, rfl, there⟩ := find_eq_ok.1 found
  exact ⟨check, open_core.2 ⟨forall_stops_concat.2 ⟨dirs, u, there, directory⟩,
    short_concat.2 ⟨short, fun _ => size⟩⟩⟩

theorem has_eq_true : d.has p = true ↔ ∃ place u, d.find p = .ok (place, u) := by
  unfold has
  cases h : d.find p with
  | ok found => exact ⟨fun _ => ⟨found.1, found.2, rfl⟩, fun _ => rfl⟩
  | error e => exact ⟨nofun, nofun⟩

theorem find_snd_eq_some :
    (d.find p).toOption.map Prod.snd = some u ↔ ∃ place, d.find p = .ok (place, u) := by
  cases d.find p with
  | error e => exact ⟨nofun, nofun⟩
  | ok x =>
    obtain ⟨place, v⟩ := x
    constructor
    · intro h
      obtain rfl : v = u := Option.some.inj h
      exact ⟨place, rfl⟩
    · rintro ⟨place, h⟩
      cases h
      rfl

theorem has_eq_isSome (p : Path) (d : Disk) :
    d.has p = ((d.find p).toOption.map Prod.snd).isSome := by
  unfold has
  cases d.find p with
  | error e => rfl
  | ok x => rfl

theorem read_eq_ok {bytes : Bytes} :
    d.read p = .ok bytes ↔ ∃ place children, d.find p = .ok (place, ⟨.file bytes, children⟩) := by
  unfold read
  cases h : d.find p with
  | error e => simp [bind, Except.bind]
  | ok found =>
    obtain ⟨place, ⟨value, children⟩⟩ := found
    cases value with
    | directory => simp [bind, Except.bind, throw, throwThe, MonadExceptOf.throw]
    | file b => simp [bind, Except.bind, pure, Except.pure]

end Disk

end Retained
