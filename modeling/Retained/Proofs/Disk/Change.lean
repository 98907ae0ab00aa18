import Retained.Disk.Script
import Retained.Proofs.Disk.Place
import Retained.Proofs.Tree

/-!
# What a change leaves as it is

Whatever fills or empties a slot leaves all that is apart from the slot as it was, and above the
slot only directories that stay directories (`at?_fill_of_apart`, `isDir_fill`). In these terms it
is said where a step of a script changes anything when it succeeds (`Within`); the working
directory and the order of names it never changes (`Keeps`).
-/

namespace Retained

namespace Disk

open Retained.Path

variable {d d' : Disk} {p q : Path} {s a b : Place × String} {t u : Node Content} {w : Place}

/-- Neither of two places is above the other. -/
def Apart (a b : Place) : Prop := ¬ a <+: b ∧ ¬ b <+: a

theorem Apart.symm {a b : Place} (h : Apart a b) : Apart b a := ⟨h.2, h.1⟩

/-- What is below places that are apart is apart. -/
theorem Apart.mono {a b a' b' : Place} (h : Apart a b) (ha : a <+: a') (hb : b <+: b') :
    Apart a' b' := by
  refine ⟨fun below => ?_, fun below => ?_⟩
  · rcases List.prefix_or_prefix_of_prefix (ha.trans below) hb with h' | h'
    · exact h.1 h'
    · exact h.2 h'
  · rcases List.prefix_or_prefix_of_prefix ha (hb.trans below) with h' | h'
    · exact h.1 h'
    · exact h.2 h'

theorem not_prefix_append (w : Place) (n : String) : ¬ w ++ [n] <+: w := fun h => by
  simpa using h.length_le

theorem apart_of_ne {here : Place} {m n : String} (h : m ≠ n) :
    Apart (here ++ [m]) (here ++ [n]) := by
  refine ⟨fun below => h ?_, fun below => h ?_⟩
  · simpa using below
  · simpa [eq_comm] using below

/-- The names in every directory are in order. -/
def Ordered (d : Disk) : Prop := d.root.children.Ordered

instance (d : Disk) : Decidable d.Ordered := inferInstanceAs (Decidable d.root.children.Ordered)

/-! ## Slots -/

/-- A change to the child `n` of a node and nothing else. -/
structure Touches (n : String) (f : Node Content → Node Content) : Prop where
  value : ∀ u, (f u).value = u.value
  others : ∀ u m v, m ≠ n → (f u).at? (m :: v) = u.at? (m :: v)

theorem touches_insertChild (n : String) (t : Node Content) : Touches n (·.insertChild n t) :=
  ⟨fun _ => rfl, fun u m v h => by rw [Node.at?_insertChild, if_neg h]⟩

theorem touches_eraseChild (n : String) : Touches n (·.eraseChild n) :=
  ⟨fun _ => rfl, fun u m v h => by
    rw [Node.at?_cons, Node.at?_cons, Node.eraseChild, Forest.find?_erase_ne h]⟩

section Modify

variable {f : Node Content → Node Content} {r r' : Node Content}

theorem Touches.apart (hf : Touches s.2 f) (h : r.modify? f s.1 = some r')
    (apart : Apart (s.1 ++ [s.2]) w) : r'.at? w = r.at? w := by
  by_cases below : s.1 <+: w
  · obtain ⟨v, rfl⟩ := below
    obtain ⟨u, hu⟩ := Node.exists_at?_of_modify? h
    cases v with
    | nil => exact absurd (by simp) apart.2
    | cons m v =>
      have other : m ≠ s.2 := by
        rintro rfl
        exact apart.1 ⟨v, by simp⟩
      rw [Node.at?_modify? h hu, hf.others u m v other, Node.at?_append_some hu]
  · exact Node.at?_modify?_of_apart h below fun above =>
      apart.2 (above.trans (List.prefix_append _ _))

theorem Touches.value_eq (hf : Touches s.2 f) (h : r.modify? f s.1 = some r')
    (h1 : ¬ s.1 ++ [s.2] <+: w) : (r'.at? w).map (·.value) = (r.at? w).map (·.value) := by
  by_cases below : s.1 <+: w
  · obtain ⟨v, rfl⟩ := below
    obtain ⟨u, hu⟩ := Node.exists_at?_of_modify? h
    rw [Node.at?_modify? h hu, Node.at?_append_some hu]
    cases v with
    | nil => simp [hf.value u]
    | cons m v =>
      have other : m ≠ s.2 := by
        rintro rfl
        exact h1 ⟨v, by simp⟩
      rw [hf.others u m v other]
  · exact Node.value_modify? h below

end Modify

theorem isDir_iff : d.IsDir w ↔ (d.root.at? w).map (·.value) = some .directory := by
  rw [Option.map_eq_some_iff]
  rfl

theorem fill_eq (dir : d.IsDir s.1) (t : Node Content) :
    ∃ root, d.root.modify? (·.insertChild s.2 t) s.1 = some root ∧ d.fill s t = { d with root } := by
  obtain ⟨u, hu, -⟩ := dir
  obtain ⟨root, h⟩ := Node.exists_modify? (f := (·.insertChild s.2 t)) hu
  exact ⟨root, h, by rw [fill, h]⟩

@[simp]
theorem workDir_fill : (d.fill s t).workDir = d.workDir := by
  unfold fill
  split <;> rfl

@[simp]
theorem workDir_vacate : (d.vacate s).workDir = d.workDir := by
  unfold vacate
  split <;> rfl

/-- The directory of a slot that is filled gets a child, and stays as it was but for this. -/
theorem at?_fill_append (dir : d.IsDir s.1) (hu : d.root.at? s.1 = some u) (w : Place) :
    (d.fill s t).root.at? (s.1 ++ w) = (u.insertChild s.2 t).at? w := by
  obtain ⟨root, h, e⟩ := fill_eq dir t
  have inserted := Node.at?_modify? (w := w) h hu
  rwa [e]

theorem at?_fill (dir : d.IsDir s.1) : (d.fill s t).root.at? (s.1 ++ [s.2]) = some t := by
  obtain ⟨u, hu, -⟩ := id dir
  rw [at?_fill_append dir hu, Node.at?_insertChild, if_pos rfl, Node.at?_nil]

theorem at?_fill_of_apart (apart : Apart (s.1 ++ [s.2]) w) :
    (d.fill s t).root.at? w = d.root.at? w := by
  unfold fill
  split
  · next h => exact (touches_insertChild s.2 t).apart h apart
  · rfl

theorem isDir_fill (h1 : ¬ s.1 ++ [s.2] <+: w) : (d.fill s t).IsDir w ↔ d.IsDir w := by
  rw [isDir_iff, isDir_iff]
  unfold fill
  split
  · next h => rw [(touches_insertChild s.2 t).value_eq h h1]
  · rfl

theorem Ordered.fill (hd : d.Ordered) (ht : t.children.Ordered) : (d.fill s t).Ordered := by
  unfold Disk.fill
  split
  · next h =>
    exact Node.ordered_modify? hd h fun u hu => (Node.ordered_at? hd hu).insert ht
  · exact hd

theorem at?_vacate (hd : d.Ordered) (dir : d.IsDir s.1) :
    (d.vacate s).root.at? (s.1 ++ [s.2]) = none := by
  obtain ⟨u, hu, -⟩ := dir
  obtain ⟨root, h⟩ := Node.exists_modify? (f := (·.eraseChild s.2)) hu
  have ordered : u.children.Ordered := Node.ordered_at? hd hu
  rw [vacate, h]
  exact (Node.at?_modify? h hu).trans (by rw [Node.at?_eraseChild ordered, if_pos rfl])

theorem at?_vacate_of_apart (apart : Apart (s.1 ++ [s.2]) w) :
    (d.vacate s).root.at? w = d.root.at? w := by
  unfold vacate
  split
  · next h => exact (touches_eraseChild s.2).apart h apart
  · rfl

theorem isDir_vacate (h1 : ¬ s.1 ++ [s.2] <+: w) : (d.vacate s).IsDir w ↔ d.IsDir w := by
  rw [isDir_iff, isDir_iff]
  unfold vacate
  split
  · next h => rw [(touches_eraseChild s.2).value_eq h h1]
  · rfl

theorem Ordered.vacate (hd : d.Ordered) : (d.vacate s).Ordered := by
  unfold Disk.vacate
  split
  · next h => exact Node.ordered_modify? hd h fun u hu => (Node.ordered_at? hd hu).erase
  · exact hd

/-! ## The operations -/

theorem write_eq_ok {bytes : Bytes} (h : d.write p bytes = .ok d') :
    ∃ s, d.slot p = .ok s ∧ ¬ d.IsDir (s.1 ++ [s.2]) ∧ d' = d.fill s ⟨.file bytes, .nil⟩ := by
  unfold write at h
  split at h
  · cases h
  cases slot : d.slot p with
  | error e => rw [slot] at h; cases h
  | ok s =>
    simp only [slot, bind, Except.bind, pure, Except.pure] at h
    split at h
    · cases h
    next no_dir =>
    refine ⟨s, rfl, ?_, (Except.ok.inj h).symm⟩
    rintro ⟨⟨value, children⟩, found, rfl⟩
    exact no_dir children found

/-- A successful move empties one slot and fills another, unless both are the same. It puts a
directory in no file's stead. -/
theorem move_eq_ok (h : d.move p q = .ok d') :
    ∃ a b t, d.slot p = .ok a ∧ d.slot q = .ok b ∧ d.root.at? (a.1 ++ [a.2]) = some t ∧
      (a.1 ++ [a.2] = b.1 ++ [b.2] ∧ d' = d ∨
        Apart (a.1 ++ [a.2]) (b.1 ++ [b.2]) ∧ d' = (d.vacate a).fill b t ∧
          (t.value = .directory → ∀ old, d.root.at? (b.1 ++ [b.2]) = some old →
            old.value = .directory)) := by
  unfold move at h
  cases from_slot : d.slot p with
  | error e => rw [from_slot] at h; cases h
  | ok a =>
  cases to_slot : d.slot q with
  | error e => simp only [from_slot, to_slot, bind, Except.bind] at h; cases h
  | ok b =>
  simp only [from_slot, to_slot, bind, Except.bind, pure, Except.pure, throw, throwThe,
    MonadExceptOf.throw] at h
  split at h
  · cases h
  next t found =>
  refine ⟨a, b, t, rfl, rfl, found, ?_⟩
  split at h
  · cases h
  split at h
  · next same => exact .inl ⟨same, (Except.ok.inj h).symm⟩
  split at h
  · cases h
  next not_into =>
  split at h
  · cases h
  next not_onto =>
  refine .inr ⟨⟨by simpa using not_into, by simpa using not_onto⟩, ?_⟩
  split at h
  · next nothing =>
    exact ⟨(Except.ok.inj h).symm, fun _ old there => by cases nothing.symm.trans there⟩
  · next old there =>
    split at h
    · cases h
    next no_file =>
    split at h
    · cases h
    split at h
    · cases h
    refine ⟨(Except.ok.inj h).symm, fun directory old' there' => ?_⟩
    obtain rfl := Option.some.inj (there.symm.trans there')
    rw [directory] at no_file
    cases value : old.value with
    | directory => rfl
    | file bytes => simp [value, Content.isFile] at no_file

theorem at?_moved (dir : d.IsDir b.1) (apart : Apart (a.1 ++ [a.2]) (b.1 ++ [b.2])) :
    ((d.vacate a).fill b t).root.at? (b.1 ++ [b.2]) = some t :=
  at?_fill ((isDir_vacate fun below => apart.1 (below.trans (List.prefix_append _ _))).2 dir)

theorem attempt_eq_none {change : Disk → Except Error Disk} :
    attempt change d = (d', none) ↔ change d = .ok d' := by
  unfold attempt
  cases change d with
  | ok d => simp
  | error e => simp

theorem eq_of_attempt {change : Disk → Except Error Disk} {e : Error}
    (h : attempt change d = (d', some e)) : d' = d := by
  unfold attempt at h
  split at h
  · cases h
  · exact (Prod.mk.inj h).1.symm

/-! ## What every step keeps -/

/-- The working directory stays, and so does the order of names. -/
structure Keeps (d d' : Disk) : Prop where
  workDir : d'.workDir = d.workDir
  ordered : d.Ordered → d'.Ordered

namespace Keeps

theorem refl (d : Disk) : Keeps d d := ⟨rfl, id⟩

theorem trans {d'' : Disk} (h : Keeps d d') (h' : Keeps d' d'') : Keeps d d'' :=
  ⟨h'.workDir.trans h.workDir, h'.ordered ∘ h.ordered⟩

theorem place_eq (h : Keeps d d') (p : Path) : d'.place p = d.place p := by
  rw [place, place, origin, origin, h.workDir]

theorem fill (ht : t.children.Ordered) : Keeps d (d.fill s t) :=
  ⟨workDir_fill, fun hd => hd.fill ht⟩

theorem vacate : Keeps d (d.vacate s) := ⟨workDir_vacate, Ordered.vacate⟩

theorem clearOut : Keeps d (d.clearOut w) := by
  unfold Disk.clearOut
  split
  · next h => exact ⟨rfl, fun hd => Node.ordered_modify? hd h fun _ _ => trivial⟩
  · exact refl d

theorem removeTree : Keeps d (d.removeTree p).1 := by
  unfold Disk.removeTree
  split
  · exact refl d
  split
  · exact refl d
  split
  · exact vacate
  · exact clearOut

theorem makeDir (h : d.makeDir p = .ok d') : Keeps d d' := by
  unfold Disk.makeDir at h
  cases slot : d.slot p with
  | error e => rw [slot] at h; cases h
  | ok s =>
    simp only [slot, bind, Except.bind] at h
    split at h
    · cases h
    · cases h
      exact fill trivial

theorem settle : Keeps d (makeDirsBelow.settle p d).1 := by
  unfold makeDirsBelow.settle
  split
  · next made => exact makeDir made
  · exact refl d

theorem makeDirsBelow (above : List Path) : Keeps d (d.makeDirsBelow p above).1 := by
  induction above generalizing p with
  | nil => exact settle
  | cons dir above ih =>
    rw [Disk.makeDirsBelow]
    split
    · have first := ih (p := dir)
      split
      · next made =>
        rw [made] at first
        exact first.trans settle
      · exact first
    · exact settle

theorem makeDirs : Keeps d (d.makeDirs p).1 := by
  unfold Disk.makeDirs
  split
  · exact refl d
  · exact makeDirsBelow _

theorem attempt {change : Disk → Except Error Disk} (h : ∀ d', change d = .ok d' → Keeps d d') :
    Keeps d (attempt change d).1 := by
  unfold Disk.attempt
  split
  · next done => exact h _ done
  · exact refl d

theorem write {bytes : Bytes} (h : d.write p bytes = .ok d') : Keeps d d' := by
  obtain ⟨s, -, -, rfl⟩ := write_eq_ok h
  exact fill trivial

theorem move (h : d.move p q = .ok d') : Keeps d d' := by
  obtain ⟨a, b, t, -, -, found, ⟨-, rfl⟩ | ⟨-, rfl, -⟩⟩ := move_eq_ok h
  · exact refl d'
  · exact ⟨workDir_fill.trans workDir_vacate, fun hd => hd.vacate.fill (Node.ordered_at? hd found)⟩

theorem step (st : Step) (d : Disk) : Keeps d (st.run d).1 := by
  cases st with
  | clear p =>
    unfold Step.run
    dsimp only
    split
    · exact removeTree
    · exact refl d
  | makeDirs p => exact makeDirs
  | write p bytes => exact attempt fun _ => write
  | move p q => exact attempt fun _ => move
  | moveAside p q =>
    unfold Step.run
    dsimp only
    split
    · exact attempt fun _ => move
    · exact refl d

theorem of_step {st : Step} {e : Option Error} (h : st.run d = (d', e)) : Keeps d d' := by
  have := step st d
  rwa [h] at this

theorem of_run {steps : List Step} {e : Option Error} (h : Disk.run steps d = (d', e)) :
    Keeps d d' := by
  induction steps generalizing d with
  | nil =>
    cases h
    exact refl _
  | cons st rest ih =>
    rw [Disk.run] at h
    split at h
    · next done => exact (of_step done).trans (ih h)
    · exact of_step h

end Keeps

/-! ## Where a step changes anything -/

/-- Nothing changes but at these places and below, save that what is above them has other
children. -/
structure Within (places : List Place) (d d' : Disk) : Prop where
  at?_eq : ∀ w, (∀ v ∈ places, Apart v w) → d'.root.at? w = d.root.at? w
  isDir_iff : ∀ w, (∀ v ∈ places, ¬ v <+: w) → (d'.IsDir w ↔ d.IsDir w)

namespace Within

variable {places places' : List Place}

theorem refl (places : List Place) (d : Disk) : Within places d d := ⟨fun _ _ => rfl, fun _ _ => .rfl⟩

theorem fill : Within [s.1 ++ [s.2]] d (d.fill s t) :=
  ⟨fun _ hw => at?_fill_of_apart (hw _ List.mem_cons_self),
    fun _ hw => isDir_fill (hw _ List.mem_cons_self)⟩

theorem vacate : Within [s.1 ++ [s.2]] d (d.vacate s) :=
  ⟨fun _ hw => at?_vacate_of_apart (hw _ List.mem_cons_self),
    fun _ hw => isDir_vacate (hw _ List.mem_cons_self)⟩

theorem moved : Within [a.1 ++ [a.2], b.1 ++ [b.2]] d ((d.vacate a).fill b t) := by
  refine ⟨fun w hw => ?_, fun w hw => ?_⟩
  · rw [at?_fill_of_apart (hw _ (by simp)), at?_vacate_of_apart (hw _ (by simp))]
  · rw [isDir_fill (hw _ (by simp)), isDir_vacate (hw _ (by simp))]

end Within

theorem write_join {f : String} {bytes : Bytes} (hf : IsName f)
    (h : (Step.write (p.join ⟨[f]⟩) bytes).run d = (d', none)) :
    d.Reaches p f ∧ Within [d.place p ++ [f]] d d' ∧ d'.IsDir (d.place p) ∧
      d'.root.at? (d.place p ++ [f]) = some ⟨.file bytes, .nil⟩ := by
  obtain ⟨slot, found, -, rfl⟩ := write_eq_ok (attempt_eq_none.1 h)
  obtain ⟨reaches, rfl⟩ := (slot_join hf).1 found
  have isDir := reaches.isDir
  exact ⟨reaches, .fill (s := (d.place p, f)), (isDir_fill (not_prefix_append _ f)).2 isDir,
    at?_fill (s := (d.place p, f)) isDir⟩

theorem write_join_node {f : String} {bytes : Bytes} (hf : IsName f)
    (h : (Step.write (p.join ⟨[f]⟩) bytes).run d = (d', none)) :
    ∃ t, d.root.at? (d.place p) = some t ∧ t.value = .directory ∧
      d'.root.at? (d.place p) = some (t.insertChild f ⟨.file bytes, .nil⟩) := by
  obtain ⟨slot, found, -, rfl⟩ := write_eq_ok (attempt_eq_none.1 h)
  obtain ⟨reaches, rfl⟩ := (slot_join hf).1 found
  obtain ⟨t, there, directory⟩ := reaches.isDir
  have filled := at?_fill_append (s := (d.place p, f)) (t := ⟨.file bytes, .nil⟩) reaches.isDir
    there []
  rw [List.append_nil] at filled
  exact ⟨t, there, directory, filled⟩

/-- A move that succeeds, to a place that is apart. -/
theorem move_places (apart : Apart (d.place p) (d.place q))
    (h : (Step.move p q).run d = (d', none)) :
    ∃ t, d.root.at? (d.place p) = some t ∧ Within [d.place p, d.place q] d d' ∧
      (d.Ordered → d'.root.at? (d.place p) = none) ∧ d'.root.at? (d.place q) = some t := by
  obtain ⟨a, b, t, source, target, found, moved⟩ := move_eq_ok (attempt_eq_none.1 h)
  rw [← slot_place source, ← slot_place target] at apart ⊢
  rcases moved with ⟨same, -⟩ | ⟨-, rfl, -⟩
  · exact absurd (same ▸ List.prefix_refl _) apart.1
  refine ⟨t, found, .moved, fun ordered => ?_, at?_moved (slot_isDir target) apart⟩
  rw [at?_fill_of_apart apart.symm]
  exact at?_vacate ordered (slot_isDir source)

/-- A directory is moved to where nothing or a directory is. -/
theorem isDir_of_move (apart : Apart (d.place p) (d.place q)) (isDir : d.IsDir (d.place p))
    (h : (Step.move p q).run d = (d', none)) (there : d.root.at? (d.place q) = some u) :
    d.IsDir (d.place q) := by
  obtain ⟨a, b, t, source, target, found, moved⟩ := move_eq_ok (attempt_eq_none.1 h)
  rw [← slot_place source, ← slot_place target] at apart
  rw [← slot_place source] at isDir
  rw [← slot_place target] at there ⊢
  obtain ⟨t', found', directory⟩ := isDir
  obtain rfl := Option.some.inj (found'.symm.trans found)
  rcases moved with ⟨same, -⟩ | ⟨-, -, onto⟩
  · exact absurd (same ▸ List.prefix_refl _) apart.1
  · exact ⟨u, there, onto directory u there⟩

theorem moveAside_cases (h : (Step.moveAside p q).run d = (d', none)) :
    d.has p = true ∧ (Step.move p q).run d = (d', none) ∨ d.has p = false ∧ d' = d := by
  unfold Step.run at h
  dsimp only at h
  split at h
  · next there => exact .inl ⟨there, h⟩
  · next absent =>
    cases h
    exact .inr ⟨by simpa using absent, rfl⟩

variable {way : List String} {name : String}

/-- Clearing a path that ends in a name fails and changes nothing, finds nothing, or empties a
slot. -/
theorem clear_of_names (hp : p.Names way name) :
    (∃ e, (Step.clear p).run d = (d, some e)) ∨
      d.has p = false ∧ (Step.clear p).run d = (d, none) ∨
      ∃ s, d.slot p = .ok s ∧ (Step.clear p).run d = (d.vacate s, none) := by
  unfold Step.run
  dsimp only
  split
  · next found =>
    obtain ⟨place, u, found⟩ := has_eq_true.1 found
    obtain ⟨check, way_open, -, -⟩ := (find_of_names hp).1 found
    have slot := (slot_of_names hp).2 ⟨check, way_open, rfl⟩
    unfold removeTree
    rw [found, slot]
    dsimp only
    split
    · exact .inl ⟨_, rfl⟩
    · exact .inr (.inr ⟨_, rfl, rfl⟩)
  · next absent => exact .inr (.inl ⟨by simpa using absent, rfl⟩)

theorem clear_place (hp : p.Names way name) (h : (Step.clear p).run d = (d', none)) :
    Within [d.place p] d d' ∧ (d.Ordered → d'.has p = false) := by
  rcases clear_of_names hp with ⟨e, h'⟩ | ⟨absent, h'⟩ | ⟨s, slot, h'⟩
  · cases h.symm.trans h'
  · cases h.symm.trans h'
    exact ⟨.refl _ _, fun _ => absent⟩
  · cases h.symm.trans h'
    refine ⟨slot_place slot ▸ .vacate, fun ordered => ?_⟩
    rw [← Bool.not_eq_true, has_eq_true]
    rintro ⟨place, u, found⟩
    obtain ⟨-, -, -, rfl, found⟩ := find_eq_ok.1 found
    have gone := at?_vacate ordered (slot_isDir slot)
    rw [slot_place slot, ← (Keeps.vacate (s := s)).place_eq p] at gone
    cases found.symm.trans gone

theorem enter_ne_notFound {here : Place} {piece : String} (dir : d.IsDir here) :
    d.enter here piece ≠ .error .notFound := by
  obtain ⟨⟨value, children⟩, found, rfl⟩ := dir
  unfold enter
  rw [found]
  dsimp only
  split
  · nofun
  split
  · nofun
  split
  · nofun
  · nofun

theorem follow_ne_notFound {here : Place} {ps : List String}
    (dirs : ∀ st ∈ stops here ps, d.IsDir st) : d.follow here ps ≠ .error .notFound := by
  induction ps generalizing here with
  | nil => nofun
  | cons p ps ih =>
    rw [stops_cons, List.forall_mem_cons] at dirs
    rw [follow]
    cases first : d.enter here p with
    | error e =>
      rintro ⟨⟩
      exact enter_ne_notFound dirs.1 first
    | ok next =>
      obtain ⟨-, rfl, -⟩ := enter_eq_ok.1 first
      exact ih dirs.2

/-- With directories all along the way, it is not for want of one that there is no slot. -/
theorem slot_ne_notFound (hp : p.Names way name)
    (dirs : ∀ st ∈ stops (d.origin p) (way ++ [name]), d.IsDir st) :
    d.slot p ≠ .error .notFound := by
  obtain ⟨isName, ps, hps, rfl⟩ := hp
  have solid : p.text ≠ "" :=
    text_ne_empty (show name ∈ p.pieces by simp [hps]) isName.ne_empty
  have dirs : ∀ st ∈ stops (d.origin p) (ps ++ [name]), d.IsDir st :=
    fun st hst => dirs st (mem_stops_core.2 hst)
  rw [forall_stops_concat] at dirs
  have named : p.pieces.reverse.dropWhile (· = "") = name :: ps.reverse := by
    simp [hps, isName.ne_empty]
  unfold slot
  rw [named]
  dsimp only
  rw [List.reverse_reverse]
  cases check : checkPath p with
  | error e =>
    rintro ⟨⟩
    unfold checkPath at check
    rw [if_neg solid] at check
    split at check
    · cases check
    split at check
    · cases check
    · cases check
  | ok _ =>
  cases way : d.follow (d.origin p) ps with
  | error e =>
    rintro ⟨⟩
    exact follow_ne_notFound dirs.1 way
  | ok home =>
  obtain ⟨-, rfl, -⟩ := follow_eq_ok.1 way
  cases last : d.enter (lead (d.origin p) ps) name with
  | error e =>
    simp only [bind, Except.bind, last]
    rintro ⟨⟩
    exact enter_ne_notFound dirs.2 last
  | ok next =>
    simp only [bind, Except.bind, last]
    split
    · nofun
    · nofun

theorem makeDir_ne_notFound (hp : p.Names way name)
    (dirs : ∀ st ∈ stops (d.origin p) (way ++ [name]), d.IsDir st) :
    d.makeDir p ≠ .error .notFound := by
  unfold makeDir
  cases slot : d.slot p with
  | error e =>
    rintro ⟨⟩
    exact slot_ne_notFound hp dirs slot
  | ok s =>
    simp only [bind, Except.bind]
    split
    · nofun
    · nofun

theorem makeDirs_eq_settle (hp : p.Names way name)
    (dirs : ∀ st ∈ stops (d.origin p) (way ++ [name]), d.IsDir st) :
    d.makeDirs p = makeDirsBelow.settle p d := by
  have solid : p.text ≠ "" := by
    obtain ⟨isName, ps, hps, rfl⟩ := hp
    exact text_ne_empty (show name ∈ p.pieces by simp [hps]) isName.ne_empty
  rw [makeDirs, if_neg solid]
  cases p.above with
  | nil => rfl
  | cons dir above =>
    rw [makeDirsBelow]
    split
    · next missing => exact absurd missing (makeDir_ne_notFound hp dirs)
    · rfl

theorem isDirectory_of_slot {e : Error} (hp : p.Names way name) (h : d.slot p = .error e) :
    d.isDirectory p = false := by
  unfold isDirectory
  split
  · next place node found =>
    obtain ⟨check, way_open, -, -⟩ := (find_of_names hp).1 found
    rw [(slot_of_names hp).2 ⟨check, way_open, rfl⟩] at h
    cases h
  · rfl

/--
Making a directory whose way is there fails and changes nothing, finds a directory, or fills a
slot with one.
-/
theorem makeDirs_of_names (hp : p.Names way name)
    (dirs : ∀ st ∈ stops (d.origin p) (way ++ [name]), d.IsDir st) :
    (∃ e, d.makeDirs p = (d, some e)) ∨
      ∃ s, d.slot p = .ok s ∧
        (d.makeDirs p = (d, none) ∨ d.makeDirs p = (d.fill s ⟨.directory, .nil⟩, none)) := by
  rw [makeDirs_eq_settle hp dirs]
  unfold makeDirsBelow.settle makeDir
  cases slot : d.slot p with
  | error e => simp [bind, Except.bind, isDirectory_of_slot hp slot]
  | ok s =>
    simp only [bind, Except.bind]
    cases d.look s with
    | none => exact .inr ⟨s, rfl, .inr rfl⟩
    | some _ =>
      cases d.isDirectory p with
      | false => exact .inl ⟨_, rfl⟩
      | true => exact .inr ⟨s, rfl, .inl rfl⟩

/-! ## Scripts -/

theorem run_cons_eq_none {st : Step} {rest : List Step} :
    run (st :: rest) d = (d', none) ↔ ∃ m, st.run d = (m, none) ∧ run rest m = (d', none) := by
  rw [run]
  cases st.run d with
  | mk m e => cases e with
    | none => simp
    | some e => simp

/-- How many steps a script does before one fails. -/
def progress : List Step → Disk → Nat
  | [], _ => 0
  | st :: rest, d =>
    match st.run d with
    | (d, none) => progress rest d + 1
    | (_, some _) => 0

/-- What each step of a script does to the stage of a disk, a run of them does in order. -/
theorem run_stage {stage : Nat → Disk → Prop} {script : List Step}
    (next : ∀ i st d d', script[i]? = some st → stage i d → st.run d = (d', none) → stage (i + 1) d')
    (fail : ∀ i st d d' e, script[i]? = some st → stage i d → st.run d = (d', some e) → stage i d')
    (start : stage 0 d) : stage (progress script d) (run script d).1 := by
  have tail (rest : List Step) : ∀ i d, (∀ j st, rest[j]? = some st → script[i + j]? = some st) →
      stage i d → stage (i + progress rest d) (run rest d).1 := by
    induction rest with
    | nil => exact fun _ _ _ h => h
    | cons st rest ih =>
      intro i d within h
      have here : script[i]? = some st := within 0 st rfl
      rw [run, progress]
      cases done : st.run d with
      | mk d' e =>
        cases e with
        | some e => exact fail i st d d' e here h done
        | none =>
          have later : ∀ j st', rest[j]? = some st' → script[i + 1 + j]? = some st' := by
            intro j st' hj
            rw [Nat.add_right_comm]
            exact within (j + 1) st' hj
          have := ih (i + 1) d' later (next i st d d' here h done)
          rw [Nat.add_right_comm] at this
          exact this
  have := tail script 0 d (fun j st hj => by rwa [Nat.zero_add]) start
  rwa [Nat.zero_add] at this

end Disk

end Retained
