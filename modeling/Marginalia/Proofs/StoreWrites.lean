import Marginalia.Store
import Mathlib.Tactic.Common

/-!
# Where a write goes

A store is read off by `Store.get?`, and `Store.put` changes it at one location (`get?_put`). Paths
are walked through directories only. So in two stores with the same directories (`SameDirectories`)
a path leads to the same place, if something stands there in both (`walk_of_sameDirectories`), and a
file is written to the same place (`target?_congr`). A write fails and changes nothing, or changes
this place and keeps whether the file there can be run (`write_of_target?`,
`exists_error_of_target?`). Making directories leaves all files as they are
(`sameFiles_layDirectories`).
-/

namespace Marginalia

namespace Store

open Utf8 (Octets)

variable {s t : Store}

/-! ## One entry -/

theorem lookup_cons_of_ne {at' loc : Location} (h : at' ≠ loc) (entry : Entry)
    (entries : List (Location × Entry)) :
    ((loc, entry) :: entries).lookup at' = entries.lookup at' := by
  rw [List.lookup_cons, beq_eq_false_iff_ne.2 h]

theorem lookup_map_replace_of_ne {at' loc : Location} (h : at' ≠ loc) (entry : Entry)
    (entries : List (Location × Entry)) :
    (entries.map fun e => if e.1 = loc then (loc, entry) else e).lookup at' =
      entries.lookup at' := by
  induction entries with
  | nil => rfl
  | cons e entries ih =>
    rw [List.map_cons]
    by_cases hl : e.1 = loc
    · rw [if_pos hl, lookup_cons_of_ne h, ih, lookup_cons_of_ne (hl ▸ h)]
    · rw [if_neg hl, List.lookup_cons, List.lookup_cons, ih]

theorem lookup_map_replace_self {loc : Location} (entry : Entry)
    {entries : List (Location × Entry)} (h : entries.any (·.1 = loc)) :
    (entries.map fun e => if e.1 = loc then (loc, entry) else e).lookup loc = some entry := by
  induction entries with
  | nil => cases h
  | cons e entries ih =>
    rw [List.map_cons]
    by_cases hl : e.1 = loc
    · rw [if_pos hl, List.lookup_cons_self]
    · rw [List.any_cons, decide_eq_false hl, Bool.false_or] at h
      rw [if_neg hl, lookup_cons_of_ne (Ne.symm hl), ih h]

theorem home_put (s : Store) (loc : Location) (entry : Entry) : (s.put loc entry).home = s.home := by
  unfold put
  split_ifs <;> rfl

/-- The working directory and the directories around it are always there. -/
theorem get?_of_prefix_home {loc : Location} (h : loc <+: s.home) : s.get? loc = some .directory :=
  if_pos (List.isPrefixOf_iff_prefix.2 h)

theorem get?_of_not_prefix_home {loc : Location} (h : ¬ loc <+: s.home) :
    s.get? loc = s.entries.lookup loc :=
  if_neg fun hprefix => h (List.isPrefixOf_iff_prefix.1 hprefix)

theorem lookup_entries_put (s : Store) (loc : Location) (entry : Entry) (at' : Location) :
    (s.put loc entry).entries.lookup at' =
      if at' = loc then some entry else s.entries.lookup at' := by
  unfold put
  by_cases hany : s.entries.any (·.1 = loc)
  · rw [if_pos hany]
    by_cases hloc : at' = loc
    · rw [if_pos hloc, hloc, lookup_map_replace_self entry hany]
    · rw [if_neg hloc, lookup_map_replace_of_ne hloc]
  · rw [if_neg hany]
    show (s.entries ++ [(loc, entry)]).lookup at' = _
    rw [List.lookup_append]
    by_cases hloc : at' = loc
    · have hnone : s.entries.lookup at' = none := by
        rw [List.lookup_eq_none_iff]
        intro e he
        rw [bne_iff_ne, hloc]
        exact fun heq => hany (List.any_eq_true.2 ⟨e, he, decide_eq_true heq.symm⟩)
      rw [hnone, if_pos hloc, hloc, List.lookup_cons_self]
      rfl
    · rw [if_neg hloc, lookup_cons_of_ne hloc]
      exact Option.or_none

/-- **One entry changes.** Nothing can be put at the working directory or at a directory around
it. -/
theorem get?_put (s : Store) (loc : Location) (entry : Entry) (at' : Location) :
    (s.put loc entry).get? at' =
      if at' = loc ∧ ¬ loc <+: s.home then some entry else s.get? at' := by
  by_cases ha : at' <+: s.home
  · rw [get?_of_prefix_home ha, get?_of_prefix_home (by rwa [home_put]), if_neg]
    rintro ⟨rfl, hloc⟩
    exact hloc ha
  · rw [get?_of_not_prefix_home ha, get?_of_not_prefix_home (by rwa [home_put]), lookup_entries_put]
    by_cases hloc : at' = loc
    · rw [if_pos hloc, if_pos ⟨hloc, hloc ▸ ha⟩]
    · rw [if_neg hloc, if_neg fun h => hloc h.1]

/-- Whether the file at a location can be run. -/
def runs (s : Store) (loc : Location) : Bool :=
  match s.get? loc with
  | some (.file _ executable) => executable
  | _ => false

theorem isDirectoryAt_iff {loc : Location} :
    s.isDirectoryAt loc = true ↔ s.get? loc = some .directory := decide_eq_true_iff

/-! ## Walking -/

/-- Stores with one working directory and with directories at the same places. -/
structure SameDirectories (s t : Store) : Prop where
  home : s.home = t.home
  isDirectoryAt : ∀ loc, s.isDirectoryAt loc = t.isDirectoryAt loc

theorem SameDirectories.symm (h : SameDirectories s t) : SameDirectories t s :=
  ⟨h.home.symm, fun loc => (h.isDirectoryAt loc).symm⟩

theorem SameDirectories.trans {u : Store} (h : SameDirectories s t) (h' : SameDirectories t u) :
    SameDirectories s u :=
  ⟨h.home.trans h'.home, fun loc => (h.isDirectoryAt loc).trans (h'.isDirectoryAt loc)⟩

theorem SameDirectories.origin (h : SameDirectories s t) (p : Path) : s.origin p = t.origin p := by
  unfold Store.origin
  rw [h.home]

/-- What one step of a walk does. -/
theorem walk_cons_eq_ok_iff {here loc : Location} {step : Octets} {rest : List Octets} :
    s.walk here (step :: rest) = .ok loc ↔ s.isDirectoryAt here = true ∧
      (step = Path.hereName ∧ s.walk here rest = .ok loc ∨
        step = Path.upName ∧ s.walk here.parent rest = .ok loc ∨
        step ≠ Path.hereName ∧ step ≠ Path.upName ∧ step.length ≤ 255 ∧ s.get? (here ++ [step]) ≠ none ∧
          s.walk (here ++ [step]) rest = .ok loc) := by
  rw [walk]
  by_cases hdir : s.isDirectoryAt here = true
  · rw [if_pos hdir]
    by_cases hdot : step = Path.hereName
    · subst hdot
      simp [hdir, Path.hereName_ne_upName]
    rw [if_neg hdot]
    by_cases hup : step = Path.upName
    · subst hup
      simp [hdir, Path.hereName_ne_upName.symm]
    rw [if_neg hup]
    by_cases hlong : step.length > 255
    · simp [hdot, hup, hlong, Nat.not_le.2 hlong]
    · cases hget : s.get? (here ++ [step]) with
      | none => simp [hdot, hup, hlong]
      | some entry => simp [hdir, hdot, hup, hlong, Nat.not_lt.1 hlong]
  · simp [hdir]

/-- A path that leads to some place in `s` leads there in `t` too, if something stands there. -/
theorem walk_of_sameDirectories (hst : SameDirectories s t) {steps : List Octets}
    {here loc : Location} (h : s.walk here steps = .ok loc) (hloc : t.get? loc ≠ none) :
    t.walk here steps = .ok loc := by
  induction steps generalizing here with
  | nil => exact h
  | cons step rest ih =>
    rw [walk_cons_eq_ok_iff] at h ⊢
    obtain ⟨hdir, ⟨hdot, h⟩ | ⟨hup, h⟩ | ⟨hdot, hup, hshort, -, h⟩⟩ := h
    · exact ⟨hst.isDirectoryAt here ▸ hdir, Or.inl ⟨hdot, ih h⟩⟩
    · exact ⟨hst.isDirectoryAt here ▸ hdir, Or.inr (Or.inl ⟨hup, ih h⟩)⟩
    · refine ⟨hst.isDirectoryAt here ▸ hdir, Or.inr (Or.inr ⟨hdot, hup, hshort, ?_, ih h⟩)⟩
      -- the next place is the end of the path, or a directory
      cases rest with
      | nil =>
        cases h
        exact hloc
      | cons step' rest =>
        have hnext := hst.isDirectoryAt (here ++ [step]) ▸ (walk_cons_eq_ok_iff.1 h).1
        rw [isDirectoryAt_iff.1 hnext]
        exact Option.some_ne_none _

/-- A walk ends at the name that it is told last. -/
theorem getLast?_of_walk {steps : List Octets} {here loc : Location} {name : Octets}
    (h : s.walk here steps = .ok loc) (hlast : steps.getLast? = some name) (hdot : name ≠ Path.hereName)
    (hup : name ≠ Path.upName) : loc.getLast? = some name := by
  induction steps generalizing here with
  | nil => cases hlast
  | cons step rest ih =>
    obtain ⟨-, h⟩ := walk_cons_eq_ok_iff.1 h
    cases rest with
    | nil =>
      obtain rfl : step = name := Option.some.inj hlast
      obtain ⟨h, -⟩ | ⟨h, -⟩ | ⟨-, -, -, -, h⟩ := h
      · exact absurd h hdot
      · exact absurd h hup
      · cases h
        exact List.getLast?_concat
    | cons step' rest =>
      rw [List.getLast?_cons_cons] at hlast
      obtain ⟨-, h⟩ | ⟨-, h⟩ | ⟨-, -, -, -, h⟩ := h
      · exact ih h hlast
      · exact ih h hlast
      · exact ih h hlast

/-- A walk that is told to stay at last ends at a directory. -/
theorem isDirectoryAt_of_walk {steps : List Octets} {here loc : Location}
    (h : s.walk here steps = .ok loc) (hlast : steps.getLast? = some Path.hereName) :
    s.isDirectoryAt loc = true := by
  induction steps generalizing here with
  | nil => cases hlast
  | cons step rest ih =>
    obtain ⟨hdir, h⟩ := walk_cons_eq_ok_iff.1 h
    cases rest with
    | nil =>
      obtain rfl : step = Path.hereName := Option.some.inj hlast
      obtain ⟨-, h⟩ | ⟨h, -⟩ | ⟨h, -⟩ := h
      · cases h
        exact hdir
      · exact absurd h (by decide)
      · exact absurd rfl h
    | cons step' rest =>
      rw [List.getLast?_cons_cons] at hlast
      obtain ⟨-, h⟩ | ⟨-, h⟩ | ⟨-, -, -, -, h⟩ := h
      · exact ih h hlast
      · exact ih h hlast
      · exact ih h hlast

/-! ## Reading -/

theorem read_eq_ok_iff {p : Path} {contents : Octets} :
    s.read p = .ok contents ↔
      refused? p = none ∧ endsInSlash p = false ∧ ∃ loc executable,
        s.walk (s.origin p) (steps p) = .ok loc ∧ s.get? loc = some (.file contents executable) := by
  unfold read resolve
  cases refused? p with
  | some cause => simp [bind, Except.bind]
  | none =>
    cases s.walk (s.origin p) (steps p) with
    | error cause => simp [bind, Except.bind]
    | ok loc =>
      rcases hget : s.get? loc with _ | _ | ⟨old, executable⟩
      · simp [bind, Except.bind, hget]
      · simp [bind, Except.bind, hget]
      · cases hslash : endsInSlash p with
        | true => simp [bind, Except.bind, hget]
        | false => cases executable <;> simp [bind, Except.bind, hget]

/-- A file is read from the same place in a store with the same directories. -/
theorem read_of_sameDirectories (hst : SameDirectories s t) {p : Path} {contents : Octets}
    (h : s.read p = .ok contents)
    (hsame : ∀ loc executable, s.walk (s.origin p) (steps p) = .ok loc →
      s.get? loc = some (.file contents executable) → t.get? loc = s.get? loc) :
    t.read p = .ok contents := by
  obtain ⟨hp, hslash, loc, executable, hwalk, hget⟩ := read_eq_ok_iff.1 h
  have htget := (hsame loc executable hwalk hget).trans hget
  refine read_eq_ok_iff.2 ⟨hp, hslash, loc, executable, ?_, htget⟩
  rw [← hst.origin]
  exact walk_of_sameDirectories hst hwalk (by rw [htget]; exact Option.some_ne_none _)

theorem readText_eq_ok_iff {p : Path} {text : Text} :
    s.readText p = .ok text ↔
      ∃ contents, s.read p = .ok contents ∧ Utf8.decode? contents = some text := by
  unfold readText
  cases s.read p with
  | error cause => simp [bind, Except.bind]
  | ok contents =>
    simp only [bind, Except.bind, Except.ok.injEq, exists_eq_left']
    cases Utf8.decode? contents with
    | none => simp
    | some text' => simp

/-! ## Writing -/

theorem parentOf_eq_ok_iff {p : Path} {dir : Location} {name : Octets} :
    s.parentOf p = .ok (dir, name) ↔
      refused? p = none ∧ s.walk (s.origin p) (steps p).dropLast = .ok dir ∧ s.isDirectoryAt dir = true ∧
        name = (steps p).getLast?.getD Path.hereName ∧ name.length ≤ 255 := by
  unfold parentOf
  cases refused? p with
  | some cause => simp
  | none =>
    cases hwalk : s.walk (s.origin p) (steps p).dropLast with
    | error cause => simp [bind, Except.bind, hwalk]
    | ok dir' =>
      by_cases hdir : s.isDirectoryAt dir' = true
      · by_cases hlong : ((steps p).getLast?.getD Path.hereName).length > 255
        · simp only [bind, Except.bind, hwalk, hdir, Bool.not_true, Bool.false_eq_true, if_false,
            if_pos hlong]
          constructor
          · intro h
            cases h
          · rintro ⟨-, -, -, rfl, hshort⟩
            exact absurd hshort (Nat.not_le.2 hlong)
        · simp only [bind, Except.bind, hwalk, hdir, Bool.not_true, Bool.false_eq_true, if_false,
            if_neg hlong]
          constructor
          · intro h
            cases h
            exact ⟨trivial, rfl, hdir, rfl, Nat.not_lt.1 hlong⟩
          · rintro ⟨-, h, -, rfl, -⟩
            cases h
            rfl
      · simp only [bind, Except.bind, hwalk, hdir, Bool.not_false, if_true]
        constructor
        · intro h
          cases h
        · rintro ⟨-, h, hdir', -⟩
          cases h
          exact absurd hdir' hdir

/-- The place that a file is written to, if it can be written. -/
def target? (s : Store) (p : Path) : Option Location :=
  match s.parentOf p with
  | .error _ => none
  | .ok (dir, name) =>
    if name = Path.hereName ∨ name = Path.upName ∨ s.isDirectoryAt (dir ++ [name]) ∨ endsInSlash p then none
    else some (dir ++ [name])

theorem target?_eq_some_iff {p : Path} {loc : Location} :
    s.target? p = some loc ↔ ∃ dir name, s.parentOf p = .ok (dir, name) ∧
      (name ≠ Path.hereName ∧ name ≠ Path.upName ∧ s.isDirectoryAt (dir ++ [name]) = false ∧
        endsInSlash p = false) ∧ loc = dir ++ [name] := by
  unfold target?
  cases s.parentOf p with
  | error cause => simp
  | ok place =>
    obtain ⟨dir, name⟩ := place
    simp only [Except.ok.injEq, Prod.mk.injEq, Option.ite_none_left_eq_some, Option.some.injEq]
    constructor
    · rintro ⟨h, rfl⟩
      exact ⟨dir, name, ⟨rfl, rfl⟩, by simpa [not_or] using h, rfl⟩
    · rintro ⟨dir', name', ⟨rfl, rfl⟩, h, rfl⟩
      exact ⟨by simpa [not_or] using h, rfl⟩

/-- A file that can be written is put in its place, and can be run if it could before. -/
theorem write_of_target? {p : Path} {loc : Location} (h : s.target? p = some loc)
    (contents : Octets) :
    s.write p contents = .ok (s.put loc (.file contents (s.runs loc))) := by
  obtain ⟨dir, name, hp, ⟨hdot, hup, hdir, hslash⟩, rfl⟩ := target?_eq_some_iff.1 h
  have hnot : s.get? (dir ++ [name]) ≠ some .directory := fun hget =>
    Bool.false_ne_true (hdir.symm.trans (isDirectoryAt_iff.2 hget))
  unfold write runs
  simp only [bind, Except.bind, hp, if_neg (not_or.2 ⟨hdot, hup⟩)]
  rcases hget : s.get? (dir ++ [name]) with _ | _ | ⟨old, executable⟩
  · simp [hslash]
  · exact absurd hget hnot
  · simp [hslash]

theorem exists_error_of_target? {p : Path} (h : s.target? p = none) (contents : Octets) :
    ∃ cause, s.write p contents = .error cause := by
  unfold write
  cases hp : s.parentOf p with
  | error cause => exact ⟨cause, rfl⟩
  | ok place =>
    obtain ⟨dir, name⟩ := place
    simp only [bind, Except.bind]
    by_cases hname : name = Path.hereName ∨ name = Path.upName
    · exact ⟨_, if_pos hname⟩
    rw [if_neg hname]
    obtain ⟨hdot, hup⟩ := not_or.1 hname
    have hslash : s.isDirectoryAt (dir ++ [name]) = false → endsInSlash p = true := by
      intro hdir
      by_contra hslash
      have hsome := target?_eq_some_iff.2
        ⟨dir, name, hp, ⟨hdot, hup, hdir, Bool.eq_false_iff.2 hslash⟩, rfl⟩
      rw [h] at hsome
      cases hsome
    rcases hget : s.get? (dir ++ [name]) with _ | _ | ⟨old, executable⟩
    · exact ⟨_, if_pos (hslash (by rw [isDirectoryAt, hget]; rfl))⟩
    · exact ⟨_, rfl⟩
    · exact ⟨_, if_pos (hslash (by rw [isDirectoryAt, hget]; rfl))⟩

/-- The place of a write depends on the directories only. -/
theorem target?_congr (hst : SameDirectories s t) (p : Path) : s.target? p = t.target? p := by
  have hsome : ∀ {s t : Store}, SameDirectories s t → ∀ loc, s.target? p = some loc →
      t.target? p = some loc := by
    intro s t hst loc h
    obtain ⟨dir, name, hp, ⟨hdot, hup, hdir, hslash⟩, rfl⟩ := target?_eq_some_iff.1 h
    obtain ⟨hrefused, hwalk, hparent, hname, hshort⟩ := parentOf_eq_ok_iff.1 hp
    have hparent' := hst.isDirectoryAt dir ▸ hparent
    refine target?_eq_some_iff.2 ⟨dir, name, parentOf_eq_ok_iff.2 ⟨hrefused, ?_, hparent', hname,
      hshort⟩, ⟨hdot, hup, hst.isDirectoryAt _ ▸ hdir, hslash⟩, rfl⟩
    rw [← hst.origin]
    apply walk_of_sameDirectories hst hwalk
    rw [isDirectoryAt_iff.1 hparent']
    exact Option.some_ne_none _
  apply Option.ext
  intro loc
  exact ⟨hsome hst loc, hsome hst.symm loc⟩

/-! ## A file written -/

section Written

variable {p : Path} {loc : Location}

theorem isDirectoryAt_of_target? (h : s.target? p = some loc) : s.isDirectoryAt loc = false := by
  obtain ⟨dir, name, -, ⟨-, -, hdir, -⟩, rfl⟩ := target?_eq_some_iff.1 h
  exact hdir

/-- Nothing is written over the working directory or a directory around it. -/
theorem not_prefix_of_target? (h : s.target? p = some loc) : ¬ loc <+: s.home := by
  intro hprefix
  have hdir := isDirectoryAt_of_target? h
  rw [isDirectoryAt, get?_of_prefix_home hprefix, decide_eq_true rfl] at hdir
  cases hdir

theorem get?_put_self_of_target? (h : s.target? p = some loc) (hhome : s.home = t.home)
    (entry : Entry) : (t.put loc entry).get? loc = some entry := by
  rw [get?_put, if_pos ⟨rfl, hhome ▸ not_prefix_of_target? h⟩]

theorem get?_put_of_ne {at' : Location} (h : at' ≠ loc) (s : Store) (entry : Entry) :
    (s.put loc entry).get? at' = s.get? at' := by
  rw [get?_put, if_neg fun hloc => h hloc.1]

theorem sameDirectories_put (h : s.target? p = some loc) (contents : Octets) (executable : Bool) :
    SameDirectories s (s.put loc (.file contents executable)) where
  home := (home_put s loc _).symm
  isDirectoryAt at' := by
    by_cases ha : at' = loc
    · rw [ha, isDirectoryAt_of_target? h, isDirectoryAt, get?_put_self_of_target? h rfl]
      rfl
    · rw [isDirectoryAt, isDirectoryAt, get?_put_of_ne ha]

theorem runs_put (h : s.target? p = some loc) (contents : Octets) (at' : Location) :
    (s.put loc (.file contents (s.runs loc))).runs at' = s.runs at' := by
  by_cases ha : at' = loc
  · rw [ha, runs, get?_put_self_of_target? h rfl]
  · rw [runs, get?_put_of_ne ha, runs]

end Written

/-! ## Making directories -/

/-- Stores with the same files at the same places. -/
def SameFiles (s t : Store) : Prop :=
  ∀ loc contents executable, s.get? loc = some (.file contents executable) ↔
    t.get? loc = some (.file contents executable)

theorem SameFiles.trans {u : Store} (hst : SameFiles s t) (htu : SameFiles t u) : SameFiles s u :=
  fun loc contents executable => (hst loc contents executable).trans (htu loc contents executable)

end Store

end Marginalia
