import Marginalia.Batch
import Marginalia.Proofs.Decoding
import Marginalia.Proofs.PathSteps
import Marginalia.Proofs.StoreWrites

/-!
# Pages are no sources

A page lies in the output directory under the stem of its source and the ending `html`
(`getLast?_of_target?`). Where no language is registered for that ending, no source is read from a
file with the name of a page (`fileName?_ne_of_lookup`). So writing pages changes neither what
sources say (`Store.SameButPages.readText_iff`) nor where pages go (`Store.target?_congr`).
-/

namespace Marginalia

open Utf8 (Octets)

namespace Path

theorem slash_mem_encode_iff {t : Text} : slash ∈ Utf8.encode t ↔ '/' ∈ t :=
  @Utf8.mem_encode_iff '/' (by decide) t

theorem dot_mem_encode_iff {t : Text} : dot ∈ Utf8.encode t ↔ '.' ∈ t :=
  @Utf8.mem_encode_iff '.' (by decide) t

theorem getLast?_components {p : Path} {name : Octets} (h : p.fileName? = some name) :
    p.components.getLast? = some (.name name) := by
  unfold fileName? at h
  split at h
  · next n hlast =>
    cases h
    exact hlast
  · cases h

theorem mem_of_mem_cutName {name : Octets} {octet : UInt8} (h : octet ∈ (cutName name).1) :
    octet ∈ name := by
  unfold cutName at h
  split at h
  · exact h
  · exact h
  · next _ stem hstem =>
    have hsuffix := List.dropWhile_suffix (l := name.reverse) (· ≠ dot)
    rw [hstem] at hsuffix
    exact List.mem_reverse.1
      (hsuffix.subset (List.mem_cons_of_mem _ (List.mem_reverse.1 h)))

/-- A stem has no slash. -/
theorem not_mem_stem? (p : Path) : slash ∉ p.stem?.getD [] := by
  unfold stem?
  cases hname : p.fileName? with
  | none => exact List.not_mem_nil
  | some name =>
    intro hmem
    refine not_mem_of_name_mem_components (p := p) ?_ (mem_of_mem_cutName hmem)
    exact List.mem_of_getLast? (getLast?_components hname)

/-- A name that ends in `.html` has that extension, or none if nothing stands before the dot. -/
theorem cutName_html (stem : Octets) :
    (cutName (stem ++ Utf8.encode ".html".toList)).2 = none ∨
      (cutName (stem ++ Utf8.encode ".html".toList)).2 = some (Utf8.encode "html".toList) := by
  have hreverse : (stem ++ Utf8.encode ".html".toList).reverse =
      108 :: 109 :: 116 :: 104 :: dot :: stem.reverse := by
    rw [List.reverse_append]
    rfl
  unfold cutName
  rw [hreverse]
  cases stem.reverse with
  | nil => exact Or.inl rfl
  | cons c rest => exact Or.inr rfl

end Path

/-! ## Names -/

namespace Registry

variable {r : Registry} {source : Path} {lang : Language}

theorem lookup_eq_ok_iff : r.lookup source = .ok lang ↔
    ∃ ending, source.extension? = some (Utf8.encode ending) ∧ r.get? ending = some lang := by
  have hfound : r.lookup source = .ok lang ↔
      (source.extension?.bind Utf8.decode?).bind r.get? = some lang := by
    unfold lookup
    cases (source.extension?.bind Utf8.decode?).bind r.get? with
    | none => simp
    | some found => simp
  rw [hfound]
  simp only [Option.bind_eq_some_iff, Utf8.decode?_eq_some_iff]
  constructor
  · rintro ⟨ending, ⟨octets, hext, rfl⟩, hget⟩
    exact ⟨ending, hext, hget⟩
  · rintro ⟨ending, hext, hget⟩
    exact ⟨ending, ⟨_, hext, rfl⟩, hget⟩

theorem exists_fileName?_of_lookup (h : r.lookup source = .ok lang) :
    ∃ name, source.fileName? = some name := by
  obtain ⟨ending, hext, -⟩ := lookup_eq_ok_iff.1 h
  obtain ⟨name, hname, -⟩ := Option.bind_eq_some_iff.1 hext
  exact ⟨name, hname⟩

end Registry

/-- The octets of a page's name are those of what is shown of the stem, and the ending. -/
theorem encode_fileName (source : Path) : Utf8.encode (Page.fileName source) =
    Utf8.encode (Utf8.decodeLossy (source.stem?.getD [])) ++ Utf8.encode ".html".toList :=
  Utf8.encode_append _ _

/-- A source with a language does not have the name of a page. -/
theorem fileName?_ne_of_lookup {r : Registry} {source : Path} {lang : Language}
    (hhtml : r.get? "html".toList = none) (h : r.lookup source = .ok lang) (other : Path) :
    source.fileName? ≠ some (Utf8.encode (Page.fileName other)) := by
  intro hname
  obtain ⟨ending, hext, hget⟩ := Registry.lookup_eq_ok_iff.1 h
  rw [Path.extension?, hname, Option.bind_some, encode_fileName] at hext
  rcases Path.cutName_html (Utf8.encode (Utf8.decodeLossy (other.stem?.getD []))) with hcut | hcut
  · rw [hcut] at hext
    cases hext
  · rw [hcut] at hext
    rw [← Utf8.encode_injective (Option.some.inj hext), hhtml] at hget
    cases hget

theorem not_mem_fileName (source : Path) : '/' ∉ Page.fileName source := by
  rw [Page.fileName, List.mem_append, not_or]
  refine ⟨fun h => ?_, by decide⟩
  exact source.not_mem_stem? (@Utf8.mem_of_mem_decodeLossy '/' (by decide) _ h)

theorem slash_not_mem_encode_fileName (source : Path) :
    Path.slash ∉ Utf8.encode (Page.fileName source) := by
  rw [Path.slash_mem_encode_iff]
  exact not_mem_fileName source

theorem encode_fileName_ne_nil (source : Path) : Utf8.encode (Page.fileName source) ≠ [] := by
  rw [encode_fileName]
  exact List.append_ne_nil_of_right_ne_nil _ (by decide)

/-! ## Steps of a path -/

theorem filter_singleton {piece : Octets} (h : piece ≠ []) :
    [piece].filter (· ≠ []) = [piece] :=
  List.filter_cons_of_pos (decide_eq_true h)

/-- The pieces of a path whose last step is a name end in that name, or in a dot that stays
there. -/
theorem getLast?_pieces {lead : Option Path.Component} {piece name : Octets}
    {pieces : List Octets}
    (hlead : lead = some (.name name) → Path.inner? piece = some (.name name))
    (h : (lead.toList ++ pieces.filterMap Path.inner?).getLast? = some (.name name)) :
    (name ≠ Path.hereName ∧ name ≠ Path.upName) ∧
      (((piece :: pieces).filter (· ≠ [])).getLast? = some name ∨
        ((piece :: pieces).filter (· ≠ [])).getLast? = some Path.hereName) := by
  induction pieces using List.reverseRecOn with
  | nil =>
    have hlead' : lead = some (.name name) := by
      rw [List.filterMap_nil, List.append_nil] at h
      cases lead with
      | none => cases h
      | some component => exact h
    obtain ⟨rfl, hne, hdots⟩ := Path.inner?_eq_name_iff.1 (hlead hlead')
    refine ⟨hdots, Or.inl ?_⟩
    rw [filter_singleton hne]
    rfl
  | append_singleton pieces last ih =>
    rw [List.filterMap_append, ← List.append_assoc] at h
    rw [← List.cons_append, List.filter_append]
    cases hlast : Path.inner? last with
    | none =>
      rw [List.filterMap_cons_none hlast, List.filterMap_nil, List.append_nil] at h
      rcases Path.inner?_eq_none_iff.1 hlast with rfl | rfl
      · have hnil : ([[]] : List Octets).filter (· ≠ []) = [] := rfl
        rw [hnil, List.append_nil]
        exact ih h
      · refine ⟨(ih h).1, Or.inr ?_⟩
        have hdot : Path.hereName ≠ [] := List.cons_ne_nil _ _
        rw [filter_singleton hdot, List.getLast?_concat]
    | some component =>
      rw [List.filterMap_cons_some hlast, List.filterMap_nil, List.getLast?_concat] at h
      cases h
      obtain ⟨rfl, hne, hdots⟩ := Path.inner?_eq_name_iff.1 hlast
      refine ⟨hdots, Or.inl ?_⟩
      rw [filter_singleton hne, List.getLast?_concat]

/-- The steps of a path with a file name end in that name, or in a dot that stays there. -/
theorem getLast?_steps {p : Path} {name : Octets} (hname : p.fileName? = some name) :
    (name ≠ Path.hereName ∧ name ≠ Path.upName) ∧
      ((Store.steps p).getLast? = some name ∨
        (Store.steps p).getLast? = some Path.hereName) := by
  obtain ⟨piece, pieces, hpieces, -⟩ := p.exists_pieces
  have hlast := Path.getLast?_components hname
  rw [Path.components_eq hpieces] at hlast
  rw [Store.steps, hpieces]
  exact getLast?_pieces Path.inner?_of_lead? hlast

/-- A file is read from a place with its name. -/
theorem getLast?_of_walk_file {s : Store} {p : Path} {name : Octets} {here loc : Location}
    {contents : Octets} {executable : Bool} (hname : p.fileName? = some name)
    (hwalk : s.walk here (Store.steps p) = .ok loc)
    (hfile : s.get? loc = some (.file contents executable)) : loc.getLast? = some name := by
  obtain ⟨⟨hdot, hup⟩, hlast | hlast⟩ := getLast?_steps hname
  · exact Store.getLast?_of_walk hwalk hlast hdot hup
  · -- a path that stays at a dot leads to a directory
    have hdir := Store.isDirectoryAt_iff.1 (Store.isDirectoryAt_of_walk hwalk hlast)
    rw [hfile] at hdir
    cases hdir

/-! ## The place of a page -/

theorem steps_join (directory : Path) {name : Octets} (hne : name ≠ [])
    (hslash : Path.slash ∉ name) :
    Store.steps (directory.join ⟨name⟩) = Store.steps directory ++ [name] := by
  have hrelative : Path.isAbsolute ⟨name⟩ = false :=
    decide_eq_false fun h => hslash (List.mem_of_head? h)
  obtain ⟨t⟩ := directory
  rw [Path.join, hrelative, if_neg Bool.false_ne_true]
  by_cases hnil : t = []
  · subst hnil
    rw [if_pos (Or.inl rfl), List.nil_append, Store.steps, List.splitOn_eq_singleton hslash,
      filter_singleton hne]
    rfl
  by_cases hlast : t.getLast? = some Path.slash
  · obtain ⟨front, rfl⟩ := List.getLast?_eq_some_iff.1 hlast
    rw [if_pos (Or.inr hlast), List.append_assoc, List.singleton_append, Store.steps, Store.steps,
      List.splitOn_append_cons_self, List.splitOn_append_cons_self,
      List.splitOn_eq_singleton hslash, List.filter_append, List.filter_append,
      filter_singleton hne, List.splitOn_nil]
    simp
  · rw [if_neg (not_or.2 ⟨hnil, hlast⟩), Store.steps, List.splitOn_append_cons_self,
      List.splitOn_eq_singleton hslash, List.filter_append, filter_singleton hne]
    rfl

/-- A page is written to a place with its name. -/
theorem getLast?_of_target? {s : Store} {directory source : Path} {loc : Location}
    (h : s.target? (Page.destination directory source) = some loc) :
    loc.getLast? = some (Utf8.encode (Page.fileName source)) := by
  obtain ⟨dir, name, hparent, -, rfl⟩ := Store.target?_eq_some_iff.1 h
  obtain ⟨-, -, -, hname, -⟩ := Store.parentOf_eq_ok_iff.1 hparent
  rw [Page.destination, Path.ofText, steps_join directory (encode_fileName_ne_nil source)
    (slash_not_mem_encode_fileName source), List.getLast?_concat] at hname
  rw [hname, List.getLast?_concat]
  rfl

/-- Pages that go to one place are one page. -/
theorem destination_inj_of_target? {s : Store} {directory source other : Path} {loc : Location}
    (h : s.target? (Page.destination directory source) = some loc)
    (hother : s.target? (Page.destination directory other) = some loc) :
    Page.destination directory source = Page.destination directory other := by
  have hname := (getLast?_of_target? h).symm.trans (getLast?_of_target? hother)
  rw [Page.destination, Page.destination, Utf8.encode_injective (Option.some.inj hname)]

/-! ## Stores that differ in pages -/

/-- Stores with the same directories, and the same files but for those with the name of a page. -/
structure Store.SameButPages (s t : Store) : Prop where
  directories : Store.SameDirectories s t
  runs : ∀ loc, s.runs loc = t.runs loc
  get? : ∀ loc, (∀ source, loc.getLast? ≠ some (Utf8.encode (Page.fileName source))) →
    s.get? loc = t.get? loc

namespace Store.SameButPages

variable {s t u : Store}

theorem refl (s : Store) : s.SameButPages s :=
  ⟨⟨rfl, fun _ => rfl⟩, fun _ => rfl, fun _ _ => rfl⟩

theorem symm (h : s.SameButPages t) : t.SameButPages s :=
  ⟨h.directories.symm, fun loc => (h.runs loc).symm,
    fun loc hloc => (h.get? loc hloc).symm⟩

theorem trans (hst : s.SameButPages t) (htu : t.SameButPages u) : s.SameButPages u :=
  ⟨hst.directories.trans htu.directories,
    fun loc => (hst.runs loc).trans (htu.runs loc),
    fun loc hloc => (hst.get? loc hloc).trans (htu.get? loc hloc)⟩

/-- A page that is written is a page. -/
theorem put {directory source : Path} {loc : Location}
    (h : s.target? (Page.destination directory source) = some loc) (contents : Octets) :
    s.SameButPages (s.put loc (.file contents (s.runs loc))) where
  directories := sameDirectories_put h contents (s.runs loc)
  runs at' := (runs_put h contents at').symm
  get? at' hat := by
    rw [get?_put_of_ne]
    rintro rfl
    exact hat source (getLast?_of_target? h)

/-- A source with a language says the same in both stores. -/
theorem readText_of_ok (h : s.SameButPages t) {r : Registry} (hhtml : r.get? "html".toList = none)
    {source : Path} {lang : Language} (hlang : r.lookup source = .ok lang) {text : Text}
    (hread : s.readText source = .ok text) : t.readText source = .ok text := by
  obtain ⟨contents, hcontents, htext⟩ := readText_eq_ok_iff.1 hread
  refine readText_eq_ok_iff.2 ⟨contents, read_of_sameDirectories h.directories hcontents ?_, htext⟩
  intro loc executable hwalk hfile
  obtain ⟨name, hname⟩ := Registry.exists_fileName?_of_lookup hlang
  have hlast := getLast?_of_walk_file hname hwalk hfile
  refine (h.get? loc fun other hother => ?_).symm
  exact fileName?_ne_of_lookup hhtml hlang other (hname.trans (hlast.symm.trans hother))

theorem readText_iff (h : s.SameButPages t) {r : Registry}
    (hhtml : r.get? "html".toList = none) {source : Path} {lang : Language}
    (hlang : r.lookup source = .ok lang) {text : Text} :
    s.readText source = .ok text ↔ t.readText source = .ok text :=
  ⟨h.readText_of_ok hhtml hlang, h.symm.readText_of_ok hhtml hlang⟩

end Store.SameButPages

end Marginalia
