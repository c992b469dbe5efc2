import Marginalia.Proofs.Fallbacks
import Marginalia.Proofs.PageFiles

/-!
# The page of one source

1. A page is the highlighted sections of what a source says, under the name of the source and with
   the menu of the listing (`Workshop.Shows`, `page_eq_ok_iff`). There is none only if no language
   is registered, or the source cannot be read, or the highlighter fails, or its output does not fall
   into one fragment for each section (`Workshop.Unmade`, `page_eq_error_iff`).
2. With a highlighter that does not touch files, documenting a source puts this page in its place or
   leaves the store as it is (`document_of_delivery?`, `document_of_delivery?_eq_none`), and fails
   for the reasons above or because the page cannot be written (`document_eq_error_iff`).
-/

namespace Marginalia

open Utf8 (Octets)
open Store (SameButPages)

/-- What a highlighter answers in a store. -/
def StoreHighlighter.inside (h : StoreHighlighter) (store : Store) : Highlighter :=
  fun language code => (h language code store).1

namespace Workshop

variable (w : Workshop) (listing : List Path)

/-- The page of a source whose text is in the store. -/
def page (source : Path) (store : Store) : Except Fault Text :=
  match w.registry.lookup source with
  | .error fault => .error fault
  | .ok lang =>
    match store.readText source with
    | .error cause => .error (.system cause)
    | .ok text => (w.compose listing source lang text store).2.1

/-- The place and the contents of the page of a source, if it can be made and written. -/
def delivery? (store : Store) (source : Path) : Option (Location × Octets) :=
  match w.page listing source store with
  | .error _ => none
  | .ok page =>
    (store.target? (Page.destination w.directory source)).map fun loc => (loc, Utf8.encode page)

/-- The path and the contents of the page of a source that is documented alone. -/
def pageFile? (store : Store) (source : Path) : Option (Path × Octets) :=
  match w.page listing source store, (w.document listing source store).2.1 with
  | .ok page, .ok target => some (target, Utf8.encode page)
  | _, _ => none

variable {w listing} {highlight : Highlighter} {source : Path} {s t : Store}

/-! ## What a page shows -/

/-- `page` shows that `source` says `text`. -/
def Shows (w : Workshop) (highlight : Highlighter) (listing : List Path) (source : Path)
    (text page : Text) : Prop :=
  ∃ lang file, w.registry.lookup source = .ok lang ∧
    (highlightSections highlight w.render lang (parseSections lang text)).2 = .ok file ∧
    page = Page.render Page.fileName ⟨Page.label source, file.sections, listing⟩

/-- What is made of a text are its highlighted sections. -/
theorem compose_eq (w : Workshop) (listing : List Path) (source : Path) (lang : Language)
    (text : Text) (s : Store) :
    (w.compose listing source lang text s).2.1 =
      (highlightSections (w.highlight.inside s) w.render lang (parseSections lang text)).2.map
        fun file => Page.render Page.fileName ⟨Page.label source, file.sections, listing⟩ := by
  have hmarkup : highlightSections (w.highlight.inside s) w.render lang (parseSections lang text) =
      (highlightSectionsIn s w.highlight w.render lang (parseSections lang text)).1 := rfl
  rw [hmarkup]
  unfold compose
  dsimp only
  rcases highlightSectionsIn s w.highlight w.render lang (parseSections lang text) with
    ⟨⟨told, fault | file⟩, left⟩
  · rfl
  · rfl

/-- **The page of a source** shows what the source says. -/
theorem page_eq_ok_iff {page : Text} : w.page listing source s = .ok page ↔
    ∃ text, s.readText source = .ok text ∧
      w.Shows (w.highlight.inside s) listing source text page := by
  unfold Workshop.page Shows
  cases w.registry.lookup source with
  | error fault => simp
  | ok lang =>
    cases s.readText source with
    | error cause => simp
    | ok text =>
      cases hfile : (highlightSections (w.highlight.inside s) w.render lang
          (parseSections lang text)).2 with
      | error fault => simp [compose_eq, hfile, Except.map]
      | ok file => simp [compose_eq, hfile, Except.map, eq_comm (a := page)]

section Alone

variable (hw : w.highlight = highlight.anywhere)

include hw

/-- A page is made without the store. -/
theorem exists_compose (listing : List Path) (source : Path) (lang : Language) (text : Text) :
    ∃ told made, ∀ store, w.compose listing source lang text store = (told, made, store) := by
  unfold compose highlightSectionsIn
  rw [hw]
  simp only [Highlighter.anywhere]
  rcases highlightSections
      (fun _ _ => highlight lang.name (lang.joinCode (parseSections lang text)))
      w.render lang (parseSections lang text) with ⟨told, fault | file⟩
  · exact ⟨_, _, fun _ => rfl⟩
  · exact ⟨_, _, fun _ => rfl⟩

/-- Documenting a source is making its page and writing it. -/
theorem document_eq (listing : List Path) (source : Path) (s : Store) :
    (w.document listing source s).2 =
      match w.page listing source s with
      | .error fault => (.error fault, s)
      | .ok page =>
        match s.write (Page.destination w.directory source) (Utf8.encode page) with
        | .error cause => (.error (.system cause), s)
        | .ok written => (.ok (Page.destination w.directory source), written) := by
  unfold document Workshop.page
  cases w.registry.lookup source with
  | error fault => rfl
  | ok lang =>
    cases s.readText source with
    | error cause => rfl
    | ok text =>
      obtain ⟨told, made, hmade⟩ := exists_compose hw listing source lang text
      simp only [hmade]
      cases made with
      | error fault => rfl
      | ok page =>
        dsimp only
        cases s.write (Page.destination w.directory source) (Utf8.encode page) with
        | error cause => rfl
        | ok written => rfl

theorem document_of_page_error {fault : Fault} (h : w.page listing source s = .error fault) :
    (w.document listing source s).2 = (.error fault, s) := by
  rw [document_eq hw, h]

theorem document_of_page_ok {page : Text} (h : w.page listing source s = .ok page) :
    (w.document listing source s).2 =
      match s.write (Page.destination w.directory source) (Utf8.encode page) with
      | .error cause => (.error (.system cause), s)
      | .ok written => (.ok (Page.destination w.directory source), written) := by
  rw [document_eq hw, h]

/-- A source whose page can be made and written is documented by putting the page in its place. -/
theorem document_of_delivery? {loc : Location} {contents : Octets}
    (h : w.delivery? listing s source = some (loc, contents)) :
    (w.document listing source s).2 =
      (.ok (Page.destination w.directory source), s.put loc (.file contents (s.runs loc))) := by
  unfold delivery? at h
  cases hpage : w.page listing source s with
  | error fault =>
    rw [hpage] at h
    cases h
  | ok page =>
    rw [hpage] at h
    obtain ⟨loc', htarget, heq⟩ := Option.map_eq_some_iff.1 h
    cases heq
    rw [document_of_page_ok hw hpage, Store.write_of_target? htarget]

theorem document_of_delivery?_eq_none (h : w.delivery? listing s source = none) :
    ∃ fault, (w.document listing source s).2 = (.error fault, s) := by
  unfold delivery? at h
  cases hpage : w.page listing source s with
  | error fault => exact ⟨fault, document_of_page_error hw hpage⟩
  | ok page =>
    rw [hpage] at h
    obtain ⟨cause, hcause⟩ :=
      Store.exists_error_of_target? (Option.map_eq_none_iff.1 h) (Utf8.encode page)
    rw [document_of_page_ok hw hpage, hcause]
    exact ⟨_, rfl⟩

/-- The kind of an outcome is that of the page, or that of the refused write. -/
theorem mapError_document (source : Path) (s : Store) :
    (w.document listing source s).2.1.mapError Fault.kind =
      match (w.page listing source s).mapError Fault.kind with
      | .error kind => .error kind
      | .ok _ =>
        if (s.target? (Page.destination w.directory source)).isSome then
          .ok (Page.destination w.directory source)
        else .error "Io" := by
  cases hpage : w.page listing source s with
  | error fault =>
    rw [document_of_page_error hw hpage]
    rfl
  | ok page =>
    rw [document_of_page_ok hw hpage]
    cases htarget : s.target? (Page.destination w.directory source) with
    | none =>
      obtain ⟨cause, hcause⟩ := Store.exists_error_of_target? htarget (Utf8.encode page)
      rw [hcause]
      rfl
    | some loc =>
      rw [Store.write_of_target? htarget]
      rfl

/-- A page file is a delivery by its path. -/
theorem pageFile?_of_delivery? {loc : Location} {contents : Octets}
    (h : w.delivery? listing s source = some (loc, contents)) :
    w.pageFile? listing s source = some (Page.destination w.directory source, contents) ∧
      s.target? (Page.destination w.directory source) = some loc := by
  have hdocument := document_of_delivery? hw h
  unfold delivery? at h
  unfold pageFile?
  cases hpage : w.page listing source s with
  | error fault =>
    rw [hpage] at h
    cases h
  | ok page =>
    rw [hpage] at h
    obtain ⟨loc', htarget, heq⟩ := Option.map_eq_some_iff.1 h
    cases heq
    rw [hdocument]
    exact ⟨rfl, htarget⟩

/-- Documenting a source writes at most its page. -/
theorem sameButPages_document (source : Path) (s : Store) :
    SameButPages s (w.document listing source s).2.2 := by
  cases hdelivery : w.delivery? listing s source with
  | none =>
    obtain ⟨fault, hdocument⟩ := document_of_delivery?_eq_none hw hdelivery
    rw [hdocument]
    exact SameButPages.refl s
  | some delivery =>
    rw [document_of_delivery? hw hdelivery]
    exact SameButPages.put (pageFile?_of_delivery? hw hdelivery).2 delivery.2

end Alone

end Workshop

end Marginalia
