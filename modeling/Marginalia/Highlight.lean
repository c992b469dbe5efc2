import Marginalia.Divider
import Marginalia.Journal
import Marginalia.Store

/-!
# Highlighted files

The code of a file goes through a highlighter in one piece, the prose of each section through a
renderer. A failing highlighter, or fragments that do not match the sections, fail the whole file;
a failing renderer concerns its section only, whose prose then appears as plain text.
-/

namespace Marginalia

/-- A highlighter tells its journal and gives the markup of a code in a language. -/
abbrev Highlighter := (language code : Text) → Journal × Except Fault Text

/-- A highlighter that works among files, which it may read and change. -/
abbrev StoreHighlighter :=
  (language code : Text) → Store → (Journal × Except Fault Text) × Store

/-- A highlighter that does not touch files. -/
def Highlighter.anywhere (h : Highlighter) : StoreHighlighter :=
  fun language code store => (h language code, store)

/-- A renderer gives the markup of prose, or says why it cannot. -/
abbrev Renderer := Text → Except Text Text

/-- A section with the markup of both its halves. -/
structure HighlightedSection where
  docs : Text
  code : Text
  docsMarkup : Text
  codeMarkup : Text
  deriving DecidableEq

/-- The prose of a section appears as plain text, and why. Sections are counted from zero. -/
structure Fallback where
  index : Nat
  reason : Text
  deriving DecidableEq

/-- The words for a fallback; sections are counted from one here. -/
def Fallback.message (f : Fallback) : Text :=
  "section ".toList ++ Text.ofNat (f.index + 1) ++
    ": markdown rendering failed, using escaped text: ".toList ++ f.reason

/-- A file whose sections have their markup, and the fallbacks among them. -/
structure HighlightedFile where
  sections : List HighlightedSection
  fallbacks : List Fallback

/-- Prose as plain text. -/
def plainProse (docs : Text) : Text :=
  "<pre>".toList ++ Markup.escape docs ++ "</pre>".toList

/-- The section `s` with the markup `fragment` of its code. -/
def Section.highlighted (render : Renderer) (s : Section) (fragment : Text) : HighlightedSection :=
  let docsMarkup :=
    match render s.docs with
    | .ok markup => markup
    | .error _ => plainProse s.docs
  ⟨s.docs, s.code, docsMarkup, fragment⟩

/-- The fallbacks of sections counted from `index`. -/
def fallbacksFrom (render : Renderer) (index : Nat) : List Section → List Fallback
  | [] => []
  | s :: rest =>
    match render s.docs with
    | .ok _ => fallbacksFrom render (index + 1) rest
    | .error reason => ⟨index, reason⟩ :: fallbacksFrom render (index + 1) rest

/-- A file's sections with the output of a highlighter for all their code. -/
def HighlightedFile.ofOutput (render : Renderer) (lang : Language) (sections : List Section)
    (output : Text) : Except Fault HighlightedFile := do
  let fragments ← lang.splitHighlighted output sections.length
  return ⟨sections.zipWith (Section.highlighted render) fragments,
    fallbacksFrom render 0 sections⟩

/-- The markup of a file's sections. -/
def highlightSections (highlight : Highlighter) (render : Renderer) (lang : Language)
    (sections : List Section) : Journal × Except Fault HighlightedFile :=
  let (journal, output) := highlight lang.name (lang.joinCode sections)
  (journal, output.bind (HighlightedFile.ofOutput render lang sections))

/-- The markup of a file's sections, by a highlighter that works among files. -/
def highlightSectionsIn (store : Store) (highlight : StoreHighlighter) (render : Renderer)
    (lang : Language) (sections : List Section) :
    (Journal × Except Fault HighlightedFile) × Store :=
  let (answer, left) := highlight lang.name (lang.joinCode sections) store
  (highlightSections (fun _ _ => answer) render lang sections, left)

end Marginalia
