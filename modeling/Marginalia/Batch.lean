import Marginalia.Registry
import Marginalia.Section.Blocks
import Marginalia.Page
import Marginalia.Store

/-!
# Batches

A batch documents a list of sources into one directory. The list is put in order and freed of
repetitions before anything starts, since every page links to all of it. Only preparing the
directory can fail a batch as a whole; any other fault concerns one source, which then has no page.
-/

namespace Marginalia

/-- What stays the same for all sources of a batch. -/
structure Workshop where
  registry : Registry
  highlight : StoreHighlighter
  render : Renderer
  directory : Path

/-- A source, and its page or why it has none. -/
structure Outcome where
  source : Path
  result : Except Fault Path

namespace Outcome

/-- Whether the source has a page. -/
def succeeded (o : Outcome) : Bool :=
  match o.result with
  | .ok _ => true
  | .error _ => false

/-- What is told of a source without a page. -/
def journal (o : Outcome) : Journal :=
  match o.result with
  | .ok _ => []
  | .error fault =>
    [⟨.error, .batch,
      o.source.text ++ ": ".toList ++ fault.kind.toList ++ ": ".toList ++ fault.message⟩]

end Outcome

namespace Workshop

/-- The page of a source with the given text, what is told while it is made, and the files that
its making leaves. -/
def compose (w : Workshop) (listing : List Path) (source : Path) (lang : Language) (text : Text)
    (store : Store) : Journal × Except Fault Text × Store :=
  let sections := parseSections lang text
  let found : Record := ⟨.debug, .batch, source.text ++ ": ".toList ++ Text.ofNat sections.length ++
    " sections as ".toList ++ lang.name⟩
  let ((told, file), left) := highlightSectionsIn store w.highlight w.render lang sections
  let journal := parseJournal lang text ++ found :: told
  match file with
  | .error fault => (journal, .error fault, left)
  | .ok file =>
    let warnings := file.fallbacks.map fun f : Fallback =>
      (⟨.warn, .batch, source.text ++ ": ".toList ++ f.message⟩ : Record)
    let page : Page := ⟨Page.label source, file.sections, listing⟩
    (journal ++ warnings, .ok (page.render Page.fileName), left)

/-- Documents one source: its page is written into the directory. -/
def document (w : Workshop) (listing : List Path) (source : Path) (store : Store) :
    Journal × Except Fault Path × Store :=
  match w.registry.lookup source with
  | .error fault => ([], .error fault, store)
  | .ok lang =>
    match store.readText source with
    | .error cause => ([], .error (.system cause), store)
    | .ok text =>
      match w.compose listing source lang text store with
      | (journal, .error fault, left) => (journal, .error fault, left)
      | (journal, .ok page, left) =>
        let target := Page.destination w.directory source
        match left.write target (Utf8.encode page) with
        | .error cause => (journal, .error (.system cause), left)
        | .ok written =>
          let done : Record :=
            ⟨.info, .batch, "litdoc: ".toList ++ source.text ++ " -> ".toList ++ target.text⟩
          (journal ++ [done], .ok target, written)

/-- Documents the given sources one after another. -/
def documentAll (w : Workshop) (listing : List Path) :
    List Path → Store → Journal × List Outcome × Store
  | [], store => ([], [], store)
  | source :: rest, store =>
    let (told, result, after) := w.document listing source store
    let outcome : Outcome := ⟨source, result⟩
    let (later, outcomes, final) := w.documentAll listing rest after
    (told ++ outcome.journal ++ later, outcome :: outcomes, final)

/-- Makes the directory and writes the stylesheet into it. Directories that were made stay also if
this fails. -/
def prepare (w : Workshop) (store : Store) : Except SystemError Unit × Store :=
  match store.layDirectories w.directory with
  | (.error cause, left) => (.error cause, left)
  | (.ok _, made) =>
    match made.write (w.directory.join (.ofText Stylesheet.name)) (Utf8.encode Stylesheet.text) with
    | .error cause => (.error cause, made)
    | .ok ready => (.ok (), ready)

end Workshop

/-- Neighbours that are the same path are kept once, the first of them. -/
def dropRepeats : List Path → List Path
  | [] => []
  | p :: rest =>
    match dropRepeats rest with
    | [] => [p]
    | q :: more => if p.same q then p :: more else p :: q :: more

/-- Sources in order, each once. -/
def listing (sources : List Path) : List Path :=
  dropRepeats (sources.mergeSort fun p q => (p.compare q).isLE)

/-- What a batch leaves behind. -/
structure BatchRun where
  journal : Journal
  result : Except Fault (List Outcome)
  store : Store

/-- Documents all sources. -/
def Workshop.run (w : Workshop) (sources : List Path) (store : Store) : BatchRun :=
  match w.prepare store with
  | (.error cause, left) => ⟨[], .error (.system cause), left⟩
  | (.ok _, prepared) =>
    let frozen := listing sources
    let (journal, outcomes, final) := w.documentAll frozen frozen prepared
    ⟨journal, .ok outcomes, final⟩

end Marginalia
