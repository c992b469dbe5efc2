import Marginalia.Markdown.Document

/-!
# Definitions and paragraphs

Lines of content that follow one another are read together: as many definitions as there are at
their start, and the rest as a paragraph. Which lines belong together is found first
(`joinContent`), and then each group of them is read (`contents`).
-/

namespace Marginalia.Markdown

namespace Scan

/-! ## Definitions -/

/-- Passes the title of a definition, after which nothing may follow on the line. -/
def definitionTitle : Scan Unit := do
  gapOverLine none false
  title .definitionTitle .definitionTitleString
  next
  optionalGap
  require (← atEnd)

/-- Passes a definition. -/
def definition : Scan Unit := do
  let follows ← asks fun s =>
    decide (s.events.tail? [.lineEnding, .spaceOrTab] = some .definition)
  require (!(← asks State.interrupt) || follows)
  enter .definition
  optionalGap
  label .definitionLabel .definitionLabelString
  next
  let key ← asks fun s => labelKey (s.events.textTo s.source
    (s.events.seekBack .definitionLabelString (s.events.size - 1)))
  require ((← peek) = some ':')
  step
  let _ ← attempt (gapOverLine none false)
  destination .definitionDestination .definitionDestinationString none
  next
  let _ ← attempt definitionTitle
  optionalGap
  require (← atEnd)
  exit .definition
  modify fun s => { s with defined := s.defined ++ [key], interrupt := true }

/-! ## Paragraphs -/

/-- Passes a paragraph, of which each line is read later. -/
def paragraph : Scan Unit := do
  enter .paragraph
  enterRead .data .text true
  walk (fun () => do
    match ← peek with
    | none =>
      exit .data
      exit .paragraph
      return none
    | some '\n' =>
      consume
      exit .data
      next
      enterRead .data .text false
      return some ()
    | some _ =>
      step
      return some ()) ()

/-- Passes definitions and a paragraph. -/
def content : Scan Unit :=
  walk (fun () => do
    if ← attempt definition then
      if (← peek) = some '\n' then
        lineEnd
        return some ()
      else return none
    else
      paragraph
      return none) ()

end Scan

/-! ## Reading stretches -/

/-- Whether the text that starts at an index is that of the first paragraph of an item. -/
def startsItem (es : Events) (i : Nat) : Bool :=
  i > 2 && es.opens (i - 1) && es.part (i - 1) = .paragraph &&
    let before := es.skipBack (i - 2) [.blankLineEnding, .definition, .lineEnding, .spaceOrTab]
    !es.opens before && es.part before = .listItemPrefix

/-- The scanner after it was given the stretches of a chain. -/
def feedChain (es : Events) : Bool → List Nat → Scanner → Scanner
  | _, [], m => m.finish
  | first, i :: more, m =>
    let start := es.place i
    let stop := es.place (i + 1)
    let m := if first then m else { m with state := m.state.startLineAt start }
    feedChain es false more
      (m.feed (start.index, start.ahead) (stop.index, stop.ahead))

/-- Reads the chain that starts at an index. -/
def readChain (x : Scan Unit) (source : Array Char) (glossary : Glossary) (es : Events)
    (stretches : List Nat) : State :=
  let i := stretches.headD 0
  let s := { State.start source glossary (es.place i) with mayTick := startsItem es i }
  (feedChain es true stretches (.start x s)).state

/-! ## Lines that belong together -/

/-- The index after what a line in containers starts with. -/
def afterFront (es : Events) : Nat → Nat → Nat
  | 0, i => i
  | fuel + 1, i =>
    let p := es.part i
    if i < es.size && (p = .spaceOrTab || p = .blockQuotePrefix || p = .blockQuoteMarker) then
      afterFront es fuel (i + 1)
    else i

/-- Joins the lines after the one that ends at an event, and hands over the end of the last. -/
def joinLines : Nat → Nat → Events → Edits → Nat × Events × Edits
  | 0, exit, es, m => (exit, es, m)
  | fuel + 1, exit, es, m =>
    if exit + 1 < es.size && es.part (exit + 1) = .lineEnding then
      let next := afterFront es es.size (exit + 3)
      if next < es.size && es.part next = .content then
        let es := es.setPlace exit (es.place (exit + 2)) |>.setLink next (some ⟨.content, false⟩)
        joinLines fuel (next + 1) es (m.add (exit + 1) 2 #[])
      else (exit, es, m)
    else (exit, es, m)

/-- Joins the lines of content from an index on. -/
def joinFrom : Nat → Nat → Events → Edits → Events
  | 0, _, es, m => m.apply es
  | fuel + 1, i, es, m =>
    if i < es.size then
      if es.opens i && es.part i = .content then
        let (exit, es, m) := joinLines es.size (i + 1) es m
        joinFrom fuel (exit + 1) es m
      else joinFrom fuel (i + 1) es m
    else m.apply es

/-- The events with the lines of content joined into chains. -/
def joinContent (es : Events) : Events := joinFrom (es.size + 1) 0 es (.none es)

/-- What reading some chains gives: the events, the changes to them, and what is defined. -/
structure ReadState where
  events : Events
  edits : Edits
  defined : List Text
  /-- Whether there was anything to read. -/
  found : Bool

/-- Reads the chain that starts at an index, if one that is wanted does. -/
def readAt (source : Array Char) (glossary : Glossary) (programs : Reading → Option (Scan Unit))
    (r : ReadState) (i : Nat) : ReadState :=
  match (r.events.getD i default).link with
  | none => r
  | some l =>
    match if l.head then programs l.reading else none with
    | none => r
    | some x =>
      let stretches := chain r.events l.reading i
      let s := readChain x source glossary r.events stretches
      let (es, m) := fill r.events r.edits stretches s.events
      ⟨es, m, r.defined ++ s.defined, true⟩

/-- Reads all chains that are wanted. -/
def readAll (source : Array Char) (glossary : Glossary) (programs : Reading → Option (Scan Unit))
    (es : Events) : ReadState :=
  let r := (List.range es.size).foldl (readAt source glossary programs) ⟨es, .none es, [], false⟩
  { r with events := r.edits.apply r.events }

/-- The events with the definitions and paragraphs, and the labels of the definitions. -/
def contents (source : Array Char) (es : Events) : Events × List Text :=
  let r := readAll source ⟨[], []⟩ (fun
    | .content => some Scan.content
    | _ => none) (joinContent es)
  (r.events, r.defined)

/-- The events of the blocks of a document, and what is defined in it. -/
def blocks (source : Array Char) : Events × Glossary :=
  let (es, footnotes) := outline source
  let (es, definitions) := contents source es
  (tables (underline (headingTexts es)), ⟨definitions, footnotes⟩)

end Marginalia.Markdown
