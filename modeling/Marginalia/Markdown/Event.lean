import Marginalia.Markdown.Character

/-!
# Events

What is found in a document is told as a list of events: a part of it opens or closes at a place.
Parts are nested, so the events are balanced. Some stretches of text are read only later; they
carry a link that tells as what, and stretches that belong together form a chain.

1. Places and the text between two of them (`Slice`).
2. Parts, links and events.
3. Searching in a list of events (`skip`, `skipBack`, `seek`, `seekBack`).
4. Changes to a list of events that are gathered first and made together (`Edits`).
-/

namespace Marginalia.Markdown

/-! ## Places -/

/-- A place in a document. A tab is as wide as the columns up to the next multiple of four, and
`ahead` counts the columns of a tab at `index` that are passed already. -/
structure Place where
  line : Nat
  /-- The column in octets, from one. -/
  column : Nat
  index : Nat
  ahead : Nat
  deriving DecidableEq, Inhabited

/-- Columns between two stops of tabs. -/
def tabSize : Nat := 4

/-- Whether a place comes before an index and a number of columns passed there. -/
def Place.before (p : Place) (index ahead : Nat) : Bool :=
  p.index < index || (p.index == index && p.ahead < ahead)

/-- The text between two places. A tab that is cut leaves blanks before or after the text. -/
structure Slice where
  before : Nat
  text : Text
  after : Nat

namespace Slice

/-- The characters of `source` from one index up to another. -/
def between (source : Array Char) (start stop : Nat) : Text := (source.extract start stop).toList

/-- The text of `source` between two places. -/
def ofPlaces (source : Array Char) (start stop : Place) : Slice :=
  let (before, first) := if start.ahead > 0 then (tabSize - start.ahead, start.index + 1)
    else (0, start.index)
  let (after, last) := if stop.ahead > 0 then (stop.ahead - 1, stop.index + 1)
    else (0, stop.index)
  ⟨before, between source first last, after⟩

/-- The number of columns, where a whole tab counts as one. -/
def size (s : Slice) : Nat := s.before + Text.octets s.text + s.after

/-- The text with the blanks that a cut tab leaves. -/
def spelled (s : Slice) : Text :=
  List.replicate s.before ' ' ++ s.text ++ List.replicate s.after ' '

end Slice

/-! ## Parts and events -/

/-- The parts of a document. -/
inductive Part where
  | attentionSequence
  | autolink
  | autolinkEmail
  | autolinkProtocol
  | blankLineEnding
  | blockQuote
  | blockQuoteMarker
  | blockQuotePrefix
  | byteOrderMark
  | characterEscape
  | characterEscapeValue
  | characterReference
  | characterReferenceValue (base : Char)
  | codeFenced
  | codeFencedFence
  | codeFencedFenceInfo
  | codeFencedFenceMeta
  | codeFencedFenceSequence
  | codeFlowChunk
  | codeIndented
  | codeText
  | codeTextData
  | codeTextSequence
  | content
  | data
  | definition
  | definitionDestination
  | definitionDestinationString
  | definitionLabel
  | definitionLabelString
  | definitionMarker
  | definitionTitle
  | definitionTitleString
  | emphasis
  | emphasisText
  | footnoteCall
  | footnoteCallLabel
  | footnoteDefinition
  | footnoteDefinitionLabelString
  | footnoteDefinitionPrefix
  | hardBreakEscape
  | hardBreakTrailing
  | headingAtx
  | headingAtxSequence
  | headingAtxText
  | headingSetext
  | headingSetextText
  | headingSetextUnderline
  | headingSetextUnderlineSequence
  | image
  | label
  | labelEnd
  | labelImage
  | labelLink
  | labelText
  | lineEnding
  | link
  | listItem
  | listItemMarker
  | listItemPrefix
  | listItemValue
  | listOrdered
  | listUnordered
  | literalEmail
  | literalMailto
  | literalProtocol
  | literalWww
  | literalXmpp
  | markup
  | markupData
  | markupBlock
  | markupBlockData
  | paragraph
  | reference
  | referenceString
  | resource
  | resourceDestination
  | resourceDestinationString
  | resourceTitle
  | resourceTitleString
  | spaceOrTab
  | strikethrough
  | strikethroughText
  | strong
  | strongText
  | table
  | tableBody
  | tableCell
  | tableCellDivider
  | tableCellText
  | tableDelimiterCell
  | tableDelimiterCellValue
  | tableDelimiterFiller
  | tableDelimiterMarker
  | tableDelimiterRow
  | tableHead
  | tableRow
  | taskCheck
  | taskCheckValue (ticked : Bool)
  | thematicBreak
  deriving DecidableEq, Inhabited

/-- As what a stretch of text is read later. -/
inductive Reading where
  /-- Blocks. -/
  | flow
  /-- Definitions and a paragraph. -/
  | content
  /-- Escapes and character references only. -/
  | string
  /-- Running text. -/
  | text
  deriving DecidableEq

/-- A stretch that is read later. The first of a chain is its head; those after it that are no
heads belong to it. -/
structure Link where
  reading : Reading
  head : Bool

/-- A part opens or closes. -/
structure Event where
  opens : Bool
  part : Part
  place : Place
  link : Option Link
  deriving Inhabited

/-- The events of a document. -/
abbrev Events := Array Event

namespace Event

/-- A part opens. -/
def enter (part : Part) (place : Place) : Event := ⟨true, part, place, none⟩

/-- A part closes. -/
def exit (part : Part) (place : Place) : Event := ⟨false, part, place, none⟩

/-- The events of a part that holds no other. -/
def pair (part : Part) (start stop : Place) : Events := #[enter part start, exit part stop]

end Event

namespace Events

/-- The part of the event at an index. -/
def part (es : Events) (i : Nat) : Part := (es.getD i default).part

/-- The place of the event at an index. -/
def place (es : Events) (i : Nat) : Place := (es.getD i default).place

/-- Whether the event at an index opens a part. -/
def opens (es : Events) (i : Nat) : Bool := (es.getD i default).opens

/-- Gives another part to the event at an index. -/
def setPart (es : Events) (i : Nat) (part : Part) : Events :=
  es.modify i fun e => { e with part := part }

/-- Gives another place to the event at an index. -/
def setPlace (es : Events) (i : Nat) (place : Place) : Events :=
  es.modify i fun e => { e with place := place }

/-- Gives another link to the event at an index. -/
def setLink (es : Events) (i : Nat) (link : Option Link) : Events :=
  es.modify i fun e => { e with link := link }

/-- The events around a part with nothing in it, of which the second stands at an index. -/
def sliceTo (source : Array Char) (es : Events) (exit : Nat) : Slice :=
  Slice.ofPlaces source (es.place (exit - 1)) (es.place exit)

/-! ## Searching -/

/-- The index after the event that closes what the events before `i` left open: `depth` parts,
the first of which is `part`. -/
def past (es : Events) (part : Part) : Nat → Nat → Nat → Nat
  | 0, _, i => i
  | fuel + 1, depth, i =>
    if i < es.size then
      let depth := if es.opens i then depth + 1 else depth - 1
      if depth = 0 && es.part i = part then i + 1 else past es part fuel depth (i + 1)
    else i

/-- The index before the event that opens what the events after `i` close. -/
def pastBack (es : Events) (part : Part) : Nat → Nat → Nat → Nat
  | 0, _, i => i
  | fuel + 1, depth, i =>
    let depth := if es.opens i then depth - 1 else depth + 1
    if i = 0 || (depth = 0 && es.part i = part) then i - 1
    else pastBack es part fuel depth (i - 1)

/-- The first index from `i` on that is not in one of `parts`, all of which are passed whole. -/
def skipFrom (es : Events) (parts : List Part) : Nat → Nat → Nat
  | 0, i => i
  | fuel + 1, i =>
    if i < es.size && es.opens i && parts.contains (es.part i) then
      skipFrom es parts fuel (past es (es.part i) es.size 1 (i + 1))
    else i

@[inherit_doc skipFrom]
def skip (es : Events) (i : Nat) (parts : List Part) : Nat := skipFrom es parts es.size i

/-- The last index up to `i` that is not in one of `parts`, all of which are passed whole. -/
def skipBackFrom (es : Events) (parts : List Part) : Nat → Nat → Nat
  | 0, i => i
  | fuel + 1, i =>
    if 0 < i && i < es.size && !es.opens i && parts.contains (es.part i) then
      skipBackFrom es parts fuel (pastBack es (es.part i) es.size 1 (i - 1))
    else i

@[inherit_doc skipBackFrom]
def skipBack (es : Events) (i : Nat) (parts : List Part) : Nat :=
  skipBackFrom es parts es.size i

/-- The first index from `i` on at which a part opens or closes. -/
def seekFrom (es : Events) (part : Part) : Nat → Nat → Nat
  | 0, i => i
  | fuel + 1, i =>
    if i < es.size && es.part i ≠ part then seekFrom es part fuel (i + 1) else i

@[inherit_doc seekFrom]
def seek (es : Events) (i : Nat) (part : Part) : Nat := seekFrom es part (es.size + 1) i

/-- The last index up to `i` at which a part opens or closes. -/
def seekBack (es : Events) (part : Part) : Nat → Nat
  | 0 => 0
  | i + 1 => if es.part (i + 1) = part then i + 1 else seekBack es part i

/-- The last index before `i` at which a part opens. -/
def openBefore (es : Events) (part : Part) : Nat → Nat
  | 0 => 0
  | i + 1 => if es.opens i && es.part i = part then i else openBefore es part i

/-- The text from the last opening of the part that closes at an index up to there. -/
def textTo (source : Array Char) (es : Events) (i : Nat) : Text :=
  (Slice.ofPlaces source (es.place (es.openBefore (es.part i) i)) (es.place i)).text

/-- The part of the last event before which only parts among `parts` close. -/
def tail? (es : Events) (parts : List Part) : Option Part :=
  if es.isEmpty then none else some (es.part (es.skipBack (es.size - 1) parts))

end Events

/-! ## Changes -/

/-- A change at an index: how many events go, and which come in their place. -/
structure Edit where
  remove : Nat
  insert : Events
  deriving Inhabited

/-- Changes to a list of events, one slot for each index and one for its end. -/
structure Edits where
  slots : Array Edit

namespace Edits

/-- No changes to a list of events. -/
def none (es : Events) : Edits := ⟨Array.replicate (es.size + 1) ⟨0, #[]⟩⟩

/-- Removes events at an index and puts others there, after those that were put there before. -/
def add (m : Edits) (i remove : Nat) (insert : Events) : Edits :=
  ⟨m.slots.modify i fun e => ⟨e.remove + remove, e.insert ++ insert⟩⟩

/-- Puts events at an index before those that were put there before. -/
def addBefore (m : Edits) (i : Nat) (insert : Events) : Edits :=
  ⟨m.slots.modify i fun e => ⟨e.remove, insert ++ e.insert⟩⟩

/-- The events with the changes made: `gone` are still to be left out. -/
def applyFrom (m : Edits) (es : Events) : Nat → Nat → Nat → Events → Events
  | 0, _, _, out => out
  | fuel + 1, i, gone, out =>
    let e := m.slots.getD i default
    let out := out ++ e.insert
    let gone := gone + e.remove
    if i < es.size then
      if gone > 0 then applyFrom m es fuel (i + 1) (gone - 1) out
      else applyFrom m es fuel (i + 1) 0 (out.push (es.getD i default))
    else out

/-- The events with the changes made. -/
def apply (m : Edits) (es : Events) : Events := applyFrom m es (es.size + 1) 0 0 #[]

end Edits

end Marginalia.Markdown
