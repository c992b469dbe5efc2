import Marginalia.Markdown.Inline

/-!
# The markup of a document

The events of a document are written as markup one after another. A block starts on a line of its
own; the ends of lines between blocks are written as they stand in the document, except after a
paragraph that is set without tags, where the next one is left out. What is needed later, such as
the text of a label before the address of its link is known, is set aside first (`Sheet.aside`).

1. Sheets, and writing on them.
2. Whether a list is set loosely.
3. What is written for each part.
4. Footnotes, and the whole document.
-/

namespace Marginalia.Markdown

/-! ## Sheets -/

/-- A definition. -/
structure Target where
  key : Text
  address : Option Text
  title : Option Text

/-- A link, an image, a call of a footnote or a definition while it is read. -/
structure Media where
  image : Bool
  /-- What is shown of it. -/
  shown : Text
  /-- The label in the source. -/
  labelSource : Option Text
  /-- The label of the definition it names in the source. -/
  referenceSource : Option Text
  address : Option Text
  title : Option Text

/-- Nothing known of a link or an image. -/
def Media.unknown (image : Bool) : Media := ⟨image, [], none, none, none, none⟩

/-- The markup written so far. -/
structure Sheet where
  /-- Whether markup in the document is passed on. -/
  raw : Bool
  /-- What ends the lines that the document does not end itself. -/
  eol : Text
  /-- The characters, the last first. -/
  out : Text
  /-- What was written before something was set aside. -/
  aside : List Text
  /-- Whether the next end of a line is left out. -/
  skipEol : Bool
  /-- Whether text is encoded. -/
  encodes : Bool
  /-- Whether each list, quote or footnote around the place sets paragraphs without tags. -/
  tight : List Bool
  /-- Whether the first item of a list is still to come. -/
  firstItem : Bool
  /-- Whether some code was written, and the number of its fences, if it has any. -/
  codeSeen : Bool
  fences : Option Nat
  inCodeText : Bool
  inAlt : Bool
  media : List Media
  targets : List Target
  heading : Option Nat
  underlined : Text
  columns : Option (List Align)
  column : Nat
  inHead : Bool
  /-- The labels of the footnotes around the place. -/
  notesOpen : List Text
  /-- The footnotes called so far, each with the number of its calls. -/
  calls : List (Text × Nat)
  /-- The footnotes written so far. -/
  notes : List (Text × Text)

namespace Sheet

/-- Nothing written yet. -/
def empty (raw : Bool) (eol : Text) : Sheet :=
  { raw := raw, eol := eol, out := [], aside := [], skipEol := false, encodes := true, tight := [],
    firstItem := false, codeSeen := false, fences := none, inCodeText := false, inAlt := false,
    media := [], targets := [], heading := none, underlined := [], columns := none, column := 0,
    inHead := false, notesOpen := [], calls := [], notes := [] }

/-- Writes a text. -/
def put (t : Text) (s : Sheet) : Sheet := { s with out := t.reverse ++ s.out }

/-- Writes a text that is given as a literal. -/
def tag (t : String) (s : Sheet) : Sheet := s.put t.toList

/-- Ends the line. -/
def newLine (s : Sheet) : Sheet := s.put s.eol

/-- Ends the line unless nothing is on it. -/
def freshLine (s : Sheet) : Sheet :=
  match s.out with
  | [] => s
  | c :: _ => if isEol c then s else s.newLine

/-- Does something only if a condition holds. -/
def when (b : Bool) (f : Sheet → Sheet) (s : Sheet) : Sheet := if b then f s else s

/-- Wants the next end of a line, or does not. -/
def skipping (b : Bool) (s : Sheet) : Sheet := { s with skipEol := b }

/-- Writes a text of the document. -/
def putText (t : Text) (s : Sheet) : Sheet := s.put (if s.encodes then encode t else t)

/-- Sets what follows aside. -/
def setAside (s : Sheet) : Sheet := { s with out := [], aside := s.out :: s.aside }

/-- Takes back what was set aside. -/
def takeBack (s : Sheet) : Text × Sheet :=
  (s.out.reverse, { s with out := s.aside.headD [], aside := s.aside.tail })

/-- Forgets what was set aside. -/
def forget (s : Sheet) : Sheet := s.takeBack.2

/-- Writes a tag, except in the text of an image. -/
def mark (t : String) (s : Sheet) : Sheet := s.when (!s.inAlt) (·.tag t)

/-- Changes the innermost link or image. -/
def modifyMedia (f : Media → Media) (s : Sheet) : Sheet :=
  { s with media := match s.media with
      | [] => []
      | m :: ms => f m :: ms }

/-- Opens a link or an image. -/
def openMedia (image : Bool) (s : Sheet) : Sheet :=
  { s with media := .unknown image :: s.media }

/-- Whether paragraphs are set without tags. -/
def isTight (s : Sheet) : Bool := s.tight.headD false

end Sheet

/-! ## How lists are set -/

/-- Whether a blank line stands directly in what opens at an index, from event `i` on at a depth;
`spared` tells at which ends of blank lines it does not count. -/
def blankWithin (es : Events) (items : Bool) (spared : Nat → Bool) (part : Part)
    (looseItem : Nat → Bool) : Nat → Nat → Nat → Bool
  | 0, _, _ => false
  | fuel + 1, i, depth =>
    if i < es.size then
      if es.opens i then
        (items && depth = 1 && es.part i = .listItem && looseItem i) ||
          blankWithin es items spared part looseItem fuel (i + 1) (depth + 1)
      else if depth = 2 && es.part i = .blankLineEnding && !spared i then true
      else if depth = 1 && es.part i = part then false
      else blankWithin es items spared part looseItem fuel (i + 1) (depth - 1)
    else false

/-- Whether the blank line that ends at an index follows the sign of an item. -/
def afterSign (es : Events) (i : Nat) : Bool :=
  es.part (es.skipBack (i - 2) [.spaceOrTab]) = .listItemPrefix

/-- Whether the blank line that ends at an index follows an empty item, or the sign of a quote that
ends an item. -/
def afterEmptyItem (es : Events) (i : Nat) : Bool :=
  let item := es.skipBack (i - 2) [.spaceOrTab]
  let last := es.skipBack (item - 1) [.spaceOrTab]
  es.part item = .listItem && (es.part last = .listItemPrefix ||
    (es.part last = .blockQuote && es.part (last - 1) = .blockQuotePrefix))

/-- Whether a blank line stands between the blocks of the item that opens at an index. -/
def looseItem (es : Events) (i : Nat) : Bool :=
  blankWithin es false (afterSign es) .listItem (fun _ => false) (es.size - i) i 0

/-- Whether a blank line stands between the items of the list that opens at an index, or between
the blocks of an item. -/
def looseList (es : Events) (i : Nat) : Bool :=
  blankWithin es true (afterEmptyItem es) (es.part i) (looseItem es) (es.size - i) i 0

/-! ## Addresses and notes -/

/-- The name of a footnote in addresses. -/
def noteName (label : Text) : Text := address (Text.lower label)

/-- Writes an address as a link, or only its text. -/
def writeAddress (front : String) (shown : Text) (bare : Bool) (s : Sheet) : Sheet :=
  let linked := !s.inAlt && !(bare && s.media.any fun m => !m.image)
  let s := s.when linked fun s =>
    (s.tag "<a href=\"").put (safeAddress linkProtocols (front.toList ++ shown)) |>.tag "\">"
  (s.putText shown).when linked (·.tag "</a>")

/-- Writes a call of a footnote. -/
def writeCall (label : Text) (s : Sheet) : Sheet :=
  let key := labelKey label
  let (index, count) := match s.calls.findIdx? (·.1 = key) with
    | some i => (i, ((s.calls[i]?).map Prod.snd).getD 0 + 1)
    | none => (s.calls.length, 1)
  let calls := if count = 1 then s.calls ++ [(key, 1)]
    else s.calls.map fun (l, n) => if l = key then (l, count) else (l, n)
  let name := noteName key
  let suffix := if count > 1 then '-' :: Text.ofNat count else []
  { s with calls := calls }.when (!s.inAlt) fun s =>
    (s.tag "<sup><a href=\"#user-content-fn-").put name
      |>.tag "\" id=\"user-content-fnref-"
      |>.put (name ++ suffix)
      |>.tag "\" data-footnote-ref=\"\" aria-describedby=\"footnote-label\">"
      |>.put (Text.ofNat (index + 1))
      |>.tag "</a></sup>"

/-- The attribute with a title. -/
def titleAttribute (title : Option Text) : Text :=
  match title with
  | none => []
  | some t => " title=\"".toList ++ t ++ ['"']

/-- Writes a link or an image that is known by now. -/
def writeMedia (s : Sheet) : Sheet :=
  match s.media with
  | [] => s
  | m :: around =>
    let inAlt := around.any (·.image)
    let s := { s with media := around, inAlt := inAlt }
    let named := if m.address.isSome then none
      else (m.referenceSource <|> m.labelSource).bind fun l =>
        s.targets.find? (·.key = labelKey l)
    let (target, title) := match named with
      | some t => (t.address, t.title)
      | none => (m.address, m.title)
    let protocols := if m.image then imageProtocols else linkProtocols
    let s := s.when (!inAlt) fun s =>
      ((s.tag (if m.image then "<img src=\"" else "<a href=\"")).put
        (safeAddress protocols (target.getD []))).when m.image (·.tag "\" alt=\"")
    let s := s.when m.image (·.put m.shown)
    let s := s.when (!inAlt) fun s =>
      ((s.tag "\"").put (titleAttribute title)).tag (if m.image then " />" else ">")
    s.when (!m.image) fun s => (s.put m.shown).when (!inAlt) (·.tag "</a>")

/-- Notes a definition, unless its label is defined already. -/
def noteDefinition (s : Sheet) : Sheet :=
  match s.media with
  | [] => s
  | m :: around =>
    let key := labelKey (m.referenceSource.getD [])
    { s.forget with
      media := around
      targets := if s.targets.any (·.key = key) then s.targets
        else s.targets ++ [⟨key, m.address, m.title⟩] }

/-! ## Parts -/

/-- Code in running text as it is shown: in a table a bar is not escaped, and one space at either
end is left out. -/
def shownCode (inTable : Bool) (t : Text) : Text :=
  let t := if inTable then unescapeBars t else t
  match t with
  | ' ' :: rest =>
    if rest.length > 1 && rest.getLast? = some ' ' && rest.any (· ≠ ' ') then rest.dropLast else t
  | _ => t
where
  /-- `t` with its bars not escaped. -/
  unescapeBars : Text → Text
    | '\\' :: '|' :: t => '|' :: unescapeBars t
    | c :: t => c :: unescapeBars t
    | [] => []

/-- Writes the start of the cell of a table. Cells past the last column are forgotten. -/
def openCell (s : Sheet) : Sheet :=
  match (s.columns.getD [])[s.column]? with
  | none => s.setAside
  | some a =>
    let s := s.freshLine.tag (if s.inHead then "<th" else "<td")
    let s := if a = .none then s else (s.tag " align=\"").put a.name |>.tag "\""
    s.tag ">"

/-- Writes the end of the cell of a table. -/
def closeCell (s : Sheet) : Sheet :=
  let s := if s.column < (s.columns.getD []).length then
    s.tag (if s.inHead then "</th>" else "</td>") else s.forget
  { s with column := s.column + 1 }

/-- Writes empty cells up to the last column. -/
def fillRow : Nat → Sheet → Sheet
  | 0, s => s
  | n + 1, s => if s.column < (s.columns.getD []).length then fillRow n (closeCell (openCell s)) else s

/-- Writes the start of a part; `i` is the index of its event. -/
def writeEnter (es : Events) (i : Nat) (s : Sheet) : Sheet :=
  match es.part i with
  | .codeFencedFenceInfo => s.setAside
  | .codeFencedFenceMeta => s.setAside
  | .definitionLabelString => s.setAside
  | .definitionTitleString => s.setAside
  | .footnoteDefinitionPrefix => s.setAside
  | .headingAtxText => s.setAside
  | .headingSetextText => s.setAside
  | .label => s.setAside
  | .referenceString => s.setAside
  | .resourceTitleString => s.setAside
  | .blockQuote => { s with tight := false :: s.tight }.freshLine.tag "<blockquote>"
  | .codeIndented => { s.freshLine.tag "<pre><code>" with codeSeen := false }
  | .codeFenced => { s.freshLine.tag "<pre><code" with codeSeen := false, fences := some 0 }
  | .codeText => { s.mark "<code>" with inCodeText := true }.setAside
  | .definition => s.setAside.openMedia false
  | .definitionDestinationString => { s.setAside with encodes := false }
  | .emphasis => s.mark "<em>"
  | .footnoteDefinition => { s with tight := false :: s.tight }
  | .footnoteCall => s.openMedia false
  | .strikethrough => s.mark "<del>"
  | .table => { s.freshLine.tag "<table>" with columns := some (columns es i) }
  | .tableBody => s.tag "<tbody>"
  | .tableCell => openCell s
  | .tableHead => { s.freshLine.tag "<thead>" with inHead := true }
  | .tableRow => s.freshLine.tag "<tr>"
  | .taskCheck => s.mark "<input type=\"checkbox\" disabled=\"\" "
  | .markupBlock => { s.freshLine with encodes := !s.raw }
  | .markup => { s with encodes := !s.raw }
  | .image => { s.openMedia true with inAlt := true }
  | .link => s.openMedia false
  | .listItemMarker => { (s.when s.firstItem (·.tag ">")).freshLine.tag "<li>" with firstItem := false }
  | .listOrdered =>
    { s.freshLine.tag "<ol" with tight := (!looseList es i) :: s.tight, firstItem := true }
  | .listUnordered =>
    { s.freshLine.tag "<ul" with tight := (!looseList es i) :: s.tight, firstItem := true }
  | .paragraph => s.when (!s.isTight) fun s => s.freshLine.tag "<p>"
  | .resource => s.setAside.modifyMedia fun m => { m with address := some [] }
  | .resourceDestinationString => { s.setAside with encodes := false }
  | .strong => s.mark "<strong>"
  | _ => s

/-- Writes the end of code in a block. Code in a container that no fence closes ends with its
line. -/
def closeCode (es : Events) (i : Nat) (s : Sheet) : Sheet :=
  let s := s.when (s.fences = some 1 && !s.tight.isEmpty && es.part (i - 1) ≠ .codeFencedFence)
    (·.newLine)
  let s := (s.when s.codeSeen (·.freshLine)).tag "</code></pre>"
  let s := s.when ((s.fences.getD 2).blt 2) (·.freshLine)
  { s with fences := none, codeSeen := false, skipEol := false }

/-- Whether an item ends on the line of its last block. -/
def endsInLine (es : Events) (i : Nat) (tight : Bool) : Bool :=
  let last := es.part (es.skipBack (i - 1)
    [.blankLineEnding, .blockQuotePrefix, .lineEnding, .spaceOrTab, .definition,
     .footnoteDefinition])
  (tight && last = .paragraph) || last = .listItemPrefix

/-- Writes the end of a line. -/
def writeLineEnd (es : Events) (i : Nat) (t : Text) (s : Sheet) : Sheet :=
  if s.inCodeText then s.tag " "
  else if s.skipEol ||
      (i > 1 && (es.part (i - 2) = .definition || es.part (i - 2) = .footnoteDefinition)) then
    s.skipping false
  else s.putText t

/-- Writes the end of a part; `i` is the index of its event, and `slice` the text of a part that
holds no other. -/
def writeExit (source : Array Char) (es : Events) (i : Nat) (s : Sheet) : Sheet :=
  let slice := es.sliceTo source i
  match es.part i with
  | .codeFencedFenceMeta => s.forget
  | .resource => s.forget
  | .characterEscapeValue => s.putText slice.text
  | .codeTextData => s.putText slice.text
  | .data => s.putText slice.text
  | .autolinkEmail => writeAddress "mailto:" slice.text false s
  | .autolinkProtocol => writeAddress "" slice.text false s
  | .literalEmail => writeAddress "mailto:" slice.text true s
  | .literalMailto => writeAddress "" slice.text true s
  | .literalXmpp => writeAddress "" slice.text true s
  | .literalProtocol => writeAddress "" slice.text true s
  | .literalWww => writeAddress "http://" slice.text true s
  | .blankLineEnding => (s.skipping false).when (i + 1 = es.size) (·.freshLine)
  | .blockQuote =>
    { s with tight := s.tight.tail, skipEol := false }.freshLine.tag "</blockquote>"
  | .characterReferenceValue base => s.putText (referenceValue base slice.text)
  | .codeFenced => closeCode es i s
  | .codeIndented => closeCode es i s
  | .codeFencedFence =>
    let n := s.fences.getD 0
    { s.when (n = 0) (fun s => (s.tag ">").skipping true) with fences := some (n + 1) }
  | .codeFencedFenceInfo =>
    let (info, s) := s.takeBack
    (s.tag " class=\"language-").put info |>.tag "\""
  | .codeFlowChunk => { s.putText slice.spelled with codeSeen := true }
  | .codeText =>
    let (code, s) := s.takeBack
    { s.put (shownCode s.columns.isSome code) with inCodeText := false }.mark "</code>"
  | .definition => noteDefinition s
  | .definitionDestinationString =>
    let (t, s) := s.takeBack
    { s.modifyMedia fun m => { m with address := some t } with encodes := true }
  | .definitionLabelString =>
    s.forget.modifyMedia fun m => { m with referenceSource := some (es.textTo source i) }
  | .definitionTitleString =>
    let (t, s) := s.takeBack
    s.modifyMedia fun m => { m with title := some t }
  | .emphasis => s.mark "</em>"
  | .footnoteCall =>
    match s.media with
    | [] => s
    | m :: around => writeCall (m.labelSource.getD []) { s with media := around }
  | .footnoteDefinitionLabelString => { s with notesOpen := labelKey (es.textTo source i) :: s.notesOpen }
  | .footnoteDefinitionPrefix => s.forget.setAside
  | .footnoteDefinition =>
    let (t, s) := s.takeBack
    { s with
      tight := s.tight.tail
      notesOpen := s.notesOpen.tail
      notes := s.notes ++ [(s.notesOpen.headD [], t)] }
  | .strikethrough => s.mark "</del>"
  | .table => { s with columns := none, skipEol := false }.freshLine.tag "</table>"
  | .tableBody => s.freshLine.tag "</tbody>"
  | .tableCell => closeCell s
  | .tableHead => { s.freshLine.tag "</thead>" with inHead := false }
  | .tableRow =>
    let s := fillRow (s.columns.getD []).length s
    { s.freshLine.tag "</tr>" with column := 0 }
  | .taskCheck => s.mark "/>"
  | .taskCheckValue ticked => s.when ticked (·.mark "checked=\"\" ")
  | .hardBreakEscape => s.mark "<br />"
  | .hardBreakTrailing => s.mark "<br />"
  | .headingAtx =>
    { (s.tag "</h").put (Text.ofNat (s.heading.getD 1)) |>.tag ">" with heading := none }
  | .headingAtxSequence =>
    if s.heading.isSome then s
    else
      let rank := slice.text.length
      { (s.freshLine.tag "<h").put (Text.ofNat rank) |>.tag ">" with heading := some rank }
  | .headingAtxText =>
    let (t, s) := s.takeBack
    s.put t
  | .headingSetextText =>
    let (t, s) := s.takeBack
    { s with underlined := t, skipEol := true }
  | .headingSetextUnderlineSequence =>
    let name := if slice.text.head? = some '-' then "h2>" else "h1>"
    ((s.freshLine.tag "<").tag name).put s.underlined |>.tag "</" |>.tag name
  | .markupBlock => { s with encodes := true }
  | .markup => { s with encodes := true }
  | .markupBlockData => s.put (if s.raw then Markup.passOn slice.text else encode slice.text)
  | .markupData => s.put (if s.raw then Markup.passOn slice.text else encode slice.text)
  | .image => writeMedia s
  | .link => writeMedia s
  | .label =>
    let (t, s) := s.takeBack
    s.modifyMedia fun m => { m with shown := t }
  | .labelText => s.modifyMedia fun m => { m with labelSource := some (es.textTo source i) }
  | .lineEnding => writeLineEnd es i slice.text s
  | .listOrdered => { s with tight := s.tight.tail }.newLine.tag "</ol>"
  | .listUnordered => { s with tight := s.tight.tail }.newLine.tag "</ul>"
  | .listItem =>
    ((s.skipping false).when (!endsInLine es i s.isTight) (·.freshLine)).tag "</li>"
  | .listItemValue =>
    let n := slice.text.foldl (fun n c => n * 10 + (c.toNat - 48)) 0
    s.when (s.firstItem && n ≠ 1) fun s => (s.tag " start=\"").put (Text.ofNat n) |>.tag "\""
  | .paragraph => if s.isTight then s.skipping true else s.tag "</p>"
  | .referenceString =>
    s.forget.modifyMedia fun m => { m with referenceSource := some (es.textTo source i) }
  | .resourceDestinationString =>
    let (t, s) := s.takeBack
    { s.modifyMedia fun m => { m with address := some t } with encodes := true }
  | .resourceTitleString =>
    let (t, s) := s.takeBack
    s.modifyMedia fun m => { m with title := some t }
  | .strong => s.mark "</strong>"
  | .thematicBreak => s.freshLine.tag "<hr />"
  | _ => s

/-- Writes the event at an index. -/
def writeEvent (source : Array Char) (es : Events) (s : Sheet) (i : Nat) : Sheet :=
  if es.opens i then writeEnter es i s else writeExit source es i s

/-! ## Footnotes -/

/-- The links from a footnote back to its calls. -/
def backLinks (name : Text) (count : Nat) : Text :=
  [' '].intercalate ((List.range count).map fun i =>
    let number := Text.ofNat (i + 1)
    let suffix := if i = 0 then [] else '-' :: number
    let shown := if i = 0 then [] else "<sup>".toList ++ number ++ "</sup>".toList
    "<a href=\"#user-content-fnref-".toList ++ name ++ suffix ++
      "\" data-footnote-backref=\"\" aria-label=\"Back to content\" ".toList ++
      "class=\"data-footnote-backref\">↩".toList ++ shown ++ "</a>".toList)

/-- Writes a footnote with the links back at the end of its last paragraph. -/
def writeNote (s : Sheet) (call : Text × Nat) : Sheet :=
  let (label, count) := call
  let name := noteName label
  let body := ((s.notes.find? (·.1 = label)).map Prod.snd).getD []
  let s := (s.newLine.tag "<li id=\"user-content-fn-").put name |>.tag "\">" |>.newLine
  let links := backLinks name count
  let ends := (body.reverse.takeWhile isEol).reverse
  let s := match Text.after? "</p>".toList.reverse (body.reverse.dropWhile isEol) with
    | some front => s.put (front.reverse ++ [' '] ++ links ++ "</p>".toList ++ ends)
    | none => (s.put body).freshLine.put links
  s.freshLine.tag "</li>"

/-- Writes the footnotes that were called. -/
def writeNotes (s : Sheet) : Sheet :=
  if s.calls = [] then s
  else
    let s := s.freshLine.tag "<section data-footnotes=\"\" class=\"footnotes\">"
      |>.tag "<h2 id=\"footnote-label\" class=\"sr-only\">Footnotes</h2>"
      |>.newLine |>.tag "<ol>"
    let s := s.calls.foldl writeNote s
    s.newLine.tag "</ol>" |>.newLine |>.tag "</section>" |>.newLine

/-! ## Documents -/

/-- The definitions among the events, as pairs of the indices of their events. -/
def definitionSpans (es : Events) : List (Nat × Nat) :=
  let at_ (opens : Bool) := (List.range es.size).filter fun i =>
    es.part i = .definition && es.opens i = opens
  (at_ true).zip (at_ false)

/-- The indices of the events that are written where they stand: those of definitions and of the
ends of lines after them are not. -/
def writtenFrom (es : Events) : Nat → Nat → List (Nat × Nat) → List Nat
  | 0, _, _ => []
  | fuel + 1, i, spans =>
    if i < es.size then
      match spans with
      | (start, stop) :: more =>
        if i = start then writtenFrom es fuel (pastEnds es.size (stop + 1)) more
        else i :: writtenFrom es fuel (i + 1) spans
      | [] => i :: writtenFrom es fuel (i + 1) []
    else []
where
  /-- The first index from `i` on that is not of the end of a line. -/
  pastEnds : Nat → Nat → Nat
    | 0, i => i
    | fuel + 1, i =>
      if i < es.size && (es.part i = .lineEnding || es.part i = .blankLineEnding) then
        pastEnds fuel (i + 1)
      else i

/-- What ends the first line of the events. -/
def firstEol (source : Array Char) (es : Events) : Text :=
  match (List.range es.size).find? fun i =>
      !es.opens i && (es.part i = .lineEnding || es.part i = .blankLineEnding) with
  | some i => (es.sliceTo source i).text
  | none => ['\n']

/-- The markup of the events of a document. -/
def sheetOf (raw : Bool) (source : Array Char) (es : Events) : Text :=
  let spans := definitionSpans es
  let s := (spans.flatMap fun (start, stop) => List.range' start (stop + 1 - start)).foldl
    (writeEvent source es) (.empty raw (firstEol source es))
  let s := (writtenFrom es (es.size + 1) 0 spans).foldl (writeEvent source es) s
  (writeNotes s).out.reverse

/-- The markup of a text in Markdown, with the extensions for tables, boxes, struck-out text, bare
addresses and footnotes. Unless `raw` holds, markup in the text becomes text; even then, tags that
would change how the rest of a page is read do. -/
def render (raw : Bool) (t : Text) : Text :=
  let source := t.toArray
  sheetOf raw source (events source)

end Marginalia.Markdown
