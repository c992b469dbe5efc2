import Marginalia.Markdown.Label

/-!
# Links, images and calls of footnotes

A label in running text opens with `[`, `![` or `[^`. Where it closes, a resource or a reference
may follow it, or the label itself may name a definition. Labels that come to nothing are plain
text. The parts around the labels are put in at the end (`links`), when it is known which of them
are labels.
-/

namespace Marginalia.Markdown

namespace Scan

/-! ## Where labels open -/

/-- Notes that a label opens with the last two events. -/
def pushStart (kind : LabelKind) : Scan Unit := modify fun s =>
  let n := s.events.size
  { s with labelStarts := ⟨kind, n - 2, n - 1, false⟩ :: s.labelStarts }

/-- Passes the start of an image. -/
def imageStart : Scan Unit := do
  enter .labelImage
  step
  require ((← peek) = some '[')
  consume
  exit .labelImage
  next
  require ((← peek) ≠ some '^')
  pushStart .image

/-- Passes the start of a link. -/
def linkStart : Scan Unit := do
  enter .labelLink
  consume
  exit .labelLink
  pushStart .link

/-- Passes the start of the call of a footnote. -/
def callStart : Scan Unit := do
  enter .footnoteCallLabel
  step
  require ((← peek) = some '^')
  consume
  exit .footnoteCallLabel
  pushStart .footnote

/-! ## What follows a label -/

/-- The most open parentheses in the destination of a resource. -/
def mostParentheses : Nat := 32

/-- Passes blanks and at most one end of a line, if there are any. -/
def optionalGapOverLine : Scan Unit := do
  let _ ← attempt (gapOverLine none false)

/-- Passes the destination and the title of a resource. -/
def resourceContent : Scan Unit := do
  destination .resourceDestination .resourceDestinationString (some mostParentheses)
  next
  if ← attempt (gapOverLine none false) then
    let c ← peek
    if c = some '"' || c = some '\'' || c = some '(' then
      title .resourceTitle .resourceTitleString
      next
      optionalGapOverLine

/-- Passes a resource in parentheses. -/
def resource : Scan Unit := do
  enter .resource
  step
  optionalGapOverLine
  if (← peek) ≠ some ')' then resourceContent
  require ((← peek) = some ')')
  consume
  exit .resource

/-- Passes a label that names a definition. -/
def fullReference : Scan Unit := do
  label .reference .referenceString
  let found ← asks fun s =>
    let i := s.events.seekBack .referenceString (s.events.size - 1)
    s.glossary.definitions.contains (labelKey (s.events.textTo s.source i))
  require found

/-- Passes an empty label. -/
def emptyReference : Scan Unit := do
  enter .reference
  step
  require ((← peek) = some ']')
  consume
  exit .reference

/-! ## Where labels close -/

/-- Takes the innermost label as plain text. -/
def dropStart : Scan Unit := do
  modify fun s =>
    match s.labelStarts with
    | [] => s
    | l :: ls => { s with labelStarts := ls, looseStarts := s.looseStarts ++ [l] }
  fail

/-- Takes the innermost label as found; the event before which it ends is `stop`. Outside of a
link no other link can start. -/
def takeStart (stop : Nat) : Scan Unit := modify fun s =>
  match s.labelStarts with
  | [] => s
  | l :: ls =>
    let ls := if l.kind = .image then ls
      else ls.map fun o => if o.kind = .image then o else { o with inactive := true }
    { s with
      labelStarts := ls
      labels := s.labels ++ [⟨l.kind, (l.start, l.stop), (stop, s.events.size - 1)⟩] }

/-- Passes what follows a label, of which it is known whether it names a definition. -/
def afterLabel (defined : Bool) (stop : Nat) : Scan Unit := do
  match ← peek with
  | some '(' =>
    if (← attempt resource) || defined then takeStart stop else dropStart
  | some '[' =>
    if ← attempt fullReference then takeStart stop
    else if defined then
      if ← attempt emptyReference then takeStart stop else dropStart
    else dropStart
  | _ => if defined then takeStart stop else dropStart

/-- Passes the end of a label and what follows it. -/
def labelEnd : Scan Unit := do
  match ← asks State.labelStarts with
  | [] => fail
  | l :: _ =>
    let stop ← asks fun s => s.events.size
    if l.inactive then dropStart
    enter .labelEnd
    consume
    exit .labelEnd
    next
    let (key, glossary) ← asks fun s =>
      (labelKey (Slice.between s.source (s.events.place l.stop).index
        (s.events.place stop).index), s.glossary)
    if l.kind = .footnote then
      if glossary.footnotes.contains key then takeStart stop
      else
        modify fun s => { s with labelStarts :=
          { l with kind := .caret } :: s.labelStarts.tail }
        afterLabel (glossary.definitions.contains ('^' :: key)) stop
    else afterLabel (glossary.definitions.contains key) stop

end Scan

/-! ## The parts around labels -/

/-- Puts the parts of a label and what follows it around their events. -/
def LabelFound.put (l : LabelFound) (r : Events × Edits) : Events × Edits :=
  let (es, m) := r
  let group : Part := match l.kind with
    | .footnote => .footnoteCall
    | .image => .image
    | _ => .link
  let start := es.place l.start.1
  let (es, caret) : Events × Events :=
    if l.kind = .caret then
      let stop := es.place l.start.2
      let before := { stop with index := stop.index - 1, column := stop.column - 1 }
      (es.setPart l.start.1 .labelLink |>.setPart l.start.2 .labelLink
        |>.setPlace l.start.2 before, Event.pair .data before stop)
    else (es, #[])
  let m := m.add l.start.1 0 #[.enter group start, .enter .label start]
  let m := if l.start.2 + 1 ≠ l.stop.1 || !caret.isEmpty then
    m.addBefore (l.start.2 + 1) #[.enter .labelText (es.place l.start.2)]
      |>.add l.stop.1 0 #[.exit .labelText (es.place l.stop.1)]
      |>.add (l.start.2 + 1) 0 caret
    else m
  (es, m.add (l.stop.1 + 2) 0 #[.exit .label (es.place (l.stop.1 + 1))]
    |>.add (l.stop.2 + 1) 0 #[.exit group (es.place l.stop.2)])

/-- Makes the start of a label plain text. -/
def LabelStart.put (r : Events × Edits) (l : LabelStart) : Events × Edits :=
  (r.1.setPart l.start .data |>.setPart l.stop .data, r.2)

/-- The events with the parts around labels. -/
def links (s : State) : Events :=
  let r := s.labels.foldl (fun r l => l.put r) (s.events, Edits.none s.events)
  let (es, m) := (s.labelStarts.reverse ++ s.looseStarts).foldl LabelStart.put r
  m.apply es

end Marginalia.Markdown
