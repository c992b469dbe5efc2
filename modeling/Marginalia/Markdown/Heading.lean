import Marginalia.Markdown.Scan

/-!
# Headings and breaks

A heading starts with up to six signs, or it is a paragraph with a line of signs under it. A line
of three or more signs is a break. Under which text a line of signs stands is decided once the
paragraphs are known (`underline`).
-/

namespace Marginalia.Markdown

namespace Scan

/-- The most signs before a heading. -/
def mostRanks : Nat := 6

/-- Passes the text of a heading and the signs after it, word by word. -/
def headingRest : Scan Unit :=
  walk (fun () => do
    if ← atEnd then
      exit .headingAtx
      modify fun s => { s with interrupt := false }
      return none
    else if ← atBlank then gap
    else if (← peek) = some '#' then
      enter .headingAtxSequence
      passWhile (· = '#')
      exit .headingAtxSequence
    else
      enterRead .data .text true
      passWhile fun c => !(c = '\n' || isSpace c)
      exit .data
    return some ()) ()

/-- Passes a heading with signs before its text. -/
def heading : Scan Unit := do
  enter .headingAtx
  indent
  require ((← peek) = some '#')
  enter .headingAtxSequence
  walk (fun n => do
    if (← peek) = some '#' then
      require (n < mostRanks)
      step
      return some (n + 1)
    else return none) 0
  require ((← atEnd) || (← atBlank))
  exit .headingAtxSequence
  headingRest

/-- Passes a break: at least three times the same sign. -/
def thematicBreak : Scan Unit := do
  enter .thematicBreak
  indent
  let c := (← peek).getD ' '
  require (c = '*' || c = '-' || c = '_')
  walk (fun n => do
    if n > 2 && (← atEnd) then
      exit .thematicBreak
      modify fun s => { s with interrupt := false }
      return none
    else if (← peek) = some c then
      step
      return some (n + 1)
    else if (← atBlank) && n > 0 then
      gap
      return some n
    else fail) 0

/-- Passes a line of signs that may stand under a paragraph. -/
def underlineLine : Scan Unit := do
  let s ← asks fun s => (s.lazy || s.pierce, s.events.tail? [.lineEnding, .spaceOrTab])
  require (!s.1 && (s.2 = some .content || s.2 = some .headingSetextUnderline))
  enter .headingSetextUnderline
  indent
  let c := (← peek).getD ' '
  require (c = '-' || c = '=')
  enter .headingSetextUnderlineSequence
  passWhile (· = c)
  exit .headingSetextUnderlineSequence
  optionalGap
  require (← atEnd)
  modify fun s => { s with interrupt := false }
  exit .headingSetextUnderline

end Scan

/-! ## The text of headings -/

/-- Where the text of a heading starts and ends among the events: whether a heading is open, and
the first and the last word of it. -/
structure HeadingText where
  inside : Bool
  first : Option Nat
  last : Nat

/-- Puts the text of a heading around its words, from the first to the last. -/
def headingTextStep (es : Events) (r : HeadingText × Edits) (i : Nat) : HeadingText × Edits :=
  let (h, m) := r
  match es.part i with
  | .headingAtx =>
    if es.opens i then (⟨true, none, 0⟩, m)
    else
      (⟨false, none, 0⟩, match h.first with
        | none => m
        | some first =>
          m.add first 0 #[.enter .headingAtxText (es.place first)]
            |>.add (first + 1) (h.last - first - 1) #[]
            |>.add (h.last + 1) 0 #[.exit .headingAtxText (es.place h.last)])
  | .data =>
    if !h.inside then (h, m)
    else if es.opens i then ({ h with first := some (h.first.getD i) }, m)
    else ({ h with last := i }, m)
  | _ => (h, m)

/-- The events with the texts of headings. -/
def headingTexts (es : Events) : Events :=
  ((List.range es.size).foldl (headingTextStep es) (⟨false, none, 0⟩, .none es)).2.apply es

/-! ## Lines of signs -/

/-- Settles what the line of signs between two events is: it makes a heading of the paragraph
before it, or it belongs to the paragraph after it, or it is a paragraph. -/
def settleUnderline (start stop : Nat) (es : Events) (m : Edits) : Events × Edits :=
  let before := es.skipBack (start - 1) [.spaceOrTab, .lineEnding, .blockQuotePrefix]
  if es.part before = .paragraph then
    let first := es.seekBack .paragraph (before - 1)
    (es.setPart first .headingSetextText |>.setPart before .headingSetextText,
      m.add first 0 #[.enter .headingSetext (es.place first)]
        |>.add (stop + 1) 0 #[.exit .headingSetext (es.place stop)])
  else if stop + 3 < es.size && es.part (stop + 1) = .lineEnding &&
      es.part (stop + 3) = .paragraph then
    let es := es.setPart start .paragraph |>.setPart (stop + 1) .data |>.setPart (stop + 2) .data
      |>.setPlace (stop + 1) (es.place start) |>.setLink (stop + 1) (some ⟨.text, true⟩)
      |>.setLink (stop + 4) (some ⟨.text, false⟩)
    (es, m.add (start + 1) (stop - start) #[] |>.add (stop + 3) 1 #[])
  else
    let data : Events :=
      #[⟨true, .data, es.place start, some ⟨.text, true⟩⟩, .exit .data (es.place stop)]
    (es.setPart start .paragraph |>.setPart stop .paragraph,
      m.add (start + 1) (stop - start - 1) data)

/-- Settles the lines of signs from an index on. -/
def settleUnderlines : Nat → Nat → Events → Edits → Events
  | 0, _, es, m => m.apply es
  | fuel + 1, i, es, m =>
    let start := es.seek i .headingSetextUnderline
    if start < es.size then
      let stop := es.seek (start + 1) .headingSetextUnderline
      let (es, m) := settleUnderline start stop es m
      settleUnderlines fuel (stop + 1) es m
    else m.apply es

/-- The events with all lines of signs settled. -/
def underline (es : Events) : Events := settleUnderlines es.size 0 es (.none es)

end Marginalia.Markdown
