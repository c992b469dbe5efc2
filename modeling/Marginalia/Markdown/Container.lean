import Marginalia.Markdown.Heading
import Marginalia.Markdown.Label

/-!
# Containers

Quotes, items of lists and the contents of footnotes hold blocks. Each line of a container starts
with a sign or an indent; the first one may differ from those after it. The items that stand in a
row and have the same sign make up a list (`lists`).
-/

namespace Marginalia.Markdown

/-- What holds blocks. -/
inductive ContainerKind where
  | quote
  | item
  | footnote
  deriving DecidableEq

/-- The part that a container is. -/
def ContainerKind.part : ContainerKind → Part
  | .quote => .blockQuote
  | .item => .listItem
  | .footnote => .footnoteDefinition

/-- An open container. -/
structure Container where
  kind : ContainerKind
  /-- Whether it has started with a blank line, and nothing has followed yet. -/
  blankStart : Bool
  /-- The indent of the lines of an item. -/
  size : Nat

namespace Scan

/-! ## Quotes -/

/-- Passes the sign of a quote. -/
def quoteSign : Scan Unit := do
  indent
  require ((← peek) = some '>')
  enter .blockQuotePrefix
  enter .blockQuoteMarker
  consume
  exit .blockQuoteMarker
  next
  if ← atBlank then
    enter .spaceOrTab
    consume
    exit .spaceOrTab
  exit .blockQuotePrefix

/-- Passes the start of a quote. -/
def quoteStart : Scan Container := do
  enter .blockQuote
  quoteSign
  return ⟨.quote, false, 0⟩

/-! ## Items -/

/-- The most digits of the number of an item. -/
def mostDigits : Nat := 9

/-- Passes the number of an item. -/
def itemNumber (interrupt : Bool) : Scan Unit := do
  enter .listItemValue
  walk (fun n => do
    let c := (← peek).getD ' '
    if (c = '.' || c = ')') && (!interrupt || n < 2) then
      exit .listItemValue
      return none
    else
      require (c.isDigit && n < mostDigits)
      step
      return some (n + 1)) 0

/-- Passes up to four columns of blanks, and fails if there are more. -/
def itemGap : Scan Unit := do
  blanks 1 tabSize
  require !(← atBlank)

/-- Passes the start of an item. -/
def itemStart : Scan Container := do
  enter .listItem
  let start ← asks fun s => (s.events.getD (s.events.size - 1) default).place
  indent
  let interrupt ← asks State.interrupt
  let c := (← peek).getD ' '
  if c = '*' || c = '-' then
    if ← check thematicBreak then fail
    enter .listItemPrefix
  else if c = '+' then enter .listItemPrefix
  else
    require (c = '1' || (c.isDigit && !interrupt))
    enter .listItemPrefix
    itemNumber interrupt
  enter .listItemMarker
  consume
  exit .listItemMarker
  next
  let blank ← check blankLine
  if !blank then
    if !(← attempt itemGap) then
      require (← atBlank)
      enter .spaceOrTab
      consume
      exit .spaceOrTab
      next
  require !(blank && (← asks State.interrupt))
  let size ← asks fun s => (Slice.ofPlaces s.source start s.place).size
  exit .listItemPrefix
  return ⟨.item, blank, if blank then size + 1 else size⟩

/-- Passes the indent of a further line of an item. -/
def itemIndent (c : Container) : Scan Container := do
  if ← check blankLine then
    require !c.blankStart
    blanks 0 c.size
    return c
  else
    require (← atBlank)
    blanks c.size c.size
    return { c with blankStart := false }

/-! ## Footnotes -/

/-- Passes the label of a footnote after its caret. -/
def footnoteLabel : Scan Unit :=
  walk (fun (n, escaped) => do
    match ← peek with
    | none => fail
    | some c =>
      if escaped && (c = '[' || c = '\\' || c = ']') then
        step
        return some (n + 1, false)
      else
        require !(n > labelLimit || isGap c || c = '[' || (c = ']' && n = 0))
        if c = ']' then
          exit .footnoteDefinitionLabelString
          step
          return none
        else
          step
          return some (n + width c, c = '\\')) (0, false)

/-- Passes the start of the content of a footnote. -/
def footnoteStart : Scan Container := do
  enter .footnoteDefinition
  indent
  enter .footnoteDefinitionPrefix
  require ((← peek) = some '[')
  step
  require ((← peek) = some '^')
  step
  let start ← asks fun s => s.place.index
  enter .footnoteDefinitionLabelString
  footnoteLabel
  require ((← peek) = some ':')
  modify fun s =>
    let label := Slice.between s.source start (s.place.index - 1)
    { s with defined := s.defined ++ [labelKey label] }
  step
  optionalGap
  exit .footnoteDefinitionPrefix
  return ⟨.footnote, false, 0⟩

/-- Passes the indent of a further line of the content of a footnote. -/
def footnoteIndent : Scan Unit := do
  if ← check blankLine then blanks 0 tabSize
  else
    require (← atBlank)
    blanks tabSize tabSize

/-- Passes what a further line of a container starts with. -/
def further (c : Container) : Scan Container :=
  match c.kind with
  | .quote => do quoteSign; return c
  | .item => itemIndent c
  | .footnote => do footnoteIndent; return c

end Scan

/-! ## Lists -/

/-- Items in a row: their sign, how many items are around them, and their first and last event. -/
structure ItemRun where
  sign : Char
  depth : Nat
  start : Nat
  stop : Nat

/-- Lists that may go on, the innermost last, lists that are complete, and the number of items
around the place. -/
structure ListSearch where
  going : List ItemRun
  complete : List ItemRun
  depth : Nat

/-- What may stand between the items of a list. -/
def betweenItems : List Part := [.spaceOrTab, .lineEnding, .blankLineEnding, .blockQuotePrefix]

/-- Whether an item goes on with a list. -/
def ItemRun.goesOn (es : Events) (item list : ItemRun) : Bool :=
  list.sign = item.sign && list.depth = item.depth &&
    es.skip (list.stop + 1) betweenItems = item.start

/-- Takes in an item: it goes on with the innermost list that it can go on with, or it starts
another one. -/
def ListSearch.add (es : Events) (item : ItemRun) (r : ListSearch) : ListSearch :=
  let inner := r.going.reverse.takeWhile fun l => !item.goesOn es l
  match r.going.reverse.drop inner.length with
  | list :: outer =>
    { r with going := outer.reverse ++ [{ list with stop := item.stop }],
             complete := r.complete ++ inner.reverse }
  | [] =>
    let ended := r.going.reverse.takeWhile fun l => item.start > l.stop
    { r with going := r.going.take (r.going.length - ended.length) ++ [item],
             complete := r.complete ++ ended.reverse }

/-- Takes in the event at an index. -/
def ListSearch.step (source : Array Char) (es : Events) (r : ListSearch) (i : Nat) : ListSearch :=
  if es.part i ≠ .listItem then r
  else if es.opens i then
    let sign := source.getD (es.place (es.seek i .listItemMarker)).index ' '
    let r := r.add es ⟨sign, r.depth, i, es.skip i [.listItem] - 1⟩
    { r with depth := r.depth + 1 }
  else { r with depth := r.depth - 1 }

/-- Puts a list around its items. -/
def ItemRun.put (es : Events) (m : Edits) (run : ItemRun) : Edits :=
  let part : Part := if run.sign = '.' || run.sign = ')' then .listOrdered else .listUnordered
  m.add run.start 0 #[.enter part (es.place run.start)]
    |>.add (run.stop + 1) 0 #[.exit part (es.place run.stop)]

/-- The events with the lists around the items. -/
def lists (source : Array Char) (es : Events) : Events :=
  let r := (List.range es.size).foldl (ListSearch.step source es) ⟨[], [], 0⟩
  ((r.complete ++ r.going).foldl (ItemRun.put es) (.none es)).apply es

end Marginalia.Markdown
