import Marginalia.Markdown.Scan

/-!
# Tables

The first row of a table stands over a line of dashes that has as many cells. Each further line up
to a blank one is a row. The cells of the rows are found once all lines are read (`tables`): bars
divide them, and a bar at either end of a row belongs to the cell beside it.
-/

namespace Marginalia.Markdown

namespace Scan

/-! ## Rows -/

/-- Passes what stands in a cell up to a blank or a bar. A backslash may escape a bar. -/
def cellWord : Scan Unit := do
  enter .data
  walk (fun escaped => do
    match ← peek with
    | none => return none
    | some c =>
      if escaped && (c = '\\' || c = '|') then
        step
        return some false
      else if isGap c || c = '|' then return none
      else
        step
        return some (c = '\\')) false
  exit .data

/-- Passes a bar. -/
def bar : Scan Unit := do
  enter .tableCellDivider
  consume
  exit .tableCellDivider
  next

/-- What was counted in a first row: its cells, and what it holds besides blanks, where a start
without a bar counts twice. -/
structure HeadCount where
  cells : Nat
  marks : Nat

/-- Notes whether a bar was the last thing seen. -/
def setSeen (b : Bool) : Scan Unit := modify fun s => { s with seen := b }

/-- Passes the first row of a table and hands over the number of its cells. -/
def headRow (k : Nat → Scan Unit) : Scan Unit := do
  enter .tableHead
  enter .tableRow
  indent
  require !(← atBlank)
  let barred := (← peek) = some '|'
  if !barred then setSeen true
  walk (fun n => do
    match ← peek with
    | none => setSeen false; fail
    | some '\n' =>
      if n.marks > 1 then
        modify fun s => { s with interrupt := true }
        exit .tableRow
        lineEnd
        k n.cells
        return none
      else
        setSeen false
        fail
    | some c =>
      if isSpace c then
        gap
        return some n
      else
        let seen ← asks State.seen
        setSeen false
        let n : HeadCount := ⟨if seen then n.cells + 1 else n.cells, n.marks + 1⟩
        if c = '|' then
          bar
          setSeen true
        else cellWord
        return some n) ⟨0, if barred then 0 else 1⟩

/-! ## The line of dashes -/

/-- Where in the line of dashes a scanner is. -/
inductive DashesAt where
  /-- Before a bar or the first cell. -/
  | before
  /-- Before a cell. -/
  | value
  /-- After a cell. -/
  | after

/-- Passes one cell of the line of dashes, or a bar. The number is that of the cells so far, and
the flag tells whether anything but dashes was seen. -/
def dashesStep (cells : Nat) :
    DashesAt × Nat × Bool → Scan (Option (DashesAt × Nat × Bool))
  | (.before, n, marked) => do
    match ← peek with
    | some '|' =>
      bar
      optionalGap
      return some (.value, n, true)
    | some c =>
      require (c = '-' || c = ':')
      return some (.value, n, marked)
    | none => fail
  | (.value, n, marked) => do
    if ← atEnd then return some (.after, n, marked)
    else
      let left := (← peek) = some ':'
      if left then
        enter .tableDelimiterMarker
        consume
        exit .tableDelimiterMarker
        next
      require ((← peek) = some '-')
      enter .tableDelimiterFiller
      passWhile (· = '-')
      exit .tableDelimiterFiller
      let right := (← peek) = some ':'
      if right then
        enter .tableDelimiterMarker
        consume
        exit .tableDelimiterMarker
        next
      optionalGap
      return some (.after, n + 1, marked || left || right)
  | (.after, n, marked) => do
    if (← peek) = some '|' then return some (.before, n, marked)
    else
      require ((← atEnd) && marked && n = cells)
      exit .tableDelimiterRow
      exit .tableHead
      return none

/-- Passes the line of dashes under a first row. -/
def dashes (cells : Nat) : Scan Unit := do
  modify fun s => { s with interrupt := false }
  require !(← asks fun s => s.lazy || s.pierce)
  setSeen false
  enter .tableDelimiterRow
  indent
  walk (dashesStep cells) (.before, 0, false)

/-! ## Lines of a table -/

/-- Passes a further row. -/
def bodyRow : Scan Unit := do
  require !(← asks State.lazy)
  enter .tableRow
  optionalGap
  walk (fun () => do
    if ← atEnd then
      exit .tableRow
      return none
    else if ← atBlank then gap
    else if (← peek) = some '|' then bar
    else cellWord
    return some ()) ()

/-- Passes a further row, or the first row with the line under it. -/
def tableLine : Scan Unit := do
  let (pierce, last) ← asks fun s => (s.pierce, s.events.tail? [.lineEnding, .spaceOrTab])
  if !pierce && (last = some .tableHead || last = some .tableRow) then bodyRow
  else headRow dashes

end Scan

/-! ## Cells -/

/-- Whether a row is the first, the line of dashes, or a further one. -/
inductive RowKind where
  | head
  | dashes
  | body
  deriving DecidableEq

/-- A cell among the events: where the cell before it ends, where it starts, and the first and the
last event of its content. Zero stands for none. -/
structure CellSpan where
  close : Nat
  start : Nat
  first : Nat
  last : Nat

/-- The state of the search for cells. -/
structure Cells where
  /-- Whether a bar would belong to the first cell. -/
  awaitsBar : Bool
  row : Option RowKind
  before : CellSpan
  cell : CellSpan
  /-- Whether the next row is the first after the head. -/
  afterHead : Bool
  tableEnd : Nat
  hasBody : Bool
  events : Events
  edits : Edits

namespace Cells

/-- No cell. -/
def noCell : CellSpan := ⟨0, 0, 0, 0⟩

/-- Puts events at an index. -/
def put (r : Cells) (i remove : Nat) (insert : Events) : Cells :=
  { r with edits := r.edits.add i remove insert }

/-- Ends the table before. -/
def closeTable (r : Cells) : Cells :=
  if r.tableEnd = 0 then r
  else
    let p := r.events.place r.tableEnd
    let exits : Events := (if r.hasBody then #[.exit .tableBody p] else #[]).push (.exit .table p)
    { r.put (r.tableEnd + 1) 0 exits with hasBody := false, tableEnd := 0 }

/-- Puts the events of a cell around its content; at the end of a row, also its end. -/
def closeCell (r : Cells) (span : CellSpan) (row : RowKind) (rowEnd : Option Nat) : Cells :=
  let es := r.events
  let (group, value) : Part × Part := if row = .dashes
    then (.tableDelimiterCell, .tableDelimiterCellValue) else (.tableCell, .tableCellText)
  let r := if span.close = 0 then r
    else r.put span.close 0 #[.exit group (es.place span.close)]
  let r := r.put span.start 0 #[.enter group (es.place span.start)]
  let r := if span.first = 0 then r
    else
      let r := r.put span.first 0 #[.enter value (es.place span.first)]
      let r := if row = .dashes then r
        else
          let r := { r with events := r.events.setLink span.first (some ⟨.text, true⟩) }
          if span.last > span.first + 1 then
            r.put (span.first + 1) (span.last - span.first - 1) #[]
          else r
      r.put (span.last + 1) 0 #[.exit value (es.place span.last)]
  match rowEnd with
  | none => r
  | some i => r.put i 0 #[.exit group (es.place i)]

/-- Ends the cell before the one at hand, if it is still open. -/
def closeBefore (r : Cells) (row : RowKind) (rowEnd : Option Nat) : Cells :=
  if r.before.start = 0 then r
  else ({ r with cell.close := r.cell.start }).closeCell r.before row rowEnd

/-- Whether a part is content of a cell. -/
def isContent (p : Part) : Bool :=
  p = .data || p = .tableDelimiterMarker || p = .tableDelimiterFiller

/-- Whether a part is a row. -/
def isRow (p : Part) : Bool := p = .tableRow || p = .tableDelimiterRow

/-- Takes in the start of a part. -/
def open_ (r : Cells) (i : Nat) (part : Part) : Cells :=
  if part = .tableHead then
    let r := { r.closeTable with afterHead := false }
    r.put i 0 #[.enter .table (r.events.place i)]
  else if isRow part then
    let r := { r with awaitsBar := true, before := noCell, cell := ⟨0, i + 1, 0, 0⟩ }
    let r := if r.afterHead then
      { r.put i 0 #[.enter .tableBody (r.events.place i)] with afterHead := false, hasBody := true }
      else r
    { r with row := some (if part = .tableDelimiterRow then .dashes
        else if r.hasBody then .body else .head) }
  else match r.row with
    | none => r
    | some row =>
      if isContent part then
        let r := { r with awaitsBar := false }
        if r.cell.first = 0 then
          let r := { r.closeBefore row none with before := noCell }
          { r with cell.first := i }
        else r
      else if part = .tableCellDivider then
        if r.awaitsBar then { r with awaitsBar := false }
        else
          let r := r.closeBefore row none
          { r with before := r.cell, cell := ⟨r.cell.start, i, 0, 0⟩ }
      else r

/-- Takes in the end of a part. -/
def close (r : Cells) (i : Nat) (part : Part) : Cells :=
  if part = .tableHead then { r with afterHead := true, tableEnd := i }
  else if isRow part then
    let r := { r with tableEnd := i }
    let r := match r.row with
      | none => r
      | some row =>
        if r.before.start ≠ 0 then r.closeBefore row (some i)
        else if r.cell.start ≠ 0 then r.closeCell r.cell row (some i) else r
    { r with row := none }
  else if r.row.isSome && isContent part then { r with cell.last := i }
  else r

/-- Takes in the event at an index. -/
def step (r : Cells) (i : Nat) : Cells :=
  let part := r.events.part i
  if r.events.opens i then r.open_ i part else r.close i part

end Cells

/-- The events with the tables and their cells. -/
def tables (es : Events) : Events :=
  let start : Cells :=
    ⟨true, none, Cells.noCell, Cells.noCell, false, 0, false, es, .none es⟩
  let r := ((List.range es.size).foldl Cells.step start).closeTable
  r.edits.apply r.events

/-- How the cells of a column are set. -/
inductive Align where
  | none
  | left
  | right
  | center
  deriving DecidableEq

/-- The word for the setting of a column. -/
def Align.name : Align → Text
  | .none => []
  | .left => "left".toList
  | .right => "right".toList
  | .center => "center".toList

/-- The settings of the columns of the table that opens at an index. -/
def columnsFrom (es : Events) : Nat → Nat → List Align → List Align
  | 0, _, as => as.reverse
  | fuel + 1, i, as =>
    match es.part i with
    | .tableDelimiterRow => if es.opens i then columnsFrom es fuel (i + 1) as else as.reverse
    | .tableDelimiterCellValue =>
      if es.opens i then
        let a := if es.part (i + 1) = .tableDelimiterMarker then Align.left else .none
        columnsFrom es fuel (i + 1) (a :: as)
      else if es.part (i - 1) = .tableDelimiterMarker then
        match as with
        | .left :: rest => columnsFrom es fuel (i + 1) (.center :: rest)
        | _ :: rest => columnsFrom es fuel (i + 1) (.right :: rest)
        | [] => columnsFrom es fuel (i + 1) []
      else columnsFrom es fuel (i + 1) as
    | _ => columnsFrom es fuel (i + 1) as

/-- The settings of the columns of the table that opens at an index. -/
def columns (es : Events) (i : Nat) : List Align := columnsFrom es (es.size - i) i []

end Marginalia.Markdown
