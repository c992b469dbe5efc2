import Marginalia.Markdown.Scan

/-!
# Emphasis

Runs of `*`, `_` and `~` open and close emphasis. What a run can do depends on the characters
beside it. Each run that can close is matched with the nearest run before it that can open, within
the same link or image; what is left over of the runs is plain text.
-/

namespace Marginalia.Markdown

/-- Passes a run of signs. -/
def Scan.attention : Scan Unit := do
  let c := (← peek).getD ' '
  enter .attentionSequence
  passWhile (· = c)
  exit .attentionSequence

/-- A run of signs. -/
structure Run where
  sign : Char
  /-- The index of its first event. -/
  index : Nat
  /-- The parts around it, as the indices of their first events. -/
  around : List Nat
  start : Place
  stop : Place
  size : Nat
  opens : Bool
  closes : Bool

namespace Run

/-- Whether a character is a sign of emphasis. -/
def isSign (c : Option Char) : Bool := c = some '*' || c = some '_' || c = some '~'

/-- The run at an index of the events. -/
def ofEvents (source : Array Char) (es : Events) (around : List Nat) (i : Nat) : Run :=
  let start := es.place i
  let stop := es.place (i + 1)
  let sign := source.getD start.index ' '
  let charBefore := if start.index = 0 then none else source[start.index - 1]?
  let charAfter := source[stop.index]?
  let before := kindOf charBefore
  let after := kindOf charAfter
  let opens := after = .other || (after = .punctuation && before ≠ .other) ||
    (sign ≠ '~' && isSign charAfter)
  let closes := before = .other || (before = .punctuation && after ≠ .other) ||
    (sign ≠ '~' && isSign charBefore)
  { sign := sign, index := i, around := around, start := start, stop := stop
    size := stop.index - start.index
    opens := if sign = '_' then opens && (before ≠ .other || !closes) else opens
    closes := if sign = '_' then closes && (after ≠ .other || !opens) else closes }

/-- Whether two runs can be matched. Where one of them could do both, their sizes must not add up
to a multiple of three. Runs of tildes must be alike. -/
def fits (opener closer : Run) : Bool :=
  opener.opens && opener.sign = closer.sign && opener.around = closer.around &&
    !((opener.closes || closer.opens) && closer.size % 3 ≠ 0 &&
      (opener.size + closer.size) % 3 = 0) &&
    !(closer.sign = '~' && (closer.size ≠ opener.size || closer.size > 2))

/-- The parts that a match makes. -/
def parts (sign : Char) (take : Nat) : Part × Part :=
  if sign = '~' then (.strikethrough, .strikethroughText)
  else if take = 1 then (.emphasis, .emphasisText) else (.strong, .strongText)

/-- A run without signs at its end. -/
def shorten (n : Nat) (r : Run) : Run :=
  { r with size := r.size - n, stop.index := r.stop.index - n, stop.column := r.stop.column - n }

/-- A run without signs at its start. -/
def advance (n : Nat) (r : Run) : Run :=
  { r with size := r.size - n, start.index := r.start.index + n, start.column := r.start.column + n }

end Run

/-- The state of matching: the runs before the place, the last first, the events, and the changes
to them. -/
structure Matching where
  before : List Run
  events : Events
  edits : Edits

/-- Matches two runs; what is left of them comes back. -/
def Matching.pair (m : Matching) (opener closer : Run) : Run × Run × Matching :=
  let take := if opener.size > 1 && closer.size > 1 then 2 else 1
  let (group, text) := Run.parts opener.sign take
  let shorter := opener.shorten take
  let later := closer.advance take
  let edits := m.edits.addBefore (opener.index + 2)
      #[.enter group shorter.stop, .enter text opener.stop]
    |>.add closer.index 0 #[.exit text closer.start, .exit group later.start]
  let (es, edits) := if later.size = 0 then (m.events, edits.add closer.index 2 #[])
    else (m.events.setPlace closer.index later.start, edits)
  let (es, edits) := if shorter.size = 0 then (es, edits.add opener.index 2 #[])
    else (es.setPlace (opener.index + 1) shorter.stop, edits)
  (shorter, later, { m with events := es, edits := edits })

/-- Matches a run that can close with runs before it, as long as something of it is left. -/
def Matching.close : Nat → Run → Matching → Matching
  | 0, run, m => { m with before := run :: m.before }
  | fuel + 1, run, m =>
    let between := m.before.takeWhile fun o => !(run.closes && o.fits run)
    match m.before.drop between.length with
    | [] => { m with before := run :: m.before }
    | opener :: rest =>
      let (shorter, later, m) := m.pair opener run
      let between := between.map fun r => { r with opens := false }
      let rest := if shorter.size = 0 then rest else shorter :: rest
      let m := { m with before := between ++ rest }
      if later.size = 0 then m else m.close fuel later

/-- The runs of signs from an index on, given the parts around it. -/
def runsFrom (source : Array Char) (es : Events) : Nat → Nat → List Nat → List Run
  | 0, _, _ => []
  | fuel + 1, i, around =>
    if i < es.size then
      if es.part i = .attentionSequence then
        if es.opens i then
          Run.ofEvents source es around i :: runsFrom source es fuel (i + 1) around
        else runsFrom source es fuel (i + 1) around
      else if es.opens i then runsFrom source es fuel (i + 1) (i :: around)
      else runsFrom source es fuel (i + 1) around.tail
    else []

/-- The events with emphasis. -/
def emphasis (source : Array Char) (es : Events) : Events :=
  let m := (runsFrom source es es.size 0 []).foldl (fun m run => m.close (run.size + 1) run)
    (⟨[], es, .none es⟩ : Matching)
  let es := m.before.foldl
    (fun es run => es.setPart run.index .data |>.setPart (run.index + 1) .data) m.events
  m.edits.apply es

end Marginalia.Markdown
