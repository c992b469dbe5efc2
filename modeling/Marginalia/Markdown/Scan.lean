import Marginalia.Markdown.Event

/-!
# Scanning

A scanner walks over a document one character at a time and tells what it finds as events. It is
given the document in stretches: at the end of a stretch it pauses, and it goes on when it is given
more, or when it is told that there is no more. What stands between two stretches, such as the
signs of quotes, is passed over.

1. How a character is read (`Reader`): a tab is read as a tab and as blanks up to its stop, and
   each way to end a line as a line feed.
2. The state of a scanner, and moving it over the document.
3. The steps of a scanner (`Scan`): it is done, it fails, or it pauses. A trial (`attempt`,
   `check`) that fails leaves the scanner where it was.
4. Scanners (`Scanner`) that are given stretches.
-/

namespace Marginalia.Markdown

/-! ## Reading a character -/

/-- How the character at a place is read. -/
inductive Glance where
  /-- It is passed unread: it ends a line together with the next one. -/
  | silent
  /-- It is read and stays, for more columns of it follow. -/
  | partly (c : Char)
  /-- It is read and passed. -/
  | wholly (c : Char) (octets : Nat)

/-- How the character at a place of `source` is read. -/
def glance (source : Array Char) (p : Place) : Glance :=
  match source[p.index]? with
  | none => .wholly '\n' 1
  | some '\r' =>
    if source[p.index + 1]? = some '\n' then .silent else .wholly '\n' 1
  | some '\t' =>
    let c := if p.ahead = 0 then '\t' else ' '
    if p.column % tabSize = 0 then .wholly c 1 else .partly c
  | some c => .wholly c c.utf8Size

/-- A place moved back over characters that are passed unread. -/
def retreat (source : Array Char) (p : Place) : Place :=
  if p.index > 0 && source[p.index - 1]? = some '\r' && source[p.index]? = some '\n' then
    { p with index := p.index - 1 }
  else p

/-! ## The state of a scanner -/

/-- What opens a label in running text. -/
inductive LabelKind where
  | image
  | link
  | footnote
  /-- What looked like the call of a footnote that is not defined. -/
  | caret
  deriving DecidableEq

/-- An opened label: the indices of the events around its sign. -/
structure LabelStart where
  kind : LabelKind
  start : Nat
  stop : Nat
  /-- Whether a link cannot start here any more, as it would hold another. -/
  inactive : Bool

/-- A label with what follows it: the indices of the events around its start and its end. -/
structure LabelFound where
  kind : LabelKind
  start : Nat × Nat
  stop : Nat × Nat

/-- What is defined in a document. -/
structure Glossary where
  definitions : List Text
  footnotes : List Text

/-- The state of a scanner. -/
structure State where
  source : Array Char
  glossary : Glossary
  place : Place
  previous : Option Char
  current : Option Char
  /-- The end of the stretch that was given. -/
  limit : Nat × Nat
  /-- Whether there is no more after it. -/
  final : Bool
  events : Events
  /-- The parts that are open, innermost first. -/
  stack : List Part
  firstLine : Nat
  lineStart : Place
  /-- Where each line starts, as far as it is known. -/
  lineStarts : Array (Nat × Nat)
  /-- Whether what comes next would interrupt a paragraph. -/
  interrupt : Bool
  /-- Whether no container can start within what is being read. -/
  concrete : Bool
  /-- Whether the line lacks the signs of some containers. -/
  lazy : Bool
  /-- Whether a container starts on the line. -/
  pierce : Bool
  /-- Whether a bar was the last thing in the head of a table, or a tag is a closing one. -/
  seen : Bool
  /-- Whether a box may stand at the start of the text. -/
  mayTick : Bool
  labelStarts : List LabelStart
  looseStarts : List LabelStart
  labels : List LabelFound
  /-- What the scanner found to be defined. -/
  defined : List Text

namespace State

/-- A scanner that has not read anything. -/
def start (source : Array Char) (glossary : Glossary) (p : Place) : State :=
  { source := source, glossary := glossary, place := p, previous := none, current := none,
    limit := (p.index, p.ahead), final := false, events := #[], stack := [], firstLine := p.line,
    lineStart := p, lineStarts := #[(p.index, p.ahead)], interrupt := false, concrete := false,
    lazy := false, pierce := false, seen := false, mayTick := false, labelStarts := [],
    looseStarts := [], labels := [], defined := [] }

/-- Passes one column. At the end of a line only the start of the next one is noted. -/
def passOne (s : State) : State :=
  match glance s.source s.place with
  | .silent => { s with place.index := s.place.index + 1 }
  | .partly c =>
    { s with previous := some c, place.column := s.place.column + 1,
             place.ahead := s.place.ahead + 1 }
  | .wholly c n =>
    let next := s.place.index + 1
    if c = '\n' then
      let place : Place := ⟨s.place.line + 1, 1, next, 0⟩
      let starts := if place.line - s.firstLine + 1 > s.lineStarts.size then
        s.lineStarts.push (next, 0) else s.lineStarts
      { s with previous := some c, place := place, lineStart := place, lineStarts := starts }
    else
      { s with previous := some c, place := ⟨s.place.line, s.place.column + n, next, 0⟩ }

/-- Passes columns up to a place on the same line. -/
def passTo (index ahead : Nat) : Nat → State → State
  | 0, s => s
  | fuel + 1, s => if s.place.before index ahead then passTo index ahead fuel s.passOne else s

/-- A bound on the columns of a document. -/
def bound (s : State) : Nat := tabSize * s.source.size + 16

/-- Passes columns up to a place. -/
def moveTo (index ahead : Nat) (s : State) : State := passTo index ahead s.bound s

/-- At the start of a line, passes what the line starts with. -/
def passFront (s : State) : State :=
  if s.place.column = 1 then
    match s.lineStarts[s.place.line - s.firstLine]? with
    | some (index, ahead) => s.moveTo index ahead
    | none => s
  else s

/-- Passes one column, and at the end of a line what the next one starts with. -/
def pass (s : State) : State :=
  let s := s.passOne
  if s.place.column = 1 then s.passFront else s

/-- Notes that the line of a place starts there. -/
def startLineAt (p : Place) (s : State) : State :=
  let p := retreat s.source p
  let at_ := p.line - s.firstLine
  let start := (p.index, p.ahead)
  passFront { s with lineStarts :=
    if at_ < s.lineStarts.size then s.lineStarts.modify at_ fun _ => start
    else s.lineStarts.push start }

/-- Whether there is something to read, or known to be nothing. -/
def ready (s : State) : Bool := s.final || s.place.before s.limit.1 s.limit.2

/-- Reads the character at the place of the scanner. -/
def fetch (s : State) : State :=
  let s := match glance s.source s.place with
    | .silent => if s.place.before s.limit.1 s.limit.2 then s.passOne else s
    | _ => s
  if s.place.before s.limit.1 s.limit.2 then
    match glance s.source s.place with
    | .partly c => { s with current := some c }
    | .wholly c _ => { s with current := some c }
    | .silent => { s with current := none }
  else { s with current := none }

end State

/-! ## Steps -/

/-- How far a scanner got: it is done with a value, it fails, or it pauses for more. -/
inductive Step (α : Type) where
  | done (value : α) (s : State)
  | fail (s : State)
  | pause (s : State) (resume : State → Step α)

/-- What follows when the scanner is done. -/
def Step.bind {α β : Type} : Step α → (α → State → Step β) → Step β
  | .done a s, f => f a s
  | .fail s, _ => .fail s
  | .pause s k, f => .pause s fun s => (k s).bind f

/-- What a scanner does. -/
def Scan (α : Type) : Type := State → Step α

namespace Scan

instance : Monad Scan where
  pure a := fun s => .done a s
  bind x f := fun s => (x s).bind f

/-- Fails. -/
def fail {α : Type} : Scan α := fun s => Step.fail s

/-- Reads off the state. -/
def asks {α : Type} (f : State → α) : Scan α := fun s => .done (f s) s

/-- Changes the state. -/
def modify (f : State → State) : Scan Unit := fun s => .done () (f s)

/-- The character at hand, if any is left. -/
def peek : Scan (Option Char) := asks State.current

/-- Reads the next character. -/
def next : Scan Unit := fun s =>
  if s.ready then .done () s.fetch else .pause s fun s => .done () s.fetch

/-- Passes the character at hand. -/
def consume : Scan Unit := modify fun s =>
  let read := s.current
  { s.pass with previous := read }

/-- Passes the character at hand and reads the next one. -/
def step : Scan Unit := do
  consume
  next

/-- A part opens. -/
def enterLinked (part : Part) (link : Option Link) : Scan Unit := modify fun s =>
  let e : Event := ⟨true, part, retreat s.source s.place, link⟩
  { s with stack := part :: s.stack, events := s.events.push e }

/-- A part opens. -/
def enter (part : Part) : Scan Unit := enterLinked part none

/-- A part opens whose text is read later. -/
def enterRead (part : Part) (reading : Reading) (head : Bool) : Scan Unit :=
  enterLinked part (some ⟨reading, head⟩)

/-- A part closes. After the end of a line it closes where the next line starts. -/
def exit (part : Part) : Scan Unit := modify fun s =>
  let p := if s.previous = some '\n' then s.lineStart else retreat s.source s.place
  { s with stack := s.stack.tail, events := s.events.push (.exit part p) }

/-- Where a scanner can be put back to. -/
structure Mark where
  place : Place
  previous : Option Char
  current : Option Char
  events : Nat
  depth : Nat

/-- Where a scanner is. -/
def markOf (s : State) : Mark := ⟨s.place, s.previous, s.current, s.events.size, s.stack.length⟩

/-- Puts a scanner back. -/
def rewind (m : Mark) (s : State) : State :=
  { s with place := m.place, previous := m.previous, current := m.current,
           events := s.events.shrink m.events, stack := s.stack.drop (s.stack.length - m.depth) }

/-- The outcome of a trial; the scanner goes back if it failed, or in any case. -/
def settle (always : Bool) (m : Mark) : Step Unit → Step Bool
  | .done _ s => .done true (if always then rewind m s else s)
  | .fail s => .done false (rewind m s)
  | .pause s k => .pause s fun s => settle always m (k s)

/-- Tries something and tells whether it succeeded; otherwise the scanner stays where it was. -/
def attempt (x : Scan Unit) : Scan Bool := do
  let ok ← fun s => settle false (markOf s) (x s)
  next
  return ok

/-- Tells whether something would succeed. -/
def check (x : Scan Unit) : Scan Bool := do
  let ok ← fun s => settle true (markOf s) (x s)
  next
  return ok

/-- Tries something, and something else if it fails. -/
def orElse (x y : Scan Unit) : Scan Unit := do
  if !(← attempt x) then y

/-- Fails unless a condition holds. -/
def require (b : Bool) : Scan Unit := if b then pure () else fail

/-- Steps from one situation to the next until there is none. -/
def walkFrom {σ : Type} (f : σ → Scan (Option σ)) : Nat → σ → Scan Unit
  | 0, _ => fail
  | fuel + 1, x => do
    match ← f x with
    | none => pure ()
    | some y => walkFrom f fuel y

@[inherit_doc walkFrom]
def walk {σ : Type} (f : σ → Scan (Option σ)) (x : σ) : Scan Unit := fun s =>
  walkFrom f (4 * s.bound) x s

/-- Passes characters as long as `p` holds. -/
def passWhile (p : Char → Bool) : Scan Unit :=
  walk (fun () => do
    match ← peek with
    | some c => if p c then step; return some () else return none
    | none => return none) ()

/-- Passes a text, and fails if another one stands there. -/
def literal : Text → Scan Unit
  | [] => pure ()
  | c :: t => do
    require ((← peek) = some c)
    step
    literal t

/-- Whether the character at hand is a space or tab. -/
def atBlank : Scan Bool := asks fun s => (s.current.map isSpace).getD false

/-- Whether nothing is left on the line. -/
def atEnd : Scan Bool := asks fun s => s.current = none || s.current = some '\n'

/-- Passes at least `least` and at most `most` columns of spaces and tabs, as a part. -/
def blanksAs (part : Part) (least most : Nat) : Scan Unit := do
  if most > 0 && (← atBlank) then
    enter part
    walk (fun n => do
      if n < most && (← atBlank) then step; return some (n + 1)
      else
        exit part
        require (n ≥ least)
        return none) 0
  else require (least = 0)

/-- Passes at least `least` and at most `most` columns of spaces and tabs. -/
def blanks (least most : Nat) : Scan Unit := blanksAs .spaceOrTab least most

/-- Passes spaces and tabs, of which there is at least one. -/
def gap : Scan Unit := do
  blanks 1 (← asks State.bound)

/-- Passes spaces and tabs if there are any. -/
def optionalGap : Scan Unit := do
  if ← atBlank then gap

/-- Passes up to three columns of spaces and tabs. -/
def indent : Scan Unit := blanks 0 (tabSize - 1)

/-- Passes the end of a line as a part. -/
def lineEndAs (part : Part) : Scan Unit := do
  enter part
  consume
  exit part

/-- Passes the end of a line. -/
def lineEnd : Scan Unit := do
  lineEndAs .lineEnding
  next

/-- Passes spaces and tabs, and fails unless nothing else is on the line. -/
def blankLine : Scan Unit := do
  optionalGap
  require (← atEnd)

/-- Passes what is left on the line as a part. -/
def restOfLine (part : Part) : Scan Unit := do
  enter part
  passWhile (· ≠ '\n')
  exit part

/-- Passes the end of a line, and fails if the next one lacks the signs of a container. -/
def ownLine : Scan Unit := do
  require ((← peek) = some '\n')
  lineEnd
  require !(← asks State.lazy)

/-- Passes spaces, tabs and at most one end of a line, of which there is something. If they are
read later, tells whether they start a chain or belong to one. -/
def gapOverLine (reading : Option Reading) (head : Bool) : Scan Unit := do
  let link (head : Bool) := reading.map (⟨·, head⟩)
  let blank (head : Bool) : Scan Unit := do
    require (← atBlank)
    enterLinked .spaceOrTab (link head)
    passWhile isSpace
    exit .spaceOrTab
  let first ← attempt (blank head)
  if (← peek) = some '\n' then
    enterLinked .lineEnding (link (head && !first))
    consume
    exit .lineEnding
    next
    let _ ← attempt (blank false)
  else require first

end Scan

/-! ## Scanners in stretches -/

/-- A scanner and what it does next, unless it has ended. -/
structure Scanner where
  state : State
  rest : Option (State → Step Unit)

namespace Scanner

/-- A scanner before it is given anything. -/
def start (x : Scan Unit) (s : State) : Scanner := ⟨s, some fun s => (do Scan.next; x : Scan Unit) s⟩

/-- Goes on, if there is something to go on with. -/
def run (m : Scanner) : Scanner :=
  match m.rest with
  | none => m
  | some k =>
    if m.state.ready then
      match k m.state with
      | .done _ s => ⟨s, none⟩
      | .fail s => ⟨s, none⟩
      | .pause s k => ⟨s, some k⟩
    else m

/-- Gives a scanner the stretch from one place to another. -/
def feed (start stop : Nat × Nat) (m : Scanner) : Scanner :=
  run { m with state := { m.state.moveTo start.1 start.2 with limit := stop, final := false } }

/-- Tells a scanner that there is no more. -/
def finish (m : Scanner) : Scanner :=
  run { m with state :=
    { m.state with limit := (m.state.place.index, m.state.place.ahead), final := true } }

end Scanner

end Marginalia.Markdown
