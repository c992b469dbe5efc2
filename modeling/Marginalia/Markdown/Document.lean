import Marginalia.Markdown.Container
import Marginalia.Markdown.Flow

/-!
# The lines of a document

A document is read line by line. The open containers that a line goes on with are passed first,
then containers that start on it, and the rest of the line is given to the scanner of blocks. A
line that lacks the signs of some containers still belongs to them if it goes on with a paragraph
in them; otherwise they are closed.

The events of the containers and those of the blocks are told apart at first. At the end they are
put together (`Outline.join`): each line of the document has a place for the events of its blocks.
-/

namespace Marginalia.Markdown

/-! ## Putting events into stretches -/

/-- The indices of the stretches of a chain of `reading` after index `i`. -/
def chainFrom (es : Events) (reading : Reading) : Nat → Nat → List Nat
  | 0, _ => []
  | fuel + 1, i =>
    if i < es.size then
      match (es.getD i default).link with
      | some l =>
        if l.reading = reading then
          if l.head then [] else i :: chainFrom es reading fuel (i + 1)
        else chainFrom es reading fuel (i + 1)
      | none => chainFrom es reading fuel (i + 1)
    else []

/-- The indices of the stretches of a chain that starts at an index. -/
def chain (es : Events) (reading : Reading) (i : Nat) : List Nat :=
  i :: chainFrom es reading (es.size - i) (i + 1)

/-- Divides events over stretches, given with their ends: an event that starts after the end of a
stretch goes to the next one. Stretches without events are left out. -/
def divide : List (Nat × Place) → Events → List Event → List (Nat × Events)
  | [], _, _ => []
  | (i, _) :: _, out, [] => if out.isEmpty then [] else [(i, out)]
  | [(i, _)], out, e :: es => [(i, out ++ (e :: es).toArray)]
  | (i, stop) :: next :: more, out, e :: es =>
    if e.place.index > stop.index || (e.place.index = stop.index && e.place.ahead > stop.ahead) then
      (i, out) :: divide (next :: more) #[e] es
    else divide ((i, stop) :: next :: more) (out.push e) es

/-- Puts events in place of the stretches of a chain. A stretch that gets none is not read again. -/
def fill (es : Events) (m : Edits) (chain : List Nat) (inner : Events) : Events × Edits :=
  let parts := divide (chain.map fun i => (i, es.place (i + 1))) #[] inner.toList
  ((chain.drop parts.length).foldl (fun es i => es.setLink i none) es,
    parts.foldl (fun m part => m.add part.1 2 part.2) m)

/-! ## Lines -/

/-- The state of reading a document. -/
structure Outline where
  /-- The scanner of containers. -/
  state : State
  /-- The scanner of blocks. -/
  blocks : Scanner
  /-- The open containers, outermost first. -/
  containers : Array Container
  /-- How many of them the line goes on with. -/
  continued : Nat
  /-- The containers that are closed with each line. -/
  exits : Array (Array Part)
  /-- Whether some line was given to the scanner of blocks. -/
  begun : Bool
  /-- Whether the line before could be gone on with lazily. -/
  lazyBefore : Bool

namespace Outline

/-- A document of which nothing was read. -/
def start (source : Array Char) : Outline :=
  let s := State.start source ⟨[], []⟩ ⟨1, 1, 0, 0⟩
  { state := { s with limit := (source.size, 0), final := true }.fetch
    blocks := .start .flow s, containers := #[], continued := 0, exits := #[], begun := false,
    lazyBefore := false }

/-- Tries something at the place of a document. -/
def trial {α : Type} (x : Scan α) (o : Outline) : Option α × Outline :=
  let m := Scan.markOf o.state
  match x o.state with
  | .done a s => (some a, { o with state := s.fetch })
  | .fail s => (none, { o with state := Scan.rewind m s })
  | .pause s _ => (none, { o with state := Scan.rewind m s })

/-- Passes what stands before the first line. -/
def bom (o : Outline) : Outline :=
  (o.trial (do
    Scan.require ((← Scan.peek) = some (Char.ofNat 0xFEFF))
    Scan.enter .byteOrderMark
    Scan.consume
    Scan.exit .byteOrderMark)).2

/-- When containers are closed: where others start, after a line, or at the end. -/
inductive Phase where
  | start
  | after
  | final
  deriving DecidableEq

/-- Closes the containers that the line does not go on with. -/
def close (phase : Phase) (o : Outline) : Outline :=
  let closed := (o.containers.extract o.continued o.containers.size).toList.reverse
  let blocks := if phase = .after then o.blocks else .start .flow o.blocks.finish.state
  let line := o.exits.size - (if phase = .after then 2 else 1)
  { o with
    containers := o.containers.extract 0 o.continued
    blocks := { blocks with state := { blocks.state with interrupt := false } }
    exits := o.exits.modify line (· ++ (closed.map fun c => c.kind.part).toArray) }

/-- Passes what the line starts with for the open containers, as far as it goes on with them. -/
def goOn : Nat → Outline → Outline
  | 0, o => o
  | fuel + 1, o =>
    match o.containers[o.continued]? with
    | none => o
    | some c =>
      match o.trial (Scan.further c) with
      | (some c, o) =>
        goOn fuel { o with containers := o.containers.modify o.continued fun _ => c,
                           continued := o.continued + 1 }
      | (none, o) => o

/-- Tries something, and something else if it fails. -/
def firstOf {α : Type} : List (Scan α) → Outline → Option α × Outline
  | [], o => (none, o)
  | x :: xs, o =>
    match o.trial x with
    | (some a, o) => (some a, o)
    | (none, o) => firstOf xs o

/-- Passes the starts of containers. -/
def startContainers : Nat → Outline → Outline
  | 0, o => o
  | fuel + 1, o =>
    let whole := o.continued = o.containers.size
    let o := if whole then
      { o with state := { o.state with interrupt := o.blocks.state.interrupt } } else o
    if whole && o.blocks.state.concrete then o
    else
      match o.firstOf [Scan.quoteStart, Scan.itemStart, Scan.footnoteStart] with
      | (none, o) => o
      | (some c, o) =>
        let o := if o.continued = o.containers.size then o else o.close .start
        startContainers fuel
          { o with containers := o.containers.push c, continued := o.continued + 1,
                   blocks.state.pierce := true }

/-- Gives the rest of the line a place among the events. -/
def passRest (o : Outline) : Outline :=
  if o.state.current = none then o
  else
    let o := (o.trial (do
      Scan.enterRead .data .flow (!o.begun)
      Scan.passWhile (· ≠ '\n')
      if (← Scan.peek) = some '\n' then Scan.consume
      Scan.exit .data)).2
    { o with begun := true }

/-- Whether the blocks so far end with something that a lazy line may go on with. -/
def endsLazily (s : State) : Bool :=
  s.stack.any (fun p => p = .content || p = .tableHead) ||
    let last := s.events.tail? [.lineEnding]
    last = some .content || last = some .headingSetextUnderline

/-- Gives the rest of the line to the scanner of blocks. -/
def giveRest (o : Outline) : Outline :=
  let b := o.blocks.state
  let b := State.startLineAt o.state.place
    { b with lazy := o.continued ≠ o.containers.size }
  let o := { o with blocks.state := b }.passRest
  let p := o.state.place
  let b := o.blocks.feed (o.blocks.state.place.index, o.blocks.state.place.ahead) (p.index, p.ahead)
  let lazyNow := endsLazily b.state
  let o := { o with
    blocks := { b with state := { b.state with pierce := false } }
    exits := o.exits.push #[]
    continued :=
      if b.state.lazy && o.lazyBefore && lazyNow then o.containers.size else o.continued }
  let o := if o.continued = o.containers.size then o else o.close .after
  { o with continued := 0, lazyBefore := lazyNow }

/-- Reads the lines of a document. -/
def readLines : Nat → Outline → Outline
  | 0, o => o
  | fuel + 1, o =>
    let o := o.goOn (o.containers.size + 1)
    let o := (o.startContainers (o.state.source.size + 1)).giveRest
    if o.state.current = none then o.close .final
    else readLines fuel { o with state := { o.state with interrupt := false } }

/-! ## Putting the events together -/

/-- The end of the last of the events from `i` on that close a part. -/
def lastExit (es : Events) : Nat → Nat → Nat
  | 0, i => i
  | fuel + 1, i => if i + 1 < es.size && !es.opens (i + 1) then lastExit es fuel (i + 1) else i

/-- Closes containers with the lines of blocks, from the event `i` on; `line` lines were passed. -/
def putExits (o : Outline) (es : Events) : Nat → Nat → Nat → Edits → Edits × Nat
  | 0, _, line, m => (m, line)
  | fuel + 1, i, line, m =>
    if i < es.size then
      if !es.opens i && (es.part i = .lineEnding || es.part i = .blankLineEnding) then
        let last := lastExit es es.size i
        let (at_, place) := if last = i then (i - 1, es.place (i - 1))
          else (last + 1, es.place last)
        let exits := (o.exits.getD line #[]).map fun part => Event.exit part place
        putExits o es fuel (last + 1) (line + 1) (m.add at_ 0 exits)
      else putExits o es fuel (i + 1) line m
    else (m, line)

/-- The events of containers and blocks in their order. -/
def join (o : Outline) : Events :=
  let es := o.blocks.state.events
  let (m, line) := o.putExits es (es.size + 1) 0 0 (.none es)
  let inner := m.apply es
  let outer := o.state.events
  let stretches := ((outer.findIdx? fun e => e.link.isSome).map (chain outer .flow)).getD []
  let (outer, edits) := fill outer (.none outer) stretches inner
  edits.apply outer ++ (o.exits.getD line #[]).map fun part => Event.exit part o.state.place

end Outline

/-- The events of the lines of a document, and the labels of its footnotes. -/
def outline (source : Array Char) : Events × List Text :=
  let o := (Outline.start source).bom.readLines (source.size + 2)
  (lists source o.join, o.state.defined)

end Marginalia.Markdown
