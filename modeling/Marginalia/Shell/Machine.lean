import Marginalia.Process
import Marginalia.Store
import Marginalia.Shell.Glob
import Marginalia.Shell.Reader
import Marginalia.Shell.Utility

/-!
# The shell between two commands

A shell keeps its variables and its arguments, where its descriptors lead, and the files that it
sees. What it reads comes from streams and what it writes goes to outputs, to files, or is captured
for another command. Time is counted, not spent: everything written carries its time, so that what
runs side by side can be put in order afterwards.
-/

namespace Marginalia.Shell

open Utf8 (Octets)

/-- Octets as characters of their numbers. -/
def ofOctets (octets : Octets) : Text := octets.map fun b => Char.ofNat b.toNat

/-- The octets that characters of their numbers stand for. -/
def toOctets (t : Text) : Octets := t.map fun c => UInt8.ofNat c.toNat

/-- Where a descriptor leads to. -/
inductive Channel where
  /-- The stream with a number, for reading. -/
  | stream (i : Nat)
  /-- Zeros without an end. -/
  | zeros
  | output
  | complaints
  /-- The captured text with a number, for writing. -/
  | capture (i : Nat)
  | file (p : Path)
  /-- Empty for reading, and whatever is written is lost. -/
  | nowhere
  /-- Nothing can be written any more. -/
  | full
  deriving DecidableEq

/-- A text to be read, and when all of it is there. -/
structure Stream where
  text : Text
  ready : Nat

/-- A variable. -/
structure Variable where
  value : Option Text
  exported : Bool
  fixed : Bool

/-- A command for whose end nobody waited. -/
structure Job where
  finish : Nat
  status : Nat
  /-- Whether somebody who reads what the shell writes waits for it too. -/
  holds : Bool

/-- A jump out of commands that run one after another. -/
inductive Jump where
  /-- Ends so many loops. -/
  | leave (loops : Nat)
  /-- Goes on with the next turn of a loop, after so many loops. -/
  | next (loops : Nat)
  /-- Ends a command that was given a name. -/
  | back
  deriving DecidableEq

/-- What the shell was told about itself. -/
structure Switches where
  /-- Ends as soon as a command fails. -/
  strict : Bool
  /-- Variables without a value are a mistake. -/
  wary : Bool
  /-- Tells every command before it runs. -/
  trace : Bool
  /-- Does not look for names of files. -/
  noGlob : Bool
  /-- Commands are read, but do not run. -/
  dry : Bool
  /-- A pipeline fails if one of its commands does. -/
  pipeFail : Bool
  deriving DecidableEq

/-- The shell between two commands. -/
structure Machine where
  /-- The name of the script. -/
  name : Text
  /-- The line of the command that runs. -/
  line : Nat
  /-- On whose behalf the shell complains, if it is not on its own. -/
  via : Text
  /-- Whether the shell is one with the larger language. -/
  extended : Bool
  bindings : List (Text × Variable)
  functions : List (Text × Command)
  arguments : List Text
  /-- The variables to be restored when the command that was given a name ends. -/
  locals : Option (List (Text × Option Variable))
  store : Store
  /-- The directory in which relative paths start. -/
  directory : Text
  channels : List (Nat × Channel)
  streams : Array Stream
  /-- What was captured, the last first. -/
  captures : Array (List Text)
  /-- What was written to both outputs and when, the last first. -/
  output : List (Nat × Text)
  complaints : List (Nat × Text)
  status : Nat
  /-- The status of the commands whose output became a part of the command that runs. -/
  outputStatus : Option Nat
  switches : Switches
  /-- Whether a failure is looked at by another command. -/
  tested : Bool
  /-- The time that has passed, in milliseconds. -/
  time : Nat
  /-- The time after which the shell is stopped. -/
  limit : Option Nat
  /-- The time until which others hold the outputs. -/
  held : Nat
  /-- What is done on signals; zero stands for the end. -/
  traps : List (Nat × Text)
  /-- Signals that were not seen to yet. -/
  pending : List Nat
  jobs : List Job
  /-- Where the reading of options is: the argument that comes next, and the place in the one before
  it, or zero if that one is done. -/
  optionPlace : Nat × Nat
  /-- The number of loops around the command. -/
  loops : Nat
  /-- The number of commands that were given a name around the command. -/
  depth : Nat
  jump : Option Jump
  /-- The end of this shell, and the end of the first one. -/
  ending : Option Ending
  killed : Option Nat
  /-- Whether the shell is a part of another one. -/
  isPart : Bool

/-- The number by which the first shell is known. -/
def processNumber : Nat := 1000

/-- A time that never comes. -/
def never : Nat := 1000000000000

namespace Machine

/-- A shell before its first command. -/
def start (name : Text) (arguments : List Text) (input : Text) (store : Store) : Machine :=
  { name, arguments, store
    line := 1, via := [], extended := false, bindings := [], functions := [], locals := none
    directory := [], channels := [(0, .stream 0), (1, .output), (2, .complaints)]
    streams := #[⟨input, 0⟩], captures := #[], output := [], complaints := []
    status := 0, outputStatus := none, switches := ⟨false, false, false, false, false, false⟩, tested := false
    time := 0, limit := none, held := 0, traps := [], pending := [], jobs := [], optionPlace := (1, 0)
    loops := 0, depth := 0, jump := none, ending := none, killed := none, isPart := false }

/-- Whether the commands that follow do not run. -/
def stops (m : Machine) : Bool := m.ending.isSome || m.jump.isSome

/-- Sets the status of the last command. -/
def done (status : Nat) (m : Machine) : Machine := { m with status := status }

/-- Ends the shell. -/
def finish (status : Nat) (m : Machine) : Machine :=
  { m with status := status, ending := m.ending <|> some (.status status) }

/-- Lets time pass. A shell that takes too long is stopped. -/
def pass (time : Nat) (m : Machine) : Machine :=
  let m := { m with time := m.time + time }
  match m.limit with
  | some limit => if limit < m.time then { m with ending := some (.signal 9) } else m
  | none => m

/-- Goes on forever. -/
def hang (m : Machine) : Machine :=
  { m.pass never with ending := some (.signal 9) }

/-- The text of a signal's ending as a status. -/
def statusOf : Ending → Nat
  | .status code => code
  | .signal number => 128 + number

/-! ## Descriptors -/

/-- Where a descriptor leads to. -/
def channel? (m : Machine) (d : Nat) : Option Channel := m.channels.lookup d

/-- Lets a descriptor lead somewhere, or nowhere at all. -/
def connect (d : Nat) (c : Option Channel) (m : Machine) : Machine :=
  let others := m.channels.filter (·.1 ≠ d)
  { m with channels := match c with
      | some c => (d, c) :: others
      | none => others }

/-- The path that a text of octets means here. -/
def path (m : Machine) (t : Text) : Path :=
  ⟨toOctets (if m.directory = [] || t.head? = some '/' || t = [] then t
    else m.directory ++ '/' :: t)⟩

/-- Adds to a file. -/
def appendTo (p : Path) (t : Text) (m : Machine) : Machine :=
  match m.store.read p with
  | .error _ => m
  | .ok before =>
    match m.store.write p (before ++ toOctets t) with
    | .error _ => m
    | .ok store => { m with store := store }

/-- Writes to a channel. -/
def write (c : Channel) (t : Text) (m : Machine) : Machine :=
  if t = [] then m
  else
    match c with
    | .output => { m with output := (m.time, t) :: m.output }
    | .complaints => { m with complaints := (m.time, t) :: m.complaints }
    | .capture i => { m with captures := m.captures.modify i (t :: ·) }
    | .file p => m.appendTo p t
    | .stream _ | .zeros | .nowhere | .full => m

/-- Writes to a descriptor. -/
def put (d : Nat) (t : Text) (m : Machine) : Machine :=
  match m.channel? d with
  | some c => m.write c t
  | none => m

/-- Why nothing can be written to a descriptor. -/
def blocked? (m : Machine) (d : Nat) : Option Text :=
  match m.channel? d with
  | none | some (.stream _) => some "Bad file descriptor".toList
  | some .full => some "No space left on device".toList
  | _ => none

/-- A stream of its own for a text. -/
def addStream (t : Text) (ready : Nat) (m : Machine) : Channel × Machine :=
  (.stream m.streams.size, { m with streams := m.streams.push ⟨t, ready⟩ })

/-- The text that can be read from a channel; `need` bounds it where there is no end. -/
def textOf (m : Machine) (c : Channel) (need : Nat) : Text :=
  match c with
  | .stream i => ((m.streams[i]?).map (·.text)).getD []
  | .zeros => List.replicate need (Char.ofNat 0)
  | .file p => ofOctets ((m.store.read p).toOption.getD [])
  | _ => []

/-- Leaves only a rest of what a channel holds. Whoever reads all of it waits until it is there. -/
def leave (c : Channel) (rest : Text) (m : Machine) : Machine :=
  match c with
  | .stream i =>
    let ready := ((m.streams[i]?).map (·.ready)).getD 0
    let m := { m with streams := m.streams.modify i fun s => { s with text := rest } }
    if rest = [] && m.time < ready then m.pass (ready - m.time) else m
  | _ => m

/-- Reads all that a descriptor leads to. -/
def readAll (d : Nat) (m : Machine) : Option Text × Machine :=
  match m.channel? d with
  | none => (none, m)
  | some .zeros => (some [], m.hang)
  | some c => (some (m.textOf c 0), m.leave c [])

/-- Complains about the command that runs. -/
def complain (t : Text) (m : Machine) : Machine :=
  let place := if m.extended then "line ".toList ++ Text.ofNat m.line else Text.ofNat m.line
  m.put 2 (m.name ++ ": ".toList ++ place ++ ": ".toList ++ m.via ++ t ++ ['\n'])

/-- Complains and ends the shell. -/
def fatal (t : Text) (m : Machine) : Machine := (m.complain t).finish 2

/-- Writes what a command wrote and said. -/
def deed (via : Text) (d : Deed) (m : Machine) : Machine :=
  let m := d.complaints.foldl (fun m t => m.put 2 (via ++ t ++ ['\n'])) m
  (m.put 1 d.text).done d.status

/-! ## Variables -/

/-- The value of a variable. -/
def bound? (m : Machine) (name : Text) : Option Text :=
  (m.bindings.lookup name).bind (·.value)

/-- The value of a parameter. -/
def value? (m : Machine) (name : Text) : Option Text :=
  match name with
  | ['#'] => some (Text.ofNat m.arguments.length)
  | ['?'] => some (Text.ofNat m.status)
  | ['$'] => some (Text.ofNat processNumber)
  | ['!'] =>
    if m.jobs = [] then none else some (Text.ofNat (processNumber + m.jobs.length))
  | ['-'] => some (if m.switches.strict then ['e'] else [])
  | ['0'] => some m.name
  | ['@'] | ['*'] => if m.arguments = [] then none else some ([' '].intercalate m.arguments)
  | c :: _ =>
    if c.isDigit then m.arguments[number name - 1]? else m.bound? name
  | [] => none

/-- The characters at which values are cut. -/
def separators (m : Machine) : Text :=
  match m.bindings.lookup "IFS".toList with
  | some v => v.value.getD [' ', '\t', '\n']
  | none => [' ', '\t', '\n']

/-- Sets a variable, if that is allowed. -/
def set (name value : Text) (m : Machine) : Machine :=
  match m.bindings.lookup name with
  | some v =>
    if v.fixed then m.fatal (name ++ ": is read only".toList)
    else
      { m with bindings := m.bindings.map fun b =>
          if b.1 = name then (name, { v with value := some value }) else b }
  | none => { m with bindings := (name, ⟨some value, false, false⟩) :: m.bindings }

/-- Changes what is known of a variable. -/
def declare (name : Text) (f : Variable → Variable) (m : Machine) : Machine :=
  let v := f ((m.bindings.lookup name).getD ⟨none, false, false⟩)
  { m with bindings := (name, v) :: m.bindings.filter (·.1 ≠ name) }

/-- Gives a variable back what it was before. -/
def restore (name : Text) (before : Option Variable) (m : Machine) : Machine :=
  let others := m.bindings.filter (·.1 ≠ name)
  { m with bindings := match before with
      | some v => (name, v) :: others
      | none => others }

/-! ## Parts of a shell -/

/-- The time until which commands that run aside hold the outputs. -/
def heldUntil (m : Machine) : Nat :=
  m.jobs.foldl (fun time job => if job.holds then max time job.finish else time) m.held

/-- The shell after a part of it ran on its own: only what it did outside of itself stays. -/
def join (m inner : Machine) : Machine :=
  { m with
    store := inner.store, streams := inner.streams, captures := inner.captures
    output := inner.output, complaints := inner.complaints, time := inner.time
    held := inner.heldUntil, killed := inner.killed
    status := (inner.ending.map statusOf).getD inner.status
    ending := match inner.killed with
      | some n => some (.signal n)
      | none =>
        match m.limit with
        | some limit => if limit < inner.time then some (.signal 9) else m.ending
        | none => m.ending }

/-- A shell that is a part of this one. -/
def part (m : Machine) : Machine :=
  { m with isPart := true, traps := m.traps.filter (·.2 = []), jobs := [], loops := 0 }

/-- Ends the shell after a failure, if that is what it does. -/
def checked (m : Machine) : Machine :=
  if m.switches.strict && !m.tested && m.status ≠ 0 && !m.stops then m.finish m.status else m

/-! ## Signals -/

/-- Signals that a program does not notice unless it wants to. -/
def isIgnored (signal : Nat) : Bool := [0, 17, 18, 23, 28].contains signal

/-- Signals that hold a program up. -/
def isHolding (signal : Nat) : Bool := [19, 20, 21, 22].contains signal

/-- Sends a signal to the first shell. -/
def signal (n : Nat) (m : Machine) : Machine :=
  match if n = 9 || n = 19 then none else m.traps.lookup n with
  | some [] => m.done 0
  | some _ => { m.done 0 with pending := m.pending ++ [n] }
  | none =>
    if isIgnored n then m.done 0
    else if isHolding n then m.hang
    else { m with killed := some n, ending := some (.signal n) }

end Machine

/-- The number of a signal, given by its number or by its name. -/
def signal? (t : Text) : Option Nat :=
  if t ≠ [] && t.all Char.isDigit then (if number t ≤ 64 then some (number t) else none)
  else
    let t := t.map Char.toUpper
    if t = "EXIT".toList then some 0
    else
      let names := Ending.signalNames.map String.toList
      let full := if (Text.after? "SIG".toList t).isSome then t else "SIG".toList ++ t
      (names.idxOf? full).map (· + 1)

/-! ## Fields -/

/-- A part of an expanded word. -/
inductive Piece where
  /-- A character, whether it stands for itself, and whether values are cut at it. -/
  | glyph (c : Char) (literal cuts : Bool)
  /-- A field begins here, even if it stays empty. -/
  | start
  /-- The field ends here and another one begins. -/
  | cut
  /-- A field that was begun ends here. -/
  | gap

/-- Characters that stand for themselves. -/
def quotedPieces (t : Text) : List Piece := .start :: t.map (.glyph · true false)

/-- Characters of a value that may be cut. -/
def loosePieces (t : Text) : List Piece := t.map (.glyph · false true)

/-- Fields while they are collected. -/
structure Fields where
  /-- Those that are complete, last first. -/
  complete : List (List Glyph)
  /-- The one begun, last character first. -/
  begun : Option (List Glyph)
  /-- Whether a blank ended the last field, so that another separator adds no field. -/
  afterBlank : Bool

namespace Fields

/-- Completes the field begun. -/
def close (f : Fields) : Fields :=
  match f.begun with
  | none => f
  | some g => { f with complete := g.reverse :: f.complete, begun := none }

/-- Adds a part of a word. -/
def add (separators : Text) (f : Fields) : Piece → Fields
  | .start => { f with begun := some (f.begun.getD []) }
  | .cut => { f.close with begun := some [] }
  | .gap => { f.close with afterBlank := true }
  | .glyph c literal cuts =>
    if cuts && separators.contains c then
      if c = ' ' || c = '\t' || c = '\n' then
        if f.begun.isSome then { f.close with afterBlank := true } else f
      else if f.begun.isSome then { f.close with afterBlank := false }
      else if f.afterBlank then { f with afterBlank := false }
      else { f with complete := [] :: f.complete }
    else { f with begun := some ((c, literal) :: f.begun.getD []) }

end Fields

/-- The fields of an expanded word. -/
def fieldsOf (separators : Text) (ps : List Piece) : List (List Glyph) :=
  (ps.foldl (fun f p => f.add separators p) (⟨[], none, false⟩ : Fields)).close.complete.reverse

/-- The glyphs of an expanded word that is not cut. -/
def wholeOf (ps : List Piece) : List Glyph :=
  ps.flatMap fun
    | .glyph c literal _ => [(c, literal)]
    | .cut | .gap => [(' ', true)]
    | .start => []

/-! ## Names of files -/

namespace Machine

/-- The names in a directory, in order. -/
def namesIn (m : Machine) (dir : Text) : List Text :=
  match m.store.resolve (m.path (if dir = [] then ['.'] else dir)) with
  | .ok (loc, .directory) =>
    let names := m.store.entries.filterMap fun (l, _) =>
      if l.length = loc.length + 1 && l.dropLast = loc then
        l.getLast?.map ofOctets
      else none
    names.mergeSort fun a b => (a.compare b).isLE
  | _ => []

/-- The paths that glyphs between slashes fit, after what is known of the path. -/
def globFrom (m : Machine) : List (List Glyph) → Text → List Text
  | [], found => [found]
  | gs :: more, found =>
    if gs = [] then m.globFrom more (if more = [] then found else found ++ ['/'])
    else
      let at' (name : Text) : List Text :=
        let p := found ++ name
        let isDirectory := m.store.isDirectory (m.path p)
        if more = [] then [p] else if isDirectory then m.globFrom more (p ++ ['/']) else []
      if isGlob gs then
        let hidden := (plain gs).head? = some '.'
        ((m.namesIn found).filter fun n =>
          (hidden || n.head? ≠ some '.') && globFits gs n).flatMap at'
      else if (m.store.resolve (m.path (found ++ plain gs))).toOption.isSome then at' (plain gs)
      else []

/-- The texts that a field stands for. -/
def globbed (m : Machine) (gs : List Glyph) : List Text :=
  if m.switches.noGlob || !isGlob gs then [plain gs]
  else
    let parts := gs.splitOnP fun g => g.1 = '/'
    match m.globFrom parts [] with
    | [] => [plain gs]
    | found => found

end Machine

/-! ## Redirections -/

/-- The system's words for a refusal. -/
def causeText : SystemError → Text
  | .code n => (SystemError.words n).toList
  | .note t => t

namespace Machine

/-- The channel of a device, if a path is one. -/
def device? (m : Machine) (t : Text) : Option (Option Channel) :=
  match String.ofList t with
  | "/dev/null" => some (some .nowhere)
  | "/dev/zero" => some (some .zeros)
  | "/dev/full" => some (some .full)
  | "/dev/stdin" | "/dev/fd/0" | "/proc/self/fd/0" => some (m.channel? 0)
  | "/dev/stdout" | "/dev/fd/1" | "/proc/self/fd/1" => some (m.channel? 1)
  | "/dev/stderr" | "/dev/fd/2" | "/proc/self/fd/2" => some (m.channel? 2)
  | _ => none

/-- Opens a file for reading. -/
def openToRead (t : Text) (m : Machine) : Except SystemError (Channel × Machine) :=
  match m.device? t with
  | some (some c) => .ok (c, m)
  | some none => .error .notFound
  | none =>
    match m.store.resolve (m.path t) with
    | .error cause => .error cause
    | .ok (_, .directory) => .ok (.nowhere, m)
    | .ok (_, .file contents _) => .ok (m.addStream (ofOctets contents) 0)

/-- Opens a file for writing. What it holds is dropped, unless it is to be kept. -/
def openToWrite (t : Text) (keep : Bool) (m : Machine) : Except SystemError (Channel × Machine) :=
  match m.device? t with
  | some (some c) => .ok (c, m)
  | some none => .error .notFound
  | none =>
    let p := m.path t
    match m.store.read p with
    | .ok before => do
      let store ← m.store.write p (if keep then before else [])
      return (.file p, { m with store := store })
    | .error _ => do
      let store ← m.store.write p []
      return (.file p, { m with store := store })

/-- Whether a text names a descriptor. -/
def isDescriptor (t : Text) : Bool := t.length = 1 && t.all Char.isDigit

/-- Applies a redirection whose word is known, or says why that is not possible. -/
def redirect (d : Nat) (target : Target) (t : Text) (m : Machine) : Except Text Machine :=
  let opened (verb : String) (r : Except SystemError (Channel × Machine)) :
      Except Text (Channel × Machine) :=
    r.mapError fun cause =>
      let words :=
        if verb = "open" && (cause = .notFound || cause = .notDirectory) then "No such file".toList
        else if verb = "create" && cause = .notFound then "Directory nonexistent".toList
        else causeText cause
      if m.extended then t ++ ": ".toList ++ causeText cause
      else "cannot ".toList ++ verb.toList ++ [' '] ++ t ++ ": ".toList ++ words
  match target with
  | .here =>
    let (c, m) := m.addStream t 0
    .ok (m.connect d (some c))
  | .copy =>
    if t = ['-'] then .ok (m.connect d none)
    else if isDescriptor t then
      match m.channel? (number t) with
      | some c => .ok (m.connect d (some c))
      | none => .error (t ++ ": Bad file descriptor".toList)
    else do
      let (c, m) ← opened "create" (m.openToWrite t false)
      return (m.connect d (some c)).connect 2 (some c)
  | .read => do
    let (c, m) ← opened "open" (m.openToRead t)
    return m.connect d (some c)
  | .write => do
    let (c, m) ← opened "create" (m.openToWrite t false)
    return m.connect d (some c)
  | .append | .readWrite => do
    let (c, m) ← opened "create" (m.openToWrite t true)
    return m.connect d (some c)
  | .writeBoth => do
    let (c, m) ← opened "create" (m.openToWrite t false)
    return (m.connect d (some c)).connect 2 (some c)

end Machine

end Marginalia.Shell
