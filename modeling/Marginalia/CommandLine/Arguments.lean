import Marginalia.Path
import Marginalia.Config.Datum
import Marginalia.CommandLine.Refusal

/-!
# Arguments

A command line is read from left to right. A value that follows its switch, and the sources, are
only looked at when something else begins, so what is wrong with them is noticed there. What is
given is kept in the order in which it was noticed, which messages show.
-/

namespace Marginalia.CommandLine

/-! ## Numbers -/

/-- Reads digits on top of a number. It may not pass `greatest`, or `excess` is the fault. -/
def readDigits (greatest : Nat) (excess : NumberFault) : Nat → Text → Except NumberFault Nat
  | n, [] => .ok n
  | n, c :: t =>
    if !c.isDigit then .error .digit
    else
      let m := n * 10 + (c.toNat - 48)
      if greatest < m then .error excess else readDigits greatest excess m t

/-- Reads a number without a minus sign. -/
def readNat (greatest : Nat) (t : Text) : Except NumberFault Nat :=
  match t with
  | [] => .error .empty
  | ['+'] => .error .digit
  | '+' :: t => readDigits greatest .large 0 t
  | t => readDigits greatest .large 0 t

/-- Reads a number with either sign, of 64 bits. -/
def readInt (t : Text) : Except NumberFault Int :=
  match t with
  | ['-'] => .error .digit
  | '-' :: t => (readDigits (greatest 63 + 1) .small 0 t).map fun n => -(n : Int)
  | t => (readNat (greatest 63) t).map fun n => (n : Int)

/-- Reads a number that is at most `greatest`, as one of those with a sign. -/
def readWithin (greatest : Nat) (t : Text) : Except NumberFault Nat := do
  let n ← readInt t
  if 0 ≤ n && n ≤ greatest then .ok n.toNat else .error (.outside n greatest)

/-! ## What is given -/

/-- What a command line gives. -/
structure Arguments where
  sources : List Path
  output : Option Path
  config : Option Path
  highlighter : Option Text
  tabSize : Option Nat
  timeout : Option Nat
  jobs : Option Nat
  rawHtml : Bool
  quiet : Bool
  verbosity : Nat
  deriving DecidableEq

namespace Arguments

/-- Nothing given. -/
def none : Arguments :=
  let absent {α : Type} : Option α := Option.none
  ⟨[], absent, absent, absent, absent, absent, absent, false, false, 0⟩

/-- A path, which is not empty. -/
def path (slot : Slot) (t : Text) : Except Refusal Path :=
  if t = [] then .error (.noValue slot) else .ok (.ofText t)

/-- A number for a switch. -/
def numeral (s : Switch) (t : Text) (n : Except NumberFault Nat) : Except Refusal Nat :=
  n.mapError (.badNumber t s)

/-- The arguments with a switch and its value. -/
def set (a : Arguments) (s : Switch) (t : Text) : Except Refusal Arguments :=
  match s with
  | .output => do return { a with output := some (← path (.switch s) t) }
  | .config => do return { a with config := some (← path (.switch s) t) }
  | .highlighter => .ok { a with highlighter := some t }
  | .tabSize => do return { a with tabSize := some (← numeral s t (readWithin (greatest 32) t)) }
  | .timeout => do return { a with timeout := some (← numeral s t (readNat (greatest 64) t)) }
  | .jobs => do return { a with jobs := some (← numeral s t (readNat (greatest 64) t)) }
  | .rawHtml => .ok { a with rawHtml := true }
  | .quiet => .ok { a with quiet := true }
  | .verbose => .ok { a with verbosity := a.verbosity + 1 }
  | .help | .version => .ok a

/-- The arguments with more sources. -/
def addSources (a : Arguments) : List Text → Except Refusal Arguments
  | [] => .ok a
  | t :: ts => do addSources { a with sources := a.sources ++ [← path .sources t] } ts

end Arguments

/-! ## Reading -/

/-- Why reading stops. -/
inductive Stop where
  /-- Nothing was given. -/
  | bare
  | help
  | version
  | refused (r : Refusal)
  deriving DecidableEq

/-- What was read of a command line. -/
structure Reading where
  arguments : Arguments
  /-- What was given, each once. -/
  given : List Slot
  /-- Values that were not looked at yet. -/
  pending : Option (Slot × List Text)
  /-- A switch that waits for its value. -/
  awaiting : Option Switch
  /-- Whether everything that follows is a source. -/
  sourcesOnly : Bool

namespace Reading

/-- Nothing read yet. -/
def start : Reading := ⟨.none, [], none, none, false⟩

/-- The switches that were given. -/
def used (r : Reading) : List Switch :=
  r.given.filterMap fun
    | .switch s => some s
    | .sources => none

/-- Notes that something was given. -/
def note (r : Reading) (slot : Slot) : Reading :=
  if r.given.contains slot then r else { r with given := r.given ++ [slot] }

/-- Takes a switch with its value, which may be given once. -/
def take (r : Reading) (s : Switch) (t : Text) : Reading × Except Refusal Arguments :=
  if r.given.contains (.switch s) && !s.counts then
    ({ r with given := r.given.erase (.switch s) }, .error (.repeated s))
  else
    let r := { r with given := r.given.erase (.switch s) ++ [.switch s] }
    (r, r.arguments.set s t)

/-- Looks at the values that were not looked at yet. -/
def settle (r : Reading) : Reading × Except Refusal Arguments :=
  let r' := { r with pending := none }
  match r.pending with
  | none => (r', .ok r.arguments)
  | some (.sources, ts) => (r'.note .sources, r.arguments.addSources ts)
  | some (slot, []) => (r', .error (.noValue slot))
  | some (.switch s, t :: _) => r'.take s t

/-- Settles what is pending, or stops. -/
def settled (r : Reading) : Except Stop Reading :=
  match r.settle with
  | (r, .ok a) => .ok { r with arguments := a }
  | (_, .error cause) => .error (.refused cause)

/-- Takes a switch, with the value that is attached to it if it takes one. -/
def accept (r : Reading) (s : Switch) (value : Option Text) : Except Stop Reading := do
  let r ← r.settled
  match s.takesValue, value with
  | true, none => return { r with pending := some (.switch s, []), awaiting := some s }
  | _, _ =>
    if s = .help then .error .help
    else if s = .version then .error .version
    else
      match r.take s (value.getD []) with
      | (r, .ok a) => return { r with arguments := a, awaiting := none }
      | (_, .error cause) => .error (.refused cause)

/-- Reads an argument after two dashes. -/
def readName (r : Reading) (t : Text) : Except Stop Reading :=
  let name := t.takeWhile (· ≠ '=')
  let value := if t.contains '=' then some (t.drop (name.length + 1)) else none
  match Switch.ofName? name, value with
  | none, _ =>
    let similar := similar? name
    let r := r.settle.1
    let r := match similar with
      | some s => r.note (.switch s)
      | none => r
    .error (.refused (.unknown ("--".toList ++ name) similar r.given))
  | some s, some v =>
    if s.takesValue then r.accept s value else .error (.refused (.surplus v s (r.given ++ [.switch s])))
  | some s, none => r.accept s none

/-- Reads the letters after one dash. -/
def readLetters (r : Reading) : Text → Except Stop Reading
  | [] => .ok r
  | c :: t =>
    match Switch.ofLetter? c with
    | none => .error (.refused (.unknown ['-', c] none []))
    | some s =>
      if s.takesValue then r.accept s (if t = [] then none else some (Text.dropFirst '=' t))
      else do readLetters (← r.accept s none) t

/-- Reads a source. -/
def readSource (r : Reading) (t : Text) : Except Stop Reading :=
  match r.pending with
  | some (.sources, ts) => .ok { r with pending := some (.sources, ts ++ [t]) }
  | _ => do
    let r ← r.settled
    return { r with pending := some (.sources, [t]), awaiting := none }

/-- Reads an argument. -/
def read (r : Reading) (t : Text) : Except Stop Reading :=
  if r.sourcesOnly then r.readSource t
  else
    match t with
    | ['-', '-'] => .ok { r with sourcesOnly := true }
    | '-' :: '-' :: name => r.readName name
    | '-' :: c :: more => r.readLetters (c :: more)
    | t =>
      match r.awaiting with
      | some s => .ok { r with pending := some (.switch s, [t]), awaiting := none }
      | none => r.readSource t

/-- The arguments that were read, if they make sense together. -/
def finish (r : Reading) : Except Stop Arguments := do
  let r ← r.settled
  if r.given = [] then .error .bare
  else
    match r.used.filter fun s => s = .quiet || s = .verbose with
    | [first, second] =>
      .error (.refused (.conflict first second (r.given.filter (· ≠ .switch second))))
    | _ =>
      if r.given.contains .sources then return r.arguments
      else .error (.refused (.noSources r.given))

end Reading

/-- Reads a command line. -/
def readArguments (args : List Text) : Except Stop Arguments := do
  (← args.foldlM Reading.read .start).finish

end Marginalia.CommandLine
