import Marginalia.Shell.Format
import Marginalia.Shell.Regex

/-!
# The stream editor

A script of the stream editor is a list of edits, each with the lines that it applies to. The edits
run one after another on every line of the input, which is held in a space that may come to hold
several lines. A second space keeps text from one line to the next.
-/

namespace Marginalia.Shell.Sed

/-! ## Scripts -/

/-- A line that an edit may name. -/
inductive Address where
  | line (n : Nat)
  | last
  /-- Lines that an expression matches; without one, the expression that was used last. -/
  | having (r : Option Regex)
  /-- Every so many lines from a first one on. -/
  | every (first stride : Nat)
  /-- So many lines after the first one, or up to the next multiple. -/
  | after (n : Nat)
  | multiple (n : Nat)

/-- The lines that an edit applies to. -/
structure Scope where
  first : Option Address
  second : Option Address
  negated : Bool

/-- A part of a replacement. -/
inductive Part where
  | text (t : Text)
  | group (n : Nat)
  /-- What changes the case of what follows. -/
  | case (c : Char)

/-- A substitution. -/
structure Substitution where
  pattern : Option Regex
  replacement : List Part
  /-- The first match on a line that is replaced. -/
  nth : Nat
  everywhere : Bool
  prints : Bool
  file : Option Text

/-- An edit. -/
inductive Edit where
  | substitute (s : Substitution)
  | translate (table : List (Char × Char))
  | append (t : Text)
  | insert (t : Text)
  | change (t : Text)
  | quit (code : Nat) (silent : Bool)
  | label (t : Text)
  /-- Goes to a label always, after a substitution, or without one. -/
  | jump (kind : Char) (t : Text)
  | opens
  | closes
  | readFile (t : Text)
  | writeFile (t : Text)
  /-- An edit that its letter says all about. -/
  | plain (c : Char)

/-- What is wrong with a script, and how much of it is left there. -/
abbrev Refused := Nat × String

/-- Cuts a text at the first `stop` that no backslash stands before and that is in no bracket. A
backslash before `stop` is dropped. -/
def cutAt (stop : Char) (brackets : Bool) : Nat → Text → Option (Text × Text)
  | 0, _ => none
  | _ + 1, [] => none
  | fuel + 1, '\\' :: c :: t =>
    (cutAt stop brackets fuel t).map fun (a, rest) =>
      (if c = stop then (c :: a, rest)
        else if c = '\n' then ('\\' :: '\n' :: a, rest) else ('\\' :: c :: a, rest))
  | fuel + 1, c :: t =>
    if c = stop then some ([], t)
    else if c = '\n' && brackets then none
    else if c = '[' && brackets then
      let lead := (t.takeWhile (· = '^')).take 1
      let lead := lead ++ ((t.drop lead.length).takeWhile (· = ']')).take 1
      let body := (t.drop lead.length).takeWhile (· ≠ ']')
      let inner := lead ++ body
      if (t.drop inner.length).head? = some ']' && !body.contains '\n' then
        (cutAt stop brackets fuel (t.drop (inner.length + 1))).map fun (a, rest) =>
          (c :: inner ++ ']' :: a, rest)
      else (cutAt stop brackets fuel t).map fun (a, rest) => (c :: a, rest)
    else (cutAt stop brackets fuel t).map fun (a, rest) => (c :: a, rest)

/-- The parts of a replacement. -/
def replacementParts : Nat → Text → List Part
  | 0, _ => []
  | _ + 1, [] => []
  | fuel + 1, '&' :: t => .group 0 :: replacementParts fuel t
  | fuel + 1, '\\' :: c :: t =>
    (if c.isDigit then Part.group (c.toNat - 48)
      else if "ULEul".toList.contains c then .case c
      else
        match c with
        | 'n' => .text ['\n']
        | 't' => .text ['\t']
        | 'r' => .text ['\r']
        | 'f' => .text ['\x0c']
        | 'v' => .text ['\x0b']
        | 'a' => .text ['\x07']
        | c => .text [c]) :: replacementParts fuel t
  | fuel + 1, c :: t => .text [c] :: replacementParts fuel t

/-- Whether a character divides edits without meaning anything. -/
def isFiller (c : Char) : Bool := c = ' ' || c = '\t' || c = ';' || c = '\n'

/-- Reads an expression of an address or a substitution. -/
def expression (extended anyCase : Bool) (t : Text) (left : Nat) :
    Except Refused (Option Regex) :=
  if t = [] then .ok none
  else
    match Regex.ofText ⟨extended, anyCase⟩ t with
    | .ok r => .ok (some r)
    | .error e => .error (left, e)

/-- Reads an address, if there is one. -/
def address? (extended : Bool) (second : Bool) (t : Text) :
    Except Refused (Option (Address × Text)) :=
  match t with
  | '$' :: t => .ok (some (.last, t))
  | '+' :: rest =>
    if second then .ok (some (.after (number rest), rest.dropWhile Char.isDigit)) else .ok none
  | '~' :: rest =>
    if second then .ok (some (.multiple (number rest), rest.dropWhile Char.isDigit)) else .ok none
  | c :: rest =>
    if c.isDigit then
      let after := t.dropWhile Char.isDigit
      match after with
      | '~' :: more => .ok (some (.every (number t) (number more), more.dropWhile Char.isDigit))
      | after => .ok (some (.line (number t), after))
    else if c = '/' || c = '\\' then
      let (stop, body) := if c = '/' then ('/', rest) else ((rest.head?).getD '/', rest.drop 1)
      match cutAt stop true (body.length + 1) body with
      | none => .error (0, "unterminated address regex")
      | some (pattern, after) =>
        let anyCase := after.head? = some 'I'
        let after := if anyCase then after.drop 1 else after
        match expression extended anyCase pattern after.length with
        | .error e => .error e
        | .ok r => .ok (some (.having r, after))
    else .ok none
  | [] => .ok none

/-- Reads the scope of an edit. -/
def scope (extended : Bool) (t : Text) : Except Refused (Scope × Text) := do
  let gap (t : Text) : Text := t.dropWhile fun c => c = ' ' || c = '\t'
  let negate (s : Scope) (t : Text) : Scope × Text :=
    match gap t with
    | '!' :: t => ({ s with negated := true }, gap (t.dropWhile (· = '!')))
    | t => (s, t)
  match ← address? extended false t with
  | none => return negate ⟨none, none, false⟩ t
  | some (first, t) =>
    match gap t with
    | ',' :: t =>
      match ← address? extended true (gap t) with
      | none => throw (t.length, "unexpected \x60,'")
      | some (second, t) => return negate ⟨some first, some second, false⟩ t
    | t => return negate ⟨some first, none, false⟩ t

/-- The text of an edit that adds lines, and the rest. -/
def addedText (t : Text) : Text × Text :=
  let t := t.dropWhile fun c => c = ' ' || c = '\t'
  let t := match t with
    | '\\' :: rest =>
      match rest.dropWhile fun c => c = ' ' || c = '\t' with
      | '\n' :: more => more
      | _ => rest
    | t => t
  let rec go : Text → Text × Text
    | [] => ([], [])
    | '\\' :: c :: t =>
      let (a, rest) := go t
      (c :: a, rest)
    | '\n' :: t => ([], t)
    | c :: t =>
      let (a, rest) := go t
      (c :: a, rest)
  let (a, rest) := go t
  (a ++ ['\n'], rest)

/-- The name up to the end of a line, and the rest. -/
def restOfLine (t : Text) : Text × Text :=
  let t := t.dropWhile fun c => c = ' ' || c = '\t'
  (t.takeWhile (· ≠ '\n'), (t.dropWhile (· ≠ '\n')).drop 1)

/-- Reads a substitution after its letter. -/
def substitution (extended : Bool) (t : Text) : Except Refused (Edit × Text) := do
  let unterminated : Refused := (0, "unterminated \x60s' command")
  match t with
  | [] => throw unterminated
  | stop :: t =>
    let some (pattern, t) := cutAt stop true (t.length + 1) t | throw unterminated
    let some (made, t) := cutAt stop false (t.length + 1) t | throw unterminated
    let flags := t.takeWhile fun c => c.isDigit || "gpiImMe".toList.contains c
    let t := t.drop flags.length
    let (file, t) : Option Text × Text := match t with
      | 'w' :: t =>
        let (name, t) := restOfLine t
        (some name, t)
      | t => (none, t)
    match t with
    | c :: rest =>
      if !isFiller c && c ≠ '\x7d' && c ≠ '#' && file.isNone then
        throw (rest.length, "unknown option to \x60s'")
    | [] => pure ()
    let anyCase := flags.contains 'i' || flags.contains 'I'
    let r ← expression extended anyCase pattern t.length
    let digits := flags.filter Char.isDigit
    let parts := replacementParts (made.length + 1) made
    let asked := parts.map fun
      | .group n => n
      | _ => 0
    match r, asked.find? fun n => (r.map Regex.groupCount).getD 9 < n with
    | some _, some n => throw (t.length,
        "invalid reference \\" ++ toString n ++ " on \x60s' command's RHS")
    | _, _ => pure ()
    return (.substitute ⟨r, parts,
      if digits = [] then 1 else number digits, flags.contains 'g', flags.contains 'p', file⟩, t)

/-- Resolves the escapes of a translation. -/
def plainChars : Text → Text
  | [] => []
  | '\\' :: 'n' :: t => '\n' :: plainChars t
  | '\\' :: c :: t => c :: plainChars t
  | c :: t => c :: plainChars t

/-- Reads an edit after its scope. -/
def edit (extended : Bool) (t : Text) : Except Refused (Edit × Text) := do
  match t with
  | [] => throw (0, "missing command")
  | c :: t =>
    match c with
    | 's' => substitution extended t
    | 'y' =>
      let unterminated : Refused := (0, "unterminated \x60y' command")
      let stop := (t.head?).getD '/'
      let some (a, t) := cutAt stop false (t.length + 1) (t.drop 1) | throw unterminated
      let some (b, t) := cutAt stop false (t.length + 1) t | throw unterminated
      let (a, b) := (plainChars a, plainChars b)
      if a.length ≠ b.length then
        throw (t.length, "strings for \x60y' command are different lengths")
      return (.translate (a.zip b), t)
    | 'a' | 'i' | 'c' =>
      if Text.allBlank t then throw (0, "expected \\ after \x60a', \x60c' or \x60i'")
      let (text, t) := addedText t
      return (if c = 'a' then .append text else if c = 'i' then .insert text else .change text, t)
    | 'q' | 'Q' =>
      let t := t.dropWhile fun c => c = ' '
      return (.quit (number t) (c = 'Q'), t.dropWhile Char.isDigit)
    | ':' =>
      let t := t.dropWhile (· = ' ')
      let name := t.takeWhile fun c => !isFiller c
      return (.label name, t.drop name.length)
    | 'b' | 't' | 'T' =>
      let t := t.dropWhile (· = ' ')
      let name := t.takeWhile fun c => !isFiller c && c ≠ '\x7d'
      return (.jump c name, t.drop name.length)
    | 'r' =>
      let (name, t) := restOfLine t
      return (.readFile name, t)
    | 'w' =>
      let (name, t) := restOfLine t
      return (.writeFile name, t)
    | '\x7b' => return (.opens, t)
    | '\x7d' => return (.closes, t)
    | c =>
      if "dDpPnNhHgGx=lz".toList.contains c then
        match t.dropWhile fun c => c = ' ' || c = '\t' with
        | [] => return (.plain c, [])
        | d :: rest =>
          if isFiller d || d = '\x7d' || d = '#' then return (.plain c, d :: rest)
          else throw (rest.length, "extra characters after command")
      else throw (t.length, "unknown command: \x60" ++ String.ofList [c] ++ "'")

/-- Reads all edits of a script. -/
def edits (extended : Bool) : Nat → Text → Except Refused (List (Scope × Edit))
  | 0, _ => .ok []
  | fuel + 1, t =>
    match t.dropWhile isFiller with
    | [] => .ok []
    | '#' :: t => edits extended fuel (t.dropWhile (· ≠ '\n'))
    | t => do
      let (s, t) ← scope extended t
      let (e, t) ← edit extended t
      return (s, e) :: (← edits extended fuel t)

/-! ## Running -/

/-- The editor between two edits. -/
structure Editor where
  program : Array (Scope × Edit)
  silent : Bool
  files : Text → Option Text
  space : Text
  /-- Whether the line in the space ended with a line feed. -/
  ended : Bool
  hold : Text
  number : Nat
  /-- The lines that were not read yet, and whether the last of them ends with a line feed. -/
  rest : List Text
  complete : Bool
  /-- Text that follows the line. -/
  queue : List Text
  substituted : Bool
  lastUsed : Option Regex
  /-- The scopes that have begun, with the line that ends them if it is known. -/
  begun : List (Nat × Option Nat)
  output : List Text
  written : List (Text × Text)
  finished : Option Nat

namespace Editor

/-- Writes a line. -/
def print (e : Editor) (t : Text) : Editor :=
  { e with output := (t ++ if e.ended then ['\n'] else []) :: e.output }

/-- Writes what follows the line. -/
def flush (e : Editor) : Editor :=
  { e with output := e.queue.reverse ++ e.output, queue := [] }

/-- Takes the next line into the space. -/
def next? (e : Editor) : Option Editor :=
  match e.rest with
  | [] => none
  | l :: ls =>
    some { e with space := l, rest := ls, ended := ls ≠ [] || e.complete, number := e.number + 1 }

/-- Whether the space has the last line. -/
def atLast (e : Editor) : Bool := e.rest.isEmpty

/-- Whether an expression matches the space. -/
def matching (e : Editor) (r : Option Regex) : Bool × Editor :=
  match r <|> e.lastUsed with
  | none => (false, e)
  | some r => ((r.find? e.space.toArray 0).isSome, { e with lastUsed := some r })

/-- Whether a single address means the line. -/
def meets (e : Editor) (a : Address) : Bool × Editor :=
  match a with
  | .line n => (e.number = n, e)
  | .last => (e.atLast, e)
  | .every first stride =>
    (if stride = 0 then e.number = first
      else e.number ≥ first && (e.number - first) % stride = 0, e)
  | .having r => e.matching r
  | .after _ | .multiple _ => (false, e)

/-- Whether the edit with this number applies to the line. -/
def applies (e : Editor) (i : Nat) (s : Scope) : Bool × Editor :=
  let (hit, e) : Bool × Editor :=
    match s.first, s.second with
    | none, _ => (true, e)
    | some a, none => e.meets a
    | some a, some b =>
      let close (e : Editor) : Editor := { e with begun := e.begun.filter (·.1 ≠ i) }
      match e.begun.lookup i with
      | some (some n) =>
        if n ≤ e.number then (n = e.number, close e) else (true, e)
      | some none =>
        let (stops, e) := e.meets b
        (true, if stops then close e else e)
      | none =>
        let fromZero : Bool := match a, b with
          | .line 0, .having _ => e.number = 1
          | _, _ => false
        let (starts, e) := if fromZero then (true, e) else e.meets a
        if !starts then (false, e)
        else
          let until' : Option (Option Nat) := match b with
            | .line n => if n ≤ e.number then none else some (some n)
            | .after n => if n = 0 then none else some (some (e.number + n))
            | .multiple n =>
              if n = 0 || e.number % n = 0 then none
              else some (some (e.number + n - e.number % n))
            | .last => if e.atLast then none else some none
            | _ => some none
          let (ends, e) := if fromZero then e.meets b else (false, e)
          (true, match until' with
            | none => e
            | some u => if ends then e else { e with begun := (i, u) :: e.begun })
  (hit != s.negated, e)

/-- The text of a replacement at a match. -/
def made (line : Array Char) (m : Regex.Match) (parts : List Part) : Text :=
  let step (acc : Text × Option Char × Option Char) (p : Part) :
      Text × Option Char × Option Char :=
    let (out, all, once) := acc
    let cased (t : Text) : Text :=
      let t := match all with
        | some 'U' => t.map Char.toUpper
        | some 'L' => t.map Char.toLower
        | _ => t
      match once, t with
      | some 'u', c :: t => c.toUpper :: t
      | some 'l', c :: t => c.toLower :: t
      | _, t => t
    let add (t : Text) : Text × Option Char × Option Char :=
      if t = [] then acc else (out ++ cased t, all, none)
    match p with
    | .text t => add t
    | .group n => add (m.group line n)
    | .case 'E' => (out, none, none)
    | .case c => if c = 'U' || c = 'L' then (out, some c, once) else (out, all, some c)
  (parts.foldl step ([], none, none)).1

/-- Replaces matches from a place on: the text, and whether there was one to replace. `count` is
the number of matches before, and `last` the end of the one before. -/
def replaceFrom (s : Substitution) (r : Regex) (chars : Array Char) :
    Nat → Nat → Nat → Option Nat → Text × Bool
  | 0, _, start, _ => ((chars.extract start chars.size).toList, false)
  | fuel + 1, count, start, last =>
    match r.find? chars start with
    | none => ((chars.extract start chars.size).toList, false)
    | some m =>
      let before := (chars.extract start m.start).toList
      if m.start = m.stop && last = some m.start then
        match chars[m.start]? with
        | none => (before, false)
        | some c =>
          let (t, done) := replaceFrom s r chars fuel count (m.start + 1) none
          (before ++ c :: t, done)
      else
        let wanted := if s.everywhere then s.nth ≤ count + 1 else s.nth = count + 1
        let here := if wanted then made chars m s.replacement else m.group chars 0
        if wanted && !s.everywhere then
          (before ++ here ++ (chars.extract m.stop chars.size).toList, true)
        else if m.start = m.stop then
          match chars[m.start]? with
          | none => (before ++ here, wanted)
          | some c =>
            let (t, done) := replaceFrom s r chars fuel (count + 1) (m.start + 1) none
            (before ++ here ++ c :: t, wanted || done)
        else
          let (t, done) := replaceFrom s r chars fuel (count + 1) m.stop (some m.stop)
          (before ++ here ++ t, wanted || done)

/-- Runs a substitution on the space. -/
def substitute (e : Editor) (s : Substitution) : Editor :=
  match s.pattern <|> e.lastUsed with
  | none => e
  | some r =>
    let line := e.space.toArray
    let (t, done) := replaceFrom s r line (2 * line.size + 2) 0 0 none
    let e := { e with lastUsed := some r }
    if !done then e
    else
      let e := { e with space := t, substituted := true }
      let e := if s.prints then e.print t else e
      match s.file with
      | some name => { e with written := (name, t ++ ['\n']) :: e.written }
      | none => e

/-- Ends the work on a line. -/
def endCycle (e : Editor) : Editor :=
  (if e.silent then e else e.print e.space).flush

/-- The number of the edit after the one that closes a block. -/
def afterBlock (program : Array (Scope × Edit)) : Nat → Nat → Nat → Nat
  | 0, _, i => i
  | fuel + 1, depth, i =>
    match program[i]? with
    | none => i
    | some (_, .opens) => afterBlock program fuel (depth + 1) (i + 1)
    | some (_, .closes) =>
      if depth = 0 then i + 1 else afterBlock program fuel (depth - 1) (i + 1)
    | some _ => afterBlock program fuel depth (i + 1)

/-- The number of the edit with a label. -/
def labelled (e : Editor) (t : Text) : Nat :=
  if t = [] then e.program.size
  else
    (e.program.findIdx? fun
      | (_, .label l) => l = t
      | _ => false).getD e.program.size

/-- Where the work goes on after an edit. -/
inductive Course where
  | at (i : Nat)
  /-- With the next line, after the end of the work on this one. -/
  | done
  /-- With the next line at once. -/
  | dropped
  /-- With what is left in the space. -/
  | again

/-- Runs an edit that applies; `i` is its number. -/
def perform (e : Editor) (i : Nat) (s : Scope) : Edit → Editor × Course
  | .substitute sub => (e.substitute sub, .at (i + 1))
  | .translate table =>
    ({ e with space := e.space.map fun c => (table.lookup c).getD c }, .at (i + 1))
  | .append t => ({ e with queue := e.queue ++ [t] }, .at (i + 1))
  | .insert t => ({ e with output := t :: e.output }, .at (i + 1))
  | .change t =>
    let ends := s.second.isNone || s.negated || (e.begun.lookup i).isNone
    ((if ends then { e with output := t :: e.output } else e).flush, .dropped)
  | .quit code silent =>
    let e := if silent then e else e.endCycle
    ({ e with finished := some code }, .dropped)
  | .label _ | .opens | .closes => (e, .at (i + 1))
  | .jump kind t =>
    let taken := kind = 'b' || (kind = 't' && e.substituted) || (kind = 'T' && !e.substituted)
    let e := if kind = 'b' then e else { e with substituted := false }
    (e, .at (if taken then e.labelled t else i + 1))
  | .readFile t =>
    (match e.files t with
      | some text => { e with queue := e.queue ++ [text] }
      | none => e, .at (i + 1))
  | .writeFile t => ({ e with written := (t, e.space ++ ['\n']) :: e.written }, .at (i + 1))
  | .plain c =>
    let firstLine := e.space.takeWhile (· ≠ '\n')
    match c with
    | 'd' => (e.flush, .dropped)
    | 'D' =>
      if e.space.contains '\n' then
        ({ e with space := e.space.drop (firstLine.length + 1) }.flush, .again)
      else (e.flush, .dropped)
    | 'p' => (e.print e.space, .at (i + 1))
    | 'P' => ({ e with output := (firstLine ++ ['\n']) :: e.output }, .at (i + 1))
    | 'n' =>
      if e.atLast then (e.endCycle, .dropped)
      else
        let e := e.endCycle
        (e.next?.getD e, .at (i + 1))
    | 'N' =>
      let e' := e.flush
      match e'.next? with
      | none => (e, .done)
      | some f => ({ f with space := e.space ++ '\n' :: f.space }, .at (i + 1))
    | 'h' => ({ e with hold := e.space }, .at (i + 1))
    | 'H' => ({ e with hold := e.hold ++ '\n' :: e.space }, .at (i + 1))
    | 'g' => ({ e with space := e.hold }, .at (i + 1))
    | 'G' => ({ e with space := e.space ++ '\n' :: e.hold }, .at (i + 1))
    | 'x' => ({ e with space := e.hold, hold := e.space }, .at (i + 1))
    | '=' => ({ e with output := (Text.ofNat e.number ++ ['\n']) :: e.output }, .at (i + 1))
    | 'z' => ({ e with space := [] }, .at (i + 1))
    | _ => (e, .at (i + 1))

/-- Runs edits on the space from the one with a number on. The fuel bounds the number of steps. -/
def cycle (e : Editor) : Nat → Nat → Editor × Course
  | 0, _ => (e, .done)
  | fuel + 1, i =>
    match e.program[i]? with
    | none => (e, .done)
    | some (s, edit) =>
      let (hit, e) := e.applies i s
      match edit with
      | .opens =>
        cycle e fuel (if hit then i + 1 else afterBlock e.program e.program.size 0 (i + 1))
      | edit =>
        if !hit then cycle e fuel (i + 1)
        else
          match e.perform i s edit with
          | (e, .at j) => cycle e fuel j
          | other => other

/-- Runs the editor to the end of its input. -/
def runAll (e : Editor) : Nat → (again : Bool) → Editor
  | 0, _ => e
  | fuel + 1, again =>
    match if again then some e else e.next? with
    | none => e
    | some e =>
      match { e with substituted := again && e.substituted }.cycle 100000 0 with
      | (e, .again) => if e.finished.isSome then e else runAll e fuel true
      | (e, .dropped) => if e.finished.isSome then e else runAll e fuel false
      | (e, _) => runAll e.endCycle fuel false

end Editor

/-- The editor before its first line. -/
def start (program : List (Scope × Edit)) (silent : Bool) (files : Text → Option Text)
    (input : Text) : Editor :=
  let complete := input.getLast? = some '\n'
  { program := program.toArray, silent, files, complete
    space := [], ended := true, hold := [], number := 0, rest := Text.lines input
    queue := [], substituted := false, lastUsed := none, begun := [], output := [], written := []
    finished := none }

/-- What an editor leaves: its output, the texts for files, and its status. -/
def run (program : List (Scope × Edit)) (silent : Bool) (files : Text → Option Text)
    (input : Text) : Text × List (Text × Text) × Nat :=
  let e := start program silent files input
  let e := e.runAll (2 * e.rest.length + 1000) false
  (e.output.reverse.flatten, e.written.reverse, e.finished.getD 0)

end Marginalia.Shell.Sed
