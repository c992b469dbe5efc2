import Marginalia.Shell.Program
import Marginalia.Shell.Test

/-!
# Commands of the shell itself

The commands that change the shell, or that it knows without a program, as far as they do not run
other commands.
-/

namespace Marginalia.Shell

namespace Builtin

/-- Complains on behalf of a command. -/
def blame (command : String) (t : Text) (m : Machine) : Machine :=
  { ({ m with via := command.toList ++ ": ".toList }).complain t with via := m.via }

/-- Complains on behalf of a command that cannot go on. -/
def abort (command : String) (t : Text) (m : Machine) : Machine :=
  (blame command t m).finish 2

/-- Writes what a command wrote and said, if that is possible. -/
def tell (command : String) (d : Deed) (m : Machine) : Machine :=
  let m := d.complaints.foldl (fun m t => blame command t m) m
  if d.text ≠ [] && (m.blocked? 1).isSome then
    (blame command (command.toList ++ ": I/O error".toList) m).done 1
  else (m.put 1 d.text).done d.status

/-! ## Variables -/

/-- The name and the value of an argument that sets a variable. -/
def settingOf (t : Text) : Text × Option Text :=
  let name := t.takeWhile (· ≠ '=')
  (name, if t.contains '=' then some (t.drop (name.length + 1)) else none)

/-- Changes variables that arguments name, after setting them. -/
def declareAll (command : String) (f : Variable → Variable) (args : List Text) (m : Machine) :
    Machine :=
  args.foldl (fun m t =>
    if m.stops then m
    else
      let (name, value) := settingOf t
      if !isName name then abort command (name ++ ": bad variable name".toList) m
      else
        let m := match value with
          | some v => m.set name v
          | none => m
        if m.stops then m else m.declare name f) (m.done 0)

/-- A value in quotes that the shell reads back. -/
def quotedValue (t : Text) : Text :=
  '\'' :: t.flatMap (fun c => if c = '\'' then "'\"'\"'".toList else [c]) ++ ['\'']

/-- The variables of a kind, as commands that set them. -/
def listing (command : String) (p : Variable → Bool) (m : Machine) : Text :=
  let chosen := (m.bindings.filter fun b => p b.2).mergeSort fun a b =>
    (Text.compare a.1 b.1).isLE
  chosen.flatMap fun (name, v) =>
    command.toList ++ ' ' :: name ++
      (match v.value with
        | some t => '=' :: quotedValue t
        | none => []) ++ ['\n']

/-- Keeps variables for the command that was given a name. -/
def keepLocal (args : List Text) (m : Machine) : Machine :=
  match m.locals with
  | none => abort "local" "not in a function".toList m
  | some kept =>
    let m := args.foldl (fun m t =>
      let (name, value) := settingOf t
      let kept := (m.locals.getD [])
      let m := if kept.any (·.1 = name) then m
        else { m with locals := some ((name, m.bindings.lookup name) :: kept) }
      match value with
      | some v => m.set name v
      | none => m) { m with locals := some kept }
    m.done 0

/-! ## Reading -/

/-- A line of input: its characters, each with whether the line is cut at it, whether the line was
ended, and what is left. -/
def inputLine (raw : Bool) : Text → List (Char × Bool) × Bool × Text
  | [] => ([], false, [])
  | '\n' :: t => ([], true, t)
  | '\\' :: c :: t =>
    if raw then
      let (l, ended, rest) := inputLine raw (c :: t)
      (('\\', true) :: l, ended, rest)
    else
      let (l, ended, rest) := inputLine raw t
      (if c = '\n' then l else (c, false) :: l, ended, rest)
  | c :: t =>
    let (l, ended, rest) := inputLine raw t
    ((c, true) :: l, ended, rest)

/-- Sets variables to the fields of a line: the last one gets all that is left of it. -/
def assignFields (separators : Text) : List Text → List (Char × Bool) → Machine → Machine
  | [], _, m => m
  | name :: more, l, m =>
    let isBlankSep (g : Char × Bool) : Bool :=
      g.2 && separators.contains g.1 && (g.1 = ' ' || g.1 = '\t' || g.1 = '\n')
    let isSep (g : Char × Bool) : Bool := g.2 && separators.contains g.1
    let l := l.dropWhile isBlankSep
    if more = [] then
      let l := (l.reverse.dropWhile isBlankSep).reverse
      let only := (l.dropLast.any isSep) || !((l.getLast?.map isSep).getD false)
      m.set name ((if only then l else l.dropLast).map Prod.fst)
    else
      let field := l.takeWhile fun g => !isSep g
      let rest := (l.drop field.length).dropWhile isBlankSep
      let rest := match rest with
        | g :: t => if isSep g then t else rest
        | [] => []
      assignFields separators more rest (m.set name (field.map Prod.fst))

/-- Reads a line into variables. -/
def readLine (args : List Text) (m : Machine) : Machine :=
  let raw := args.any fun a => a.head? = some '-' && a.contains 'r'
  let names := args.filter fun a => a.head? ≠ some '-'
  let names := if names = [] && m.extended then ["REPLY".toList] else names
  if names = [] then (blame "read" "arg count".toList m).done 2
  else
    match m.channel? 0 with
    | none => m.done 1
    | some c =>
      let (l, ended, rest) := inputLine raw (m.textOf c 0)
      let m := m.leave c rest
      (assignFields m.separators names l m).done (if ended then 0 else 1)

/-! ## The shell -/

/-- Turns a switch of the shell on or off. -/
def turn (c : Char) (on : Bool) (s : Switches) : Option Switches :=
  match c with
  | 'e' => some { s with strict := on }
  | 'u' => some { s with wary := on }
  | 'x' => some { s with trace := on }
  | 'f' => some { s with noGlob := on }
  | 'n' => some { s with dry := on }
  | 'a' | 'b' | 'C' | 'h' | 'm' | 'v' | 'B' | 'E' | 'H' | 'P' | 'T' => some s
  | _ => none

/-- The letter of a switch that is given by its name. -/
def letterOf? : String → Option Char
  | "errexit" => some 'e'
  | "nounset" => some 'u'
  | "xtrace" => some 'x'
  | "noglob" => some 'f'
  | "noexec" => some 'n'
  | "allexport" => some 'a'
  | "verbose" => some 'v'
  | "noclobber" => some 'C'
  | _ => none

/-- Turns switches on or off, and sets the arguments. -/
def setAll : Nat → List Text → Machine → Machine
  | 0, _, m => m
  | _ + 1, [], m => m
  | fuel + 1, a :: more, m =>
    match a with
    | ['-', '-'] => { m with arguments := more }
    | ['-', 'o'] | ['+', 'o'] =>
      match more with
      | [] => m
      | name :: more =>
        let on := a.head? = some '-'
        if m.extended && name = "pipefail".toList then
          setAll fuel more { m with switches := { m.switches with pipeFail := on } }
        else
          match (letterOf? (String.ofList name)).bind fun c => turn c on m.switches with
          | some s => setAll fuel more { m with switches := s }
          | none => abort "set" ("Illegal option -o ".toList ++ name) m
    | sign :: letters =>
      if (sign = '-' || sign = '+') && letters ≠ [] then
        let on := sign = '-'
        let named := letters.contains 'o'
        let result := (letters.filter (· ≠ 'o')).foldl (fun (acc : Except Char Switches) c =>
          acc.bind fun s =>
            match turn c on s with
            | some s => .ok s
            | none => .error c) (.ok m.switches)
        match result with
        | .ok s =>
          let m := { m with switches := s }
          setAll fuel (if named then [sign, 'o'] :: more else more) m
        | .error c => abort "set" ("Illegal option -".toList ++ [c]) m
      else { m with arguments := a :: more }
    | [] => { m with arguments := a :: more }

/-- The number of loops that a jump concerns. -/
def loopCount (args : List Text) : Nat := max 1 ((args.head?.map number).getD 1)

/-- A status that an argument gives, or the last one. -/
def statusFrom (command : String) (args : List Text) (m : Machine) : Nat ⊕ Machine :=
  match args with
  | [] => .inl m.status
  | t :: _ =>
    if t ≠ [] && t.all Char.isDigit then .inl (number t % 256)
    else .inr (abort command ("Illegal number: ".toList ++ t) m)

/-- Says what is done on signals. -/
def trap (args : List Text) (m : Machine) : Machine :=
  let args := args.dropWhile (· = ['-', '-'])
  let known (t : Text) : Option Nat :=
    if !m.extended && (Text.after? "SIG".toList t).isSome then none else signal? t
  let clear (n : Nat) (m : Machine) : Machine :=
    { m with traps := m.traps.filter (·.1 ≠ n) }
  let put (action : Option Text) (signals : List Text) (m : Machine) : Machine :=
    signals.foldl (fun m t =>
      match known t with
      | none =>
        (m.put 2 ("trap: ".toList ++ t ++ ": bad trap\n".toList)).done 1
      | some n =>
        let m := clear n m
        match action with
        | some a => { m with traps := (n, a) :: m.traps }
        | none => m) (m.done 0)
  match args with
  | [] =>
    let text := (m.traps.mergeSort fun a b => a.1 ≤ b.1).flatMap fun (n, a) =>
      let name := if n = 0 then "EXIT".toList
        else ((Ending.signalNames[n - 1]?).map fun s => s.toList.drop 3).getD (Text.ofNat n)
      "trap -- ".toList ++ quotedValue a ++ ' ' :: name ++ ['\n']
    (m.put 1 text).done 0
  | [t] => put none [t] m
  | ['-'] :: signals => put none signals m
  | action :: signals =>
    if action ≠ [] && action.all Char.isDigit then put none (action :: signals) m
    else put (some action) signals m

/-- The words for the end of a command by a signal. -/
def signalWords (n : Nat) : String :=
  match n with
  | 1 => "Hangup"
  | 3 => "Quit"
  | 4 => "Illegal instruction"
  | 5 => "Trace/breakpoint trap"
  | 6 => "Aborted"
  | 7 => "Bus error"
  | 8 => "Floating point exception"
  | 9 => "Killed"
  | 10 => "User defined signal 1"
  | 11 => "Segmentation fault"
  | 12 => "User defined signal 2"
  | 14 => "Alarm clock"
  | 15 => "Terminated"
  | _ => ""

/-- Sends a signal to what a number stands for. -/
def sendTo (n : Nat) (t : Text) (m : Machine) : Machine :=
  if t = [] || !t.all Char.isDigit then
    (blame "kill" ("Illegal number: ".toList ++ t) m).done 2
  else
    let target := number t
    if target = processNumber then m.signal n
    else
      let i := target - processNumber - 1
      match if target > processNumber then m.jobs[i]? else none with
      | some job =>
        if isIgnoredSignal n || job.finish ≤ m.time then m.done 0
        else { m.done 0 with jobs := m.jobs.set i ⟨m.time, 128 + n, job.holds⟩ }
      | none => (blame "kill" "No such process\n".toList m).done 1
where
  isIgnoredSignal (n : Nat) : Bool := Machine.isIgnored n

/-- Sends signals. -/
def kill (args : List Text) (m : Machine) : Machine :=
  let usage (m : Machine) : Machine :=
    (blame "kill" ("Usage: kill [-s sigspec | -signum | -sigspec] [pid | job]... or\n".toList ++
      "kill -l [exitstatus]".toList) m).done 2
  let known (t : Text) : Option Nat :=
    if !m.extended && (Text.after? "SIG".toList t).isSome then none else signal? t
  let send (n : Nat) (targets : List Text) : Machine :=
    if targets = [] then usage m
    else targets.foldl (fun m t => if m.stops then m else sendTo n t m) (m.done 0)
  match args with
  | [] => usage m
  | ['-', 'l'] :: t :: _ =>
    let n := if number t > 128 then number t - 128 else number t
    let name := ((Ending.signalNames[n - 1]?).map fun s => s.toList.drop 3).getD []
    (m.put 1 (name ++ ['\n'])).done 0
  | ['-', 'l'] :: _ => m.done 0
  | ['-', 's'] :: t :: more =>
    match known t with
    | some n => send n more
    | none => (blame "kill" ("invalid signal number or name: ".toList ++ t) m).done 2
  | ['-', '-'] :: more => send 15 more
  | ('-' :: c :: t) :: more =>
    match known (c :: t) with
    | some n => send n more
    | none => (blame "kill" ("Illegal option -".toList ++ [c]) m).done 2
  | targets => send 15 targets

/-- Waits for commands that run aside. -/
def wait (args : List Text) (m : Machine) : Machine :=
  let until' (m : Machine) (job : Job) : Machine :=
    if m.time < job.finish then m.pass (job.finish - m.time) else m
  match args with
  | [] => (m.jobs.foldl until' m).done 0
  | args =>
    args.foldl (fun m t =>
      let target := number t
      if !t.all Char.isDigit then (blame "wait" ("Illegal number: ".toList ++ t) m).done 2
      else
      match if target > processNumber then m.jobs[target - processNumber - 1]? else none with
      | some job =>
        let m := until' m job
        let words := signalWords (job.status - 128)
        let m := if 128 < job.status && words ≠ "" then m.put 2 (words.toList ++ ['\n']) else m
        m.done job.status
      | none => m.done 127) (m.done 0)

/-- Goes to a directory. -/
def cd (args : List Text) (m : Machine) : Machine :=
  match args.filter fun a => a ≠ "-P".toList && a ≠ "-L".toList with
  | [] => m.done 0
  | t :: _ =>
    match t, m.store.resolve (m.path t) with
    | [], _ => m.done 0
    | _, .ok (loc, .directory) => { m.done 0 with directory := ofOctets (m.store.pathTo loc).octets }
    | t, _ =>
      if Test.isEverywhere t then { m.done 0 with directory := t }
      else (blame "cd" ("can't cd to ".toList ++ t) m).done 2

/-- Reads the next option among the arguments. -/
def getopts (args : List Text) (m : Machine) : Machine :=
  match args with
  | letters :: name :: rest =>
    let given := if rest = [] then m.arguments else rest
    let index := ((m.bound? "OPTIND".toList).map number).getD 1
    let inner := if m.optionPlace.1 = index then m.optionPlace.2 else 0
    let silent := letters.head? = some ':'
    let result (next place : Nat) (found : Char) (value : Option Text) (status : Nat)
        (m : Machine) : Machine :=
      let m := m.set "OPTIND".toList (Text.ofNat next)
      let m := match value with
        | some t => m.set "OPTARG".toList t
        | none => m.restore "OPTARG".toList none
      ({ m with optionPlace := (next, place) }.set name [found]).done status
    let kept := m.bound? "OPTARG".toList
    let (current, place, next) :=
      if inner = 0 then (given[index - 1]?, 1, index + 1) else (given[index - 2]?, inner, index)
    let current := current.getD []
    if inner = 0 && (current.head? ≠ some '-' || current.length < 2) then
      result index 0 '?' kept 1 m
    else if inner = 0 && current = ['-', '-'] then result next 0 '?' kept 1 m
    else
      match current.drop place with
      | [] => result next 0 '?' kept 1 m
      | c :: more =>
        let place := if more = [] then 0 else place + 1
        let tell (problem : String) (m : Machine) : Machine :=
          if silent then m
          else m.put 2 (problem.toList.map (fun d => if d = '*' then c else d) ++ ['\n'])
        match if c = ':' then [] else letters.dropWhile (· ≠ c) with
        | [] =>
          result next place '?' (if silent then some [c] else none) 0
            (tell "Illegal option -*" m)
        | _ :: ':' :: _ =>
          match more, given[next - 1]? with
          | [], some value => result (next + 1) 0 c (some value) 0 m
          | [], none =>
            result next 0 (if silent then ':' else '?') (if silent then some [c] else none) 0
              (tell "No arg for -* option" m)
          | more, _ => result next 0 c (some more) 0 m
        | _ => result next place c (some []) 0 m
  | _ => (blame "getopts" "Usage: getopts optstring var [arg...]".toList m).done 2

/-- The names of the commands of the shell. -/
def names : List String :=
  [".", ":", "[", "alias", "bg", "break", "cd", "command", "continue", "echo", "eval", "exec",
   "exit", "export", "false", "fg", "getopts", "hash", "jobs", "kill", "local", "printf", "pwd",
   "read", "readonly", "return", "set", "shift", "test", "times", "trap", "true", "type", "ulimit",
   "umask", "unalias", "unset", "wait"]

/-- Whether there is a program with a name. -/
def isProgram (name : String) : Bool :=
  Program.launchers.contains name || (Program.ofName? name).isSome

/-- What a name means, in words. -/
def meaning (t : Text) (m : Machine) : Option Text :=
  let s := String.ofList t
  if keywords.contains s then some (t ++ " is a shell keyword".toList)
  else if (m.functions.lookup t).isSome then some (t ++ " is a shell function".toList)
  else if specials.contains s then some (t ++ " is a special shell builtin".toList)
  else if names.contains s then some (t ++ " is a shell builtin".toList)
  else if isProgram s then some (t ++ " is /usr/bin/".toList ++ t)
  else none

/-- How a name can be called. -/
def location (t : Text) (m : Machine) : Option Text :=
  let s := String.ofList t
  if keywords.contains s || (m.functions.lookup t).isSome || names.contains s ||
      specials.contains s then some t
  else if isProgram s then some ("/usr/bin/".toList ++ t)
  else if t.contains '/' && m.store.isFile (m.path t) then some t
  else none

/-- The command of the shell with a name. -/
def ofName? (name : String) : Option (List Text → Machine → Machine) :=
  match name with
  | "echo" => some fun args m => tell "echo" (.said (echo m.extended args)) m
  | "printf" => some fun args m => tell "printf" (printf m.extended args) m
  | "true" | ":" | "times" | "ulimit" | "alias" | "unalias" | "hash" | "jobs" | "bg" | "fg" =>
    some fun _ m => m.done 0
  | "false" => some fun _ m => m.done 1
  | "umask" => some fun args m => if args = [] then (m.put 1 "0022\n".toList).done 0 else m.done 0
  | "test" => some fun args m =>
    match Test.holds m args with
    | .ok b => m.done (if b then 0 else 1)
    | .error e => (blame "test" e m).done 2
  | "[" => some fun args m =>
    if args.getLast? ≠ some [']'] then (blame "[" "missing ]".toList m).done 2
    else
      match Test.holds m args.dropLast with
      | .ok b => m.done (if b then 0 else 1)
      | .error e => (blame "[" e m).done 2
  | "read" => some readLine
  | "cd" => some cd
  | "pwd" => some fun _ m => (m.put 1 (m.directory ++ ['\n'])).done 0
  | "export" => some fun args m =>
    match args with
    | [] | [['-', 'p']] => (m.put 1 (listing "export" (·.exported) m)).done 0
    | args => declareAll "export" (fun v => { v with exported := true }) args m
  | "readonly" => some fun args m =>
    match args with
    | [] | [['-', 'p']] => (m.put 1 (listing "readonly" (·.fixed) m)).done 0
    | args => declareAll "readonly" (fun v => { v with fixed := true }) args m
  | "unset" => some fun args m =>
    (args.filter fun a => a.head? ≠ some '-').foldl (fun m t =>
      if m.stops then m
      else if !isName t then abort "unset" (t ++ ": bad variable name".toList) m
      else
        match m.bindings.lookup t with
        | some v =>
          if v.fixed then abort "unset" (t ++ ": is read only".toList) m
          else { m with bindings := m.bindings.filter (·.1 ≠ t) }
        | none => { m with functions := m.functions.filter (·.1 ≠ t) }) (m.done 0)
  | "local" => some keepLocal
  | "shift" => some fun args m =>
    let n := (args.head?.map number).getD 1
    if m.arguments.length < n then abort "shift" "can't shift that many".toList m
    else { m.done 0 with arguments := m.arguments.drop n }
  | "set" => some fun args m => setAll (args.length + 2) args (m.done 0)
  | "exit" => some fun args m =>
    match statusFrom "exit" args m with
    | .inl n => m.finish n
    | .inr m => m
  | "return" => some fun args m =>
    match statusFrom "return" args m with
    | .inl n => if m.depth = 0 then m.finish n else { m.done n with jump := some .back }
    | .inr m => m
  | "break" => some fun args m =>
    if m.loops = 0 then m.done 0
    else { m.done 0 with jump := some (.leave (min m.loops (loopCount args))) }
  | "continue" => some fun args m =>
    if m.loops = 0 then m.done 0
    else { m.done 0 with jump := some (.next (min m.loops (loopCount args))) }
  | "trap" => some trap
  | "kill" => some kill
  | "wait" => some wait
  | "type" => some fun args m =>
    args.foldl (fun m t =>
      match meaning t m with
      | some words => m.put 1 (words ++ ['\n'])
      | none => (m.put 1 (t ++ ": not found\n".toList)).done 127) (m.done 0)
  | "getopts" => some getopts
  | _ => none

end Builtin

end Marginalia.Shell
