import Marginalia.Shell.Builtin

/-!
# Running commands

The commands of a script run one after another. A command that runs on its own, such as one in a
pipeline, runs in a part of the shell, and only what it does outside of itself stays. All functions
here get a bound on the depth to which they call each other: what is still not done then goes on
forever.
-/

namespace Marginalia.Shell

/-! ## Values -/

/-- The pieces of the value of a parameter, after `f`. -/
def valuePieces (m : Machine) (name : Text) (quoted : Bool) (f : Text → Text) : List Piece :=
  let pieces (t : Text) : List Piece := if quoted then quotedPieces (f t) else loosePieces (f t)
  let divider := if quoted then Piece.cut else Piece.gap
  match name with
  | ['@'] => [divider].intercalate (m.arguments.map pieces)
  | ['*'] =>
    if quoted then quotedPieces ((m.separators.take 1).intercalate (m.arguments.map f))
    else [divider].intercalate (m.arguments.map pieces)
  | name => pieces ((m.value? name).getD [])

/-- Whether a parameter has no value. -/
def lacks (m : Machine) (name : Text) (emptyToo : Bool) : Bool :=
  match m.value? name with
  | none => true
  | some t => emptyToo && t = []

/-- Complains about a parameter without a value, if that is a mistake. -/
def wary (m : Machine) (name : Text) : Machine :=
  if m.switches.wary && lacks m name false && name ≠ ['@'] && name ≠ ['*'] then
    m.fatal (name ++ ": parameter not set".toList)
  else m

/-- Commands that take settings of variables as their arguments. -/
def declares (t : Text) : Bool := ["export", "readonly", "local"].contains (String.ofList t)

/-- The descriptors that redirections concern. -/
def concerned (rs : List Redirect) : List Nat :=
  rs.flatMap fun
    | .mk d .copy _ | .mk d .writeBoth _ => [d, 2]
    | .mk d _ _ => [d]

/-- Lets the descriptors that redirections concerned lead where they led before. -/
def reconnect (rs : List Redirect) (before after : Machine) : Machine :=
  (concerned rs).foldl (fun m d => m.connect d (before.channel? d)) after

/-- What becomes of a shell whose commands do not end. Where its output is captured, whoever reads
it stops at some time. -/
def exhausted (m : Machine) : Machine :=
  match m.channel? 1 with
  | some (.capture _) => { m with ending := some (.signal 13) }
  | _ => m.hang

/-- After the body of a loop ran: whether the loop goes on, and the shell. -/
def turned (m : Machine) : Bool × Machine :=
  match m.jump with
  | some (.leave n) => (false, { m with jump := if n ≤ 1 then none else some (.leave (n - 1)) })
  | some (.next n) =>
    if n ≤ 1 then (m.ending.isNone, { m with jump := none })
    else (false, { m with jump := some (.next (n - 1)) })
  | some .back => (false, m)
  | none => (m.ending.isNone, m)

/-! ## Programs that run others -/

/-- The words of an input, as they are handed to a program. -/
def inputWords (t : Text) : List Text :=
  (t.splitOnP fun c => c = ' ' || c = '\t' || c = '\n').filter (· ≠ [])

/-- Puts a text in the place of each mark. -/
def filledIn (mark value : Text) : Nat → Text → Text
  | 0, t => t
  | fuel + 1, t =>
    match if mark = [] then none else Text.breakOn? mark t with
    | some (before, after) => before ++ value ++ filledIn mark value fuel after
    | none => t

/-- A shell that starts as a child of another one. -/
def child (m : Machine) : Machine :=
  { m with
    bindings := m.bindings.filter fun b => b.2.exported
    functions := [], locals := none, traps := m.traps.filter fun t => t.2 = []
    pending := [], jobs := [], loops := 0, depth := 0, jump := none, ending := none
    via := [], tested := false, status := 0
    switches := ⟨false, false, false, false, false, false⟩ }

/-- What a shell is told when it starts. -/
structure Launch where
  switches : Switches
  /-- Whether the script is the first operand, and whether it is the input. -/
  inline : Bool
  asInput : Bool
  operands : List Text

/-- Reads the arguments of a shell. -/
def Launch.read : Nat → Launch → List Text → Launch
  | 0, l, _ => l
  | _ + 1, l, [] => l
  | fuel + 1, l, a :: more =>
    match a with
    | ['-'] | ['-', '-'] => { l with operands := more }
    | ['-', 'o'] =>
      let letter := (more.head?.bind fun n => Builtin.letterOf? (String.ofList n)).getD 'a'
      let switches := (Builtin.turn letter true l.switches).getD l.switches
      Launch.read fuel { l with switches := switches } (more.drop 1)
    | '-' :: '-' :: _ => Launch.read fuel l more
    | '-' :: letters =>
      let switches := letters.foldl (fun s c => (Builtin.turn c true s).getD s) l.switches
      Launch.read fuel
        ⟨switches, l.inline || letters.contains 'c', l.asInput || letters.contains 's', []⟩ more
    | _ => { l with operands := a :: more }

/-- The program that a script asks for, with the one argument that it may give. -/
def interpreter? (contents : Text) : Option (Text × List Text) :=
  match contents with
  | '#' :: '!' :: t =>
    let isGap (c : Char) : Bool := c = ' ' || c = '\t'
    let line := Text.dropEndWhile isGap ((t.takeWhile (· ≠ '\n')).dropWhile isGap)
    let name := line.takeWhile fun c => !isGap c
    let rest := (line.drop name.length).dropWhile isGap
    if name = [] then none else some (name, if rest = [] then [] else [rest])
  | _ => none

/-- The directories in which programs are looked for. -/
def homes : List String := ["/usr/bin/", "/bin/"]

/-- The name of a program that every system has, without its directory. -/
def systemName (t : Text) : Text :=
  (homes.findSome? fun d => Text.after? d.toList t).getD t

/-- Programs that are also commands of the shell. -/
def doubles : List String := ["echo", "printf", "test", "[", "kill", "pwd"]

/-- Whether every system has a program. -/
def isSystemProgram (name : Text) : Bool :=
  let s := String.ofList name
  Program.launchers.contains s || doubles.contains s || (Program.ofName? s).isSome

/-- What is left when a program is stopped at a time. -/
def cutAt (time : Nat) (m : Machine) : Machine :=
  { m with
    time := time
    output := m.output.filter (·.1 ≤ time), complaints := m.complaints.filter (·.1 ≤ time) }

/-- Tells the command, if that was asked for. -/
def traced (settings : List (Text × Word)) (args : List Text) (before m : Machine) : Machine :=
  if !m.switches.trace || (settings.isEmpty && args.isEmpty) then m
  else
    let sets := settings.map fun (name, _) => name ++ '=' :: (m.value? name).getD []
    let t := "+ ".toList ++ [' '].intercalate (sets ++ args) ++ ['\n']
    match before.channel? 2 with
    | some c => m.write c t
    | none => m

mutual

/-- The pieces that a word stands for. Text that is not quoted is cut like a value if `loose` is
set. -/
def pieces (loose : Bool) (w : Word) (m : Machine) : Nat → List Piece × Machine
  | 0 => ([], exhausted m)
  | fuel + 1 =>
    if m.ending.isSome then ([], m)
    else
      match w with
      | [] => ([], m)
      | .text [] true :: .value ['@'] use word true :: more =>
        let (ps, m) := segment loose (.value ['@'] use word true) m fuel
        let (rest, m) := pieces loose more m fuel
        (ps ++ rest, m)
      | s :: more =>
        let (ps, m) := segment loose s m fuel
        let (rest, m) := pieces loose more m fuel
        (ps ++ rest, m)
termination_by structural fuel => fuel

/-- The pieces that a segment stands for. -/
def segment (loose : Bool) (s : Segment) (m : Machine) : Nat → List Piece × Machine
  | 0 => ([], exhausted m)
  | fuel + 1 =>
    match s with
    | .text t quoted => (if quoted then quotedPieces t else t.map (.glyph · false loose), m)
    | .senseless => ([], m.fatal "Bad substitution".toList)
    | .sum expression quoted =>
      let (t, m) := wholeText expression m fuel
      match arithmetic (fun name => (m.value? name).getD []) t with
      | .error problem => ([], m.fatal problem)
      | .ok (n, sets) =>
        let m := sets.foldl (fun m (name, value) => m.set name value) m
        (if quoted then quotedPieces (ofInt n) else loosePieces (ofInt n), m)
    | .output body quoted =>
      let (t, m) := outputOf body m fuel
      (if quoted then quotedPieces t else loosePieces t, m)
    | .value name use word quoted =>
      let value := valuePieces m name quoted id
      match use with
      | .plain => (value, wary m name)
      | .length =>
        let m := wary m name
        let size := match name with
          | ['@'] | ['*'] => m.arguments.length
          | name => ((m.value? name).getD []).length
        let t := Text.ofNat size
        (if quoted then quotedPieces t else loosePieces t, m)
      | .orElse emptyToo =>
        if lacks m name emptyToo then pieces (!quoted) word m fuel else (value, m)
      | .ifSet emptyToo =>
        if lacks m name emptyToo then ([], m) else pieces (!quoted) word m fuel
      | .orAssign emptyToo =>
        if !lacks m name emptyToo then (value, m)
        else
          let (t, m) := wholeText word m fuel
          if isName name then
            let m := m.set name t
            (valuePieces m name quoted id, m)
          else ([], m.fatal (name ++ ": bad variable name".toList))
      | .orFail emptyToo =>
        if !lacks m name emptyToo then (value, m)
        else
          let (t, m) := wholeText word m fuel
          let usual := if emptyToo then "parameter not set or null" else "parameter not set"
          ([], m.fatal (name ++ ": ".toList ++ (if word.isEmpty then usual.toList else t)))
      | .dropStart longest =>
        let (ps, m) := pieces false word m fuel
        (valuePieces m name quoted (dropStart (wholeOf ps) longest), wary m name)
      | .dropEnd longest =>
        let (ps, m) := pieces false word m fuel
        (valuePieces m name quoted (dropEnd (wholeOf ps) longest), wary m name)
termination_by structural fuel => fuel

/-- The text that a word stands for where it is not cut. -/
def wholeText (w : Word) (m : Machine) : Nat → Text × Machine
  | 0 => ([], exhausted m)
  | fuel + 1 =>
    let (ps, m) := pieces false w m fuel
    (plain (wholeOf ps), m)
termination_by structural fuel => fuel

/-- What commands write, without line feeds at its end. -/
def outputOf (body : List Command) (m : Machine) : Nat → Text × Machine
  | 0 => ([], exhausted m)
  | fuel + 1 =>
    let i := m.captures.size
    let inner := { m.part with captures := m.captures.push [] }.connect 1 (some (.capture i))
    let inner := finished (runAll body inner fuel) fuel
    let inner := { inner with time := max inner.time inner.heldUntil }
    let t := ((inner.captures[i]?).getD []).reverse.flatten.filter (· ≠ Char.ofNat 0)
    let joined := m.join inner
    (Text.dropEndWhile (· = '\n') t,
      { joined with status := m.status, outputStatus := some joined.status })
termination_by structural fuel => fuel

/-- The fields that words stand for. Behind a command that declares variables, a setting is not
cut; `declaring` is not known before the first field. -/
def expandAll (declaring : Option Bool) (ws : List Word) (m : Machine) :
    Nat → List Text × Machine
  | 0 => ([], exhausted m)
  | fuel + 1 =>
    match ws with
    | [] => ([], m)
    | w :: ws =>
      let (fields, m) := match declaring, setting? w with
        | some true, some (name, value) =>
          let (t, m) := wholeText value m fuel
          ([name ++ '=' :: t], m)
        | _, _ =>
          let (ps, m) := pieces false w m fuel
          ((fieldsOf m.separators ps).flatMap m.globbed, m)
      if m.ending.isSome then ([], m)
      else
        let (rest, m) := expandAll (declaring <|> fields.head?.map declares) ws m fuel
        (fields ++ rest, m)
termination_by structural fuel => fuel

/-- Sets variables one after another. -/
def assignAll (exported : Bool) (settings : List (Text × Word)) (m : Machine) : Nat → Machine
  | 0 => exhausted m
  | fuel + 1 =>
    match settings with
    | [] => m
    | (name, w) :: more =>
      let (t, m) := wholeText w m fuel
      if m.ending.isSome then m
      else
        let m := m.set name t
        let m := if exported && m.ending.isNone then
            m.declare name fun v => { v with exported := true }
          else m
        assignAll exported more m fuel
termination_by structural fuel => fuel

/-- Applies redirections from left to right, up to the first one that is not possible. -/
def redirectAll (rs : List Redirect) (m : Machine) : Nat → Bool × Machine
  | 0 => (false, exhausted m)
  | fuel + 1 =>
    match rs with
    | [] => (true, m)
    | .mk d target w :: rs =>
      let (t, m) := wholeText w m fuel
      if m.ending.isSome then (false, m)
      else if target = .copy && !m.extended && t ≠ ['-'] && !Machine.isDescriptor t then
        (false, m.fatal "Syntax error: Bad fd number".toList)
      else
        match m.redirect d target t with
        | .error problem => (false, m.complain problem)
        | .ok m => redirectAll rs m fuel
termination_by structural fuel => fuel

/-- Runs commands one after another until one of them ends the shell or jumps. -/
def runAll (cs : List Command) (m : Machine) : Nat → Machine
  | 0 => exhausted m
  | fuel + 1 =>
    match cs with
    | [] => m
    | c :: cs =>
      let m := attend (runCommand c m fuel) fuel
      if m.stops then m else runAll cs m fuel
termination_by structural fuel => fuel

/-- Sees to the signals that came. -/
def attend (m : Machine) : Nat → Machine
  | 0 => m
  | fuel + 1 =>
    match m.pending with
    | [] => m
    | n :: more =>
      if m.ending.isSome then m
      else
        let m := { m with pending := more }
        match m.traps.lookup n with
        | some action =>
          let after := runSource (Source.start m.extended 1 action) m fuel
          attend (if after.stops then after else after.done m.status) fuel
        | none => attend m fuel
termination_by structural fuel => fuel

/-- Ends a shell. What it does at its end comes before. -/
def finished (m : Machine) : Nat → Machine
  | 0 => exhausted m
  | fuel + 1 =>
    let ending := m.ending.getD (.status m.status)
    match ending, m.traps.lookup 0 with
    | .status status, some action =>
      let m := { m with
        status, ending := none, jump := none, traps := m.traps.filter (·.1 ≠ 0) }
      let after := runSource (Source.start m.extended 1 action) m fuel
      { after with ending := some (after.ending.getD ending), jump := none }
    | ending, _ => { m with ending := some ending, jump := none }
termination_by structural fuel => fuel

/-- Runs a command whose failure another command looks at. -/
def runTest (cs : List Command) (m : Machine) : Nat → Machine
  | 0 => exhausted m
  | fuel + 1 => { runAll cs { m with tested := true } fuel with tested := m.tested }
termination_by structural fuel => fuel

/-- Runs a loop with a test; `last` is the status of the last turn. -/
def runLoop (negated : Bool) (test body : List Command) (last : Nat) (m : Machine) :
    Nat → Machine
  | 0 => exhausted m
  | fuel + 1 =>
    let (goesOn, m) := turned (runTest test m fuel)
    if !goesOn then m
    else if (m.status = 0) = negated then m.done last
    else
      let (goesOn, m) := turned (runAll body m fuel)
      if goesOn then runLoop negated test body m.status m fuel else m
termination_by structural fuel => fuel

/-- Runs a loop over values. -/
def runEach (name : Text) (values : List Text) (body : List Command) (m : Machine) :
    Nat → Machine
  | 0 => exhausted m
  | fuel + 1 =>
    match values with
    | [] => m
    | t :: more =>
      let m := m.set name t
      if m.ending.isSome then m
      else
        let (goesOn, m) := turned (runAll body m fuel)
        if goesOn then runEach name more body m fuel else m
termination_by structural fuel => fuel

/-- Whether one of some patterns fits a text. -/
def anyFits (patterns : List Word) (t : Text) (m : Machine) : Nat → Bool × Machine
  | 0 => (false, exhausted m)
  | fuel + 1 =>
    match patterns with
    | [] => (false, m)
    | w :: more =>
      let (ps, m) := pieces false w m fuel
      if m.ending.isSome then (false, m)
      else if globFits (wholeOf ps) t then (true, m)
      else anyFits more t m fuel
termination_by structural fuel => fuel

/-- Runs the first arm of a choice that fits. -/
def runArms (arms : List (List Word × List Command)) (t : Text) (m : Machine) : Nat → Machine
  | 0 => exhausted m
  | fuel + 1 =>
    match arms with
    | [] => m.done 0
    | (patterns, body) :: more =>
      let (found, m) := anyFits patterns t m fuel
      if m.ending.isSome then m
      else if found then if body.isEmpty then m.done 0 else runAll body m fuel
      else runArms more t m fuel
termination_by structural fuel => fuel

/-- Runs the commands of a pipeline, all of which start at the same time. -/
def runPipe (cs : List Command) (start : Nat) (input : Option Channel) (failed : Nat)
    (m : Machine) : Nat → Machine
  | 0 => exhausted m
  | fuel + 1 =>
    match cs with
    | [] => m
    | c :: more =>
      let i := m.captures.size
      let inner := { m.part with time := start, captures := m.captures.push [] }
      let inner := inner.connect 0 input
      let inner := if more.isEmpty then inner else inner.connect 1 (some (.capture i))
      let inner := finished (runCommand c inner fuel) fuel
      let joined : Machine := { m.join inner with time := max m.time inner.time }
      let failed := if joined.status = 0 then failed else joined.status
      if joined.killed.isSome then joined
      else if more.isEmpty then
        if m.switches.pipeFail then joined.done failed else joined
      else
        let t := ((inner.captures[i]?).getD []).reverse.flatten
        let (channel, joined) := joined.addStream t (max inner.time inner.heldUntil)
        runPipe more start (some channel) failed joined fuel
termination_by structural fuel => fuel

/-- Runs a command. -/
def runCommand (c : Command) (m : Machine) : Nat → Machine
  | 0 => exhausted m
  | fuel + 1 =>
    if m.switches.dry then m
    else
    match c with
    | .simple settings words rs line => runSimple settings words rs { m with line } fuel
    | .pipe cs => (runPipe cs m.time (m.channel? 0) 0 m fuel).checked
    | .invert c =>
      let m := runTest [c] m fuel
      if m.stops then m else m.done (if m.status = 0 then 1 else 0)
    | .both left right =>
      let m := runTest [left] m fuel
      if !m.stops && m.status = 0 then runCommand right m fuel else m
    | .either left right =>
      let m := runTest [left] m fuel
      if !m.stops && m.status ≠ 0 then runCommand right m fuel else m
    | .aside c => runAside c m fuel
    | .each name items body line =>
      let (values, m) := expandAll (some false) items { m with line } fuel
      if m.ending.isSome then m
      else
        let after := runEach name values body { m.done 0 with loops := m.loops + 1 } fuel
        { after with loops := m.loops }
    | .choose subject arms line =>
      let (t, m) := wholeText subject { m with line } fuel
      if m.ending.isSome then m else runArms arms t m fuel
    | .branch test body other =>
      let m := runTest test m fuel
      if m.stops then m
      else if m.status = 0 then runAll body m fuel
      else if other.isEmpty then m.done 0
      else runAll other m fuel
    | .loop negated test body =>
      let after := runLoop negated test body 0 { m with loops := m.loops + 1 } fuel
      { after with loops := m.loops }
    | .block body => runAll body m fuel
    | .apart body => (m.join (finished (runAll body m.part fuel) fuel)).checked
    | .redirected c rs line =>
      let (possible, inner) := redirectAll rs { m with line } fuel
      if inner.ending.isSome then inner
      else if possible then reconnect rs m (runCommand c inner fuel)
      else ((reconnect rs m inner).done 2).checked
    | .define name body =>
      { m.done 0 with functions := (name, body) :: m.functions.filter (·.1 ≠ name) }
termination_by structural fuel => fuel

/-- Starts a command for whose end nobody waits. It comes to run a little later than the shell. -/
def runAside (c : Command) (m : Machine) : Nat → Machine
  | 0 => exhausted m
  | fuel + 1 =>
    let (c, rs) := match c with
      | .simple settings words rs line => (Command.simple settings words [] line, rs)
      | .redirected c rs _ => (c, rs)
      | c => (c, [])
    let inner := { m.part with time := m.time + 1 }.connect 0 (some .nowhere)
    let (possible, inner) := redirectAll rs inner fuel
    let holds := inner.channels.any fun (d, c) =>
      (d = 1 || d = 2) && match c with
        | .output | .complaints | .capture _ => true
        | _ => false
    let inner := if possible then finished (runCommand c inner fuel) fuel else inner.done 2
    let joined := m.join inner
    if joined.killed.isSome then joined
    else
      { joined.done 0 with
        time := m.time, ending := m.ending
        jobs := m.jobs ++ [⟨inner.time, joined.status, holds⟩] }
termination_by structural fuel => fuel

/-- Runs a simple command: words first, then redirections, then settings of variables. -/
def runSimple (settings : List (Text × Word)) (words : List Word) (rs : List Redirect)
    (m : Machine) : Nat → Machine
  | 0 => exhausted m
  | fuel + 1 =>
    let (args, m) := expandAll none words { m with outputStatus := none } fuel
    if m.ending.isSome then m
    else
      let special := (args.head?.map fun n => specials.contains (String.ofList n)).getD false
      let keeps := special || args.isEmpty
      let (possible, inner) := redirectAll rs m fuel
      if inner.ending.isSome then inner
      else if !possible then
        let m := (reconnect rs m inner).done 2
        if special then m.finish 2 else m.checked
      else
        let before := settings.map fun (name, _) => (name, m.bindings.lookup name)
        let inner := assignAll (!keeps) settings inner fuel
        if inner.ending.isSome then inner
        else
          let inner := traced settings args m inner
          match args with
          | [] => (reconnect rs m (inner.done (inner.outputStatus.getD 0))).checked
          | name :: rest =>
            if name = "exec".toList then
              if rest = [] then inner.done 0 else replaceBy rest inner fuel
            else
              let after := reconnect rs m (call true name rest inner fuel)
              let after := if keeps then after
                else before.foldl (fun m (name, v) => m.restore name v) after
              after.checked
termination_by structural fuel => fuel

/-- Lets a program take the place of the shell. -/
def replaceBy (args : List Text) (m : Machine) : Nat → Machine
  | 0 => exhausted m
  | fuel + 1 =>
    let m := { m with traps := m.traps.filter fun t => t.1 ≠ 0 && t.2 = [] }
    match args with
    | [] => m
    | name :: rest =>
      match runProgram name rest m fuel with
      | .ok m => m.finish m.status
      | .error status =>
        let cause := if status = 126 then "Permission denied" else "not found"
        (Builtin.blame "exec" (name ++ ": ".toList ++ cause.toList) m).finish status
termination_by structural fuel => fuel

/-- Runs what a name and arguments call. -/
def call (named : Bool) (name : Text) (args : List Text) (m : Machine) : Nat → Machine
  | 0 => exhausted m
  | fuel + 1 =>
    let s := String.ofList name
    let missing (status : Nat) : Machine :=
      let cause :=
        if status = 126 then "Permission denied"
        else if m.extended && !name.contains '/' then "command not found"
        else if m.extended then "No such file or directory"
        else "not found"
      (m.complain (name ++ ": ".toList ++ cause.toList)).done status
    let function := if named && !specials.contains s then m.functions.lookup name else none
    match function with
    | some body => runNamed body args m fuel
    | none =>
      match s with
      | "eval" =>
        let t := [' '].intercalate args
        if t.all isBlank then m.done 0
        else
          let after := runSource (Source.start m.extended 1 t) { m with via := "eval: ".toList } fuel
          { after with via := m.via }
      | "." => runFile args m fuel
      | "source" => if m.extended then runFile args m fuel else missing 127
      | "command" =>
        match args with
        | ['-', 'v'] :: names =>
          names.foldl (fun m t =>
            match Builtin.location t m with
            | some place => m.put 1 (place ++ ['\n'])
            | none => m.done 127) (m.done 0)
        | ['-', 'V'] :: names =>
          names.foldl (fun m t =>
            match Builtin.meaning t m with
            | some words => m.put 1 (words ++ ['\n'])
            | none => (m.put 1 (t ++ ": not found\n".toList)).done 127) (m.done 0)
        | args =>
          match args.dropWhile fun a => a = ['-', 'p'] || a = ['-', '-'] with
          | [] => m.done 0
          | name :: rest => call false name rest m fuel
      | s =>
        match Builtin.ofName? s with
        | some builtin => builtin args m
        | none =>
          match runProgram name args m fuel with
          | .ok m => m
          | .error status => missing status
termination_by structural fuel => fuel

/-- Runs the command that a name was given to. -/
def runNamed (body : Command) (args : List Text) (m : Machine) : Nat → Machine
  | 0 => exhausted m
  | fuel + 1 =>
    if 1000 ≤ m.depth then m.fatal "Maximum function recursion depth (1000) reached".toList
    else
      let after := runCommand body
        { m with arguments := args, locals := some [], depth := m.depth + 1, loops := 0 } fuel
      let after := (after.locals.getD []).foldl (fun m (name, v) => m.restore name v) after
      { after with
        arguments := m.arguments, locals := m.locals, depth := m.depth, loops := m.loops
        jump := if after.jump = some .back then none else after.jump }
termination_by structural fuel => fuel

/-- Runs the commands of a file in this shell. -/
def runFile (args : List Text) (m : Machine) : Nat → Machine
  | 0 => exhausted m
  | fuel + 1 =>
    match args with
    | [] => m.done 0
    | file :: _ =>
      if !file.contains '/' then Builtin.abort "." (file ++ ": not found".toList) m
      else
        match m.store.read (m.path file) with
        | .error _ => Builtin.abort "." ("cannot open ".toList ++ file ++ ": No such file".toList) m
        | .ok contents =>
          let inner := { m.done 0 with via := file ++ ": ".toList, depth := m.depth + 1 }
          let after := runSource (Source.start m.extended 1 (ofOctets contents)) inner fuel
          { after with
            via := m.via, depth := m.depth
            jump := if after.jump = some .back then none else after.jump }
termination_by structural fuel => fuel

/-- Runs the commands of a script as they are read. -/
def runSource (s : Source) (m : Machine) : Nat → Machine
  | 0 => exhausted m
  | fuel + 1 =>
    if m.stops || s.isEmpty then m
    else
      match s.next with
      | .error e => { m with line := e.line }.fatal e.problem
      | .ok (cs, s) => runSource s (runAll cs m fuel) fuel
termination_by structural fuel => fuel

/-- Runs a shell from its start to its end. -/
def runShell (name : Text) (extended : Bool) (args : List Text) (m : Machine) : Nat → Machine
  | 0 => exhausted m
  | fuel + 1 =>
    let l := Launch.read (args.length + 1) ⟨m.switches, false, false, []⟩ args
    let m := { m with name, extended, switches := l.switches, arguments := [] }
    let run (t : Text) (m : Machine) : Machine :=
      finished (attend (runSource (Source.start extended 1 t) m fuel) fuel) fuel
    match l.inline, l.operands with
    | true, [] => { m with line := 0 }.fatal "-c requires an argument".toList
    | true, [t] => run t m
    | true, t :: name :: args => run t { m with name, arguments := args }
    | false, operands =>
      match if l.asInput then [] else operands with
      | [] =>
        let (t, m) := m.readAll 0
        run (t.getD []) { m with arguments := operands }
      | file :: args =>
      match m.store.read (m.path file) with
      | .ok contents => run (ofOctets contents) { m with name := file, arguments := args }
      | .error cause =>
        let words := if cause = .notFound then "No such file".toList else causeText cause
        { m with line := 0 }.fatal ("cannot open ".toList ++ file ++ ": ".toList ++ words)
termination_by structural fuel => fuel

/-- Runs a shell as a child of this one. -/
def runChild (name : Text) (extended : Bool) (args : List Text) (m : Machine) : Nat → Machine
  | 0 => exhausted m
  | fuel + 1 =>
    if 100 ≤ m.depth then exhausted m
    else
      let inner := runShell name extended args { child m with depth := 0 } fuel
      let joined := m.join { inner with killed := none }
      match inner.killed.map Builtin.signalWords with
      | some words => if words = "" then joined else joined.put 2 (words.toList ++ ['\n'])
      | none => joined
termination_by structural fuel => fuel

/-- Runs a program with arguments, or says with which status that fails. -/
def runProgram (name : Text) (args : List Text) (m : Machine) : Nat → Except Nat Machine
  | 0 => .ok (exhausted m)
  | fuel + 1 =>
    let short := systemName name
    if !short.contains '/' then
      match String.ofList short with
      | "sh" | "dash" => .ok (runChild name false args m fuel)
      | "bash" => .ok (runChild name true args m fuel)
      | "env" =>
        let args := args.dropWhile fun a => a.head? = some '-'
        let isSetting (a : Text) : Bool := a.contains '='
        let m' := (args.takeWhile isSetting).foldl (fun m a =>
          let (name, value) := Builtin.settingOf a
          (m.set name (value.getD [])).declare name fun v => { v with exported := true }) m
        match args.dropWhile isSetting with
        | [] =>
          let t := m'.bindings.flatMap fun (name, v) =>
            if v.exported then name ++ '=' :: v.value.getD [] ++ ['\n'] else []
          .ok ((m.put 1 t).done 0)
        | name :: rest =>
          match runProgram name rest m' fuel with
          | .ok after => .ok { after with bindings := m.bindings }
          | .error status =>
            let cause := if status = 126 then "Permission denied" else "No such file or directory"
            let t := "env: '".toList ++ name ++ "': ".toList ++ cause.toList ++ ['\n']
            .ok ((m.put 2 t).done status)
      | "nohup" | "nice" | "setsid" | "stdbuf" =>
        match args with
        | ['-', 'n'] :: _ :: name :: rest => runProgram name rest m fuel
        | args =>
          match args.dropWhile fun a => a.head? = some '-' with
          | [] => .ok (m.done 0)
          | name :: rest => runProgram name rest m fuel
      | "timeout" =>
        let args := match args with
          | ['-', 's'] :: _ :: more | ['-', 'k'] :: _ :: more => more
          | args => args.dropWhile fun a => a.head? = some '-'
        match args with
        | span :: name :: rest =>
          match Program.millis? span with
          | none => .ok (m.deed [] (misuse "timeout" 125
              ("invalid time interval '".toList ++ span ++ ['\''])))
          | some time =>
            let stop := m.time + time
            let inner := { m with limit := some (min stop (m.limit.getD stop)) }
            match runProgram name rest inner fuel with
            | .ok after =>
              let after := { after with limit := m.limit, ending := m.ending }
              .ok (if stop < after.time then (cutAt stop after).done 124 else after)
            | .error status =>
              let cause := if status = 126 then "Permission denied" else "No such file or directory"
              let t := "timeout: failed to run command '".toList ++ name ++ "': ".toList ++
                cause.toList ++ ['\n']
              .ok ((m.put 2 t).done status)
        | _ => .ok (m.deed [] (misuse "timeout" 125 "missing operand".toList))
      | "xargs" =>
        let (t, m) := m.readAll 0
        let words := inputWords (t.getD [])
        match args with
        | ['-', 'n'] :: n :: rest =>
          .ok (runBatches (max 1 (number n)) (if rest = [] then ["echo".toList] else rest)
            words (m.done 0) fuel)
        | ['-', 'I'] :: mark :: rest | ('-' :: 'I' :: mark) :: rest =>
          let lines := (Text.lines (t.getD [])).filter (· ≠ [])
          .ok (runLines mark rest lines (m.done 0) fuel)
        | args =>
          let args := args.dropWhile fun a => a.head? = some '-'
          let args := if args = [] then ["echo".toList] else args
          .ok (runBatches (words.length + 1) args
            words (if words = [] then runWords args m fuel else m.done 0) fuel)
      | s =>
        match Program.ofName? s with
        | some program => .ok (program args m)
        | none =>
          if doubles.contains s then
            match Builtin.ofName? s with
            | some builtin =>
              let after := builtin args { m with extended := true }
              .ok { after with extended := m.extended }
            | none => .error 127
          else .error 127
    else
      match m.store.resolve (m.path name) with
      | .ok (_, .file contents true) =>
        let contents := ofOctets contents
        match interpreter? contents with
        | none => .ok (runChild name false (name :: args) m fuel)
        | some (program, given) =>
          if program.contains '/' then runProgram program (given ++ name :: args) m fuel
          else .error 127
      | .ok _ => .error 126
      | .error _ => .error 127
termination_by structural fuel => fuel

/-- Runs a program that is the first of some words. -/
def runWords (args : List Text) (m : Machine) : Nat → Machine
  | 0 => exhausted m
  | fuel + 1 =>
    match args with
    | [] => m
    | name :: rest =>
      match runProgram name rest m fuel with
      | .ok m => if m.status = 0 then m else m.done 123
      | .error status =>
        let cause := if status = 126 then "Permission denied" else "No such file or directory"
        (m.put 2 ("xargs: ".toList ++ name ++ ": ".toList ++ cause.toList ++ ['\n'])).done status
termination_by structural fuel => fuel

/-- Runs a program with some of the words at a time. -/
def runBatches (size : Nat) (args words : List Text) (m : Machine) : Nat → Machine
  | 0 => exhausted m
  | fuel + 1 =>
    if words = [] || m.stops then m
    else
      let after := runWords (args ++ words.take size) m fuel
      let after := if after.status = 0 then after.done m.status else after
      runBatches size args (words.drop size) after fuel
termination_by structural fuel => fuel

/-- Runs a program with one line at a time in place of a mark. -/
def runLines (mark : Text) (args lines : List Text) (m : Machine) : Nat → Machine
  | 0 => exhausted m
  | fuel + 1 =>
    match lines with
    | [] => m
    | l :: more =>
      if m.stops then m
      else
        let after := runWords (args.map fun a => filledIn mark l (a.length + 1) a) m fuel
        let after := if after.status = 0 then after.done m.status else after
        runLines mark args more after fuel
termination_by structural fuel => fuel

end

end Marginalia.Shell
