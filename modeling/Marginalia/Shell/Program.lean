import Marginalia.Shell.Machine
import Marginalia.Shell.Sed

/-!
# Programs

The programs that every system has, as steps of the shell: they read descriptors and files, write,
change files, and end with a status.
-/

namespace Marginalia.Shell

/-- A program does something with its arguments. -/
abbrev Program := List Text → Machine → Machine

namespace Program

/-! ## Input -/

/-- The words of a utility that cannot read a file. -/
def unreadable (utility : String) (file cause : Text) : Text :=
  let isDirectory := cause = "Is a directory".toList
  let quoted := '\'' :: file ++ ['\'']
  let problem : Text := match utility with
    | "head" | "tail" =>
      if isDirectory then "error reading ".toList ++ quoted
      else "cannot open ".toList ++ quoted ++ " for reading".toList
    | "tac" => "failed to open ".toList ++ quoted ++ " for reading".toList
    | "rev" => "cannot open ".toList ++ file
    | "sort" => "cannot read: ".toList ++ file
    | "sed" => if isDirectory then "read error on ".toList ++ file else "can't read ".toList ++ file
    | _ => file
  remark utility (problem ++ ": ".toList ++ cause)

/-- The words of a utility whose input is closed. -/
def inputClosed (utility : String) : List Text :=
  let cause := ": Bad file descriptor".toList
  match utility with
  | "cat" => ["cat: -".toList ++ cause, "cat: closing standard input".toList ++ cause]
  | "head" => ["head: error reading 'standard input'".toList ++ cause, "head: -".toList ++ cause]
  | "tail" => ["tail: cannot fstat 'standard input'".toList ++ cause, "tail: -".toList ++ cause]
  | "wc" => ["wc: 'standard input'".toList ++ cause, "wc: -".toList ++ cause]
  | "sed" => ["sed: read error on stdin".toList ++ cause]
  | "sort" => ["sort: stat failed: -".toList ++ cause]
  | "grep" => ["grep: (standard input)".toList ++ cause]
  | "tee" => ["tee: read error".toList ++ cause, "tee: standard input".toList ++ cause]
  | u => [remark u ("read error".toList ++ cause)]

/-- What could be read, with its names, and what is said about the rest. -/
structure Input where
  parts : List (Text × Text)
  complaints : List Text

/-- How much is read of an endless text, where so much as `need` is wanted, or all of it. If the
output is captured, whoever reads it stops at some time. -/
def enough (m : Machine) (need : Nat) : Nat :=
  match need, m.channel? 1 with
  | 0, some (.capture _) => 200000
  | n, _ => n

/-- Reads one operand. Of an endless one so much as `need` is read. -/
def readOperand (utility : String) (need : Nat) (file : Text) (m : Machine) :
    Except (List Text) Text × Machine :=
  let need := enough m need
  if file = ['-'] then
    match m.channel? 0 with
    | some .zeros => if need = 0 then (.ok [], m.hang) else (.ok (m.textOf .zeros need), m)
    | _ =>
      match m.readAll 0 with
      | (some t, m) => (.ok t, m)
      | (none, m) => (.error (inputClosed utility), m)
  else
    match m.device? file with
    | some (some .zeros) =>
      if need = 0 then (.ok [], m.hang) else (.ok (m.textOf .zeros need), m)
    | some (some c) => (.ok (m.textOf c 0), m.leave c [])
    | some none => (.error [unreadable utility file "No such file or directory".toList], m)
    | none =>
      match m.store.read (m.path file) with
      | .ok octets => (.ok (ofOctets octets), m)
      | .error cause => (.error [unreadable utility file (causeText cause)], m)

/-- Reads all operands. -/
def readOperands (utility : String) (need : Nat) : List Text → Machine → Input × Machine
  | [], m => (⟨[], []⟩, m)
  | file :: more, m =>
    let (result, m) := readOperand utility need file m
    let (input, m) := readOperands utility need more m
    match result with
    | .ok t => ({ input with parts := (file, t) :: input.parts }, m)
    | .error complaints => ({ input with complaints := complaints ++ input.complaints }, m)

/-- The operands, or the input without a name. -/
def orInput (operands : List Text) : List Text := if operands = [] then [['-']] else operands

/-- Says what was said and writes what is written, if that is possible. -/
def conclude (utility : String) (complaints : List Text) (t : Text) (status : Nat) (m : Machine) :
    Machine :=
  let m := complaints.foldl (fun m c => m.put 2 (c ++ ['\n'])) m
  match if t = [] then none else m.blocked? 1 with
  | some cause =>
    let place := if cause = "Bad file descriptor".toList then "standard output" else "write error"
    (m.put 2 (remark utility (place.toList ++ ": ".toList ++ cause) ++ ['\n'])).done 1
  | none => (m.put 1 t).done status

/-- A program that reads its operands and writes what it makes of them. -/
def filter (utility : String) (g : Grammar) (failure : Nat)
    (f : Options → List (Text × Text) → Text × Nat) : Program := fun args m =>
  let o := g.read args
  match o.unknown with
  | some t => m.deed [] (badOption utility failure t)
  | none =>
    let (input, m) := readOperands utility 0 (orInput o.operands) m
    let (t, status) := f o input.parts
    conclude utility input.complaints t (if input.complaints = [] then status else failure) m

/-- A program that makes one text of all its input. -/
def simpleFilter (utility : String) (g : Grammar) (failure : Nat) (f : Options → Text → Text) :
    Program :=
  filter utility g failure fun o parts => (f o (parts.flatMap Prod.snd), 0)

/-! ## Filters -/

/-- Copies its operands one after another. -/
def catProgram : Program := fun args m =>
  let g : Grammar := ⟨"AbeEnstTuv", "",
    [("number", 'n'), ("show-all", 'A'), ("show-ends", 'E'), ("squeeze-blank", 's')]⟩
  let o := g.read args
  match o.unknown with
  | some t => m.deed [] (badOption "cat" 1 t)
  | none =>
    if o.letters.all (· = 'u') then
      (orInput o.operands).foldl (fun m file =>
        if m.stops then m
        else
          let before := m.status
          match readOperand "cat" 0 file m with
          | (.ok t, m) => conclude "cat" [] t before m
          | (.error complaints, m) => conclude "cat" complaints [] 1 m) (m.done 0)
    else
      let (input, m) := readOperands "cat" 0 (orInput o.operands) m
      conclude "cat" input.complaints (Shell.cat o (input.parts.flatMap Prod.snd))
        (if input.complaints = [] then 0 else 1) m

/-- The octets that a program takes from its input in one go. -/
def blockSize : Nat := 8192

/-- Writes the first part of its operands. -/
def headProgram : Program := fun args m =>
  let args := match args with
    | ('-' :: c :: t) :: more =>
      if c.isDigit then ['-', 'n'] :: (c :: t) :: more else args
    | args => args
  let g : Grammar := ⟨"qv", "nc", [("lines", 'n'), ("bytes", 'c'), ("quiet", 'q')]⟩
  let o := g.read args
  let isCount (t : Text) : Bool := isInteger t
  match o.unknown, o.values.find? fun v => !isCount v.2 with
  | some t, _ => m.deed [] (badOption "head" 1 t)
  | none, some (c, v) =>
    let what := if c = 'c' then "bytes" else "lines"
    m.deed [] ⟨[], [remark "head" ("invalid number of ".toList ++ what.toList ++ ": '".toList ++ v ++
      ['\''])], 1⟩
  | none, none =>
    let need := ((o.value? 'c').map number).getD 0
    let before := m
    let (input, m) := readOperands "head" need (orInput o.operands) m
    let t := withHeadings (Shell.head o) input.parts
    let m := match o.operands, before.channel? 0 with
      | [], some c =>
        let all := before.textOf c 0
        let used := (Shell.head o all).length
        let used := if (o.value? 'c').isSome then used
          else (used + blockSize - 1) / blockSize * blockSize
        m.leave c (all.drop used)
      | _, _ => m
    conclude "head" input.complaints t (if input.complaints = [] then 0 else 1) m

/-- Writes the last part of its operands. -/
def tailProgram : Program := fun args m =>
  let args := match args with
    | ('-' :: c :: t) :: more =>
      if c.isDigit then ['-', 'n'] :: (c :: t) :: more else args
    | args => args
  filter "tail" ⟨"qvf", "nc", [("lines", 'n'), ("bytes", 'c'), ("quiet", 'q')]⟩ 1
    (fun o parts => (withHeadings (Shell.tail o) parts, 0)) args m

/-- Translates the characters of its input. -/
def trProgram : Program := fun args m =>
  let o := (⟨"cCdst", "", [("delete", 'd'), ("squeeze-repeats", 's'), ("complement", 'c')]⟩ :
    Grammar).read args
  match o.unknown, o.operands with
  | some t, _ => m.deed [] (badOption "tr" 1 t)
  | none, [] => m.deed [] (misuse "tr" 1 "missing operand".toList)
  | none, operands =>
    if operands.length = 1 && !o.has 'd' && !o.has 's' then
      m.deed [] ⟨[], [remark "tr" ("missing operand after '".toList ++ operands.headD [] ++ ['\'']),
        "Two strings must be given when translating.".toList, seeHelp "tr"], 1⟩
    else if operands.length > (if o.has 'd' && !o.has 's' then 1 else 2) then
      let extra := (operands[if o.has 'd' && !o.has 's' then 1 else 2]?).getD []
      m.deed [] ⟨[], remark "tr" ("extra operand '".toList ++ extra ++ ['\'']) ::
        (if o.has 'd' && !o.has 's' then
          ["Only one string may be given when deleting without squeezing repeats.".toList]
        else []) ++ [seeHelp "tr"], 1⟩
    else if let some range := operands.findSome? trReversed? then
      m.deed [] ⟨[], [remark "tr" ("range-endpoints of '".toList ++ range ++
        "' are in reverse collating sequence order".toList)], 1⟩
    else if operands[1]? = some [] && !o.has 'd' && !o.has 't' then
      m.deed [] ⟨[], [remark "tr"
        "when not truncating set1, string2 must be non-empty".toList], 1⟩
    else
      match readOperand "tr" 0 ['-'] m with
      | (.ok t, m) => conclude "tr" [] (Shell.tr o t) 0 m
      | (.error complaints, m) => conclude "tr" complaints [] 1 m

/-- Looks for lines. -/
def grepProgram (extended fixed : Bool) : Program := fun args m =>
  let o := (⟨"EFGvcinqsoxwlhHay", "emABCK", [("color", 'K'), ("invert-match", 'v'), ("count", 'c'),
    ("ignore-case", 'i'), ("quiet", 'q'), ("only-matching", 'o'), ("extended-regexp", 'E'),
    ("fixed-strings", 'F'), ("line-number", 'n')]⟩ : Grammar).read args
  let o := { o with letters := o.letters ++ (if extended then ['E'] else []) ++
    (if fixed then ['F'] else []) }
  match o.unknown with
  | some t =>
    m.deed [] ⟨[], [remark "grep" ("invalid option -- '".toList ++ t ++ ['\'']),
      "Usage: grep [OPTION]... PATTERNS [FILE]...".toList,
      "Try 'grep --help' for more information.".toList], 2⟩
  | none =>
    let given := o.allValues 'e'
    let (patterns, files) := if given ≠ [] then (some (['\n'].intercalate given), o.operands)
      else (o.operands.head?, o.operands.drop 1)
    match patterns with
    | none =>
      m.deed [] ⟨[], ["Usage: grep [OPTION]... PATTERNS [FILE]...".toList,
        "Try 'grep --help' for more information.".toList], 2⟩
    | some pattern =>
      match grepRegex o pattern with
      | .error e => m.deed [] ⟨[], [remark "grep" e.toList], 2⟩
      | .ok r =>
        let (input, m) := readOperands "grep" 0 (orInput files) m
        let o := if files.length > 1 then { o with letters := 'H' :: o.letters } else o
        let (t, found) := Shell.grep o r input.parts
        let complaints := if o.has 's' then [] else input.complaints
        let status := if o.has 'q' && found then 0
          else if input.complaints ≠ [] then 2 else if found then 0 else 1
        conclude "grep" complaints t status m

/-- Writes its input to files and to its output. -/
def teeProgram : Program := fun args m =>
  let o := (⟨"aip", "", [("append", 'a')]⟩ : Grammar).read args
  match o.unknown with
  | some t => m.deed [] (badOption "tee" 1 t)
  | none =>
    let (channels, complaints, m) := o.operands.foldl (fun (cs, complaints, m) file =>
      match m.openToWrite file (o.has 'a') with
      | .ok (c, m) => (cs ++ [c], complaints, m)
      | .error cause =>
        (cs, complaints ++ [remark "tee" (file ++ ": ".toList ++ causeText cause)], m))
      (([] : List Channel), ([] : List Text), m)
    match readOperand "tee" 0 ['-'] m with
    | (.error more, m) => conclude "tee" (complaints ++ more) [] 1 m
    | (.ok t, m) =>
      let m := channels.foldl (fun m c => m.write c t) m
      conclude "tee" complaints t (if complaints = [] then 0 else 1) m

/-! ## The stream editor -/

/-- The scripts and the files among the arguments of the stream editor. -/
def sedProgram : Program := fun args m =>
  let g : Grammar := ⟨"nErsuz", "efi", [("quiet", 'n'), ("silent", 'n'), ("expression", 'e'),
    ("regexp-extended", 'E'), ("file", 'f'), ("in-place", 'I')]⟩
  let inPlace := args.any fun a => a = "-i".toList || a = "--in-place".toList
  let args := args.filter fun a => a ≠ "-i".toList && a ≠ "--in-place".toList
  let o := g.read args
  match o.unknown with
  | some t => m.deed [] ⟨[], [remark "sed" ("invalid option -- '".toList ++ t ++ ['\''])], 1⟩
  | none =>
    let fromFiles (v : Char × Text) : Text :=
      if v.1 = 'f' then
        Text.dropFinal '\n' (ofOctets ((m.store.read (m.path v.2)).toOption.getD []))
      else v.2
    let missing := o.values.find? fun v => v.1 = 'f' && !m.store.isFile (m.path v.2)
    let given := (o.values.filter fun v => v.1 = 'e' || v.1 = 'f').map fromFiles
    let (script, files) := if given ≠ [] then (some (['\n'].intercalate given), o.operands)
      else (o.operands.head?, o.operands.drop 1)
    match if missing.isSome then some [] else script with
    | none => m.deed [] ⟨[], ["Usage: sed [OPTION]... \x7bscript-only-if-no-other-script\x7d ".toList ++
        "[input-file]...".toList], 1⟩
    | some script =>
      if let some (_, file) := missing then
        m.deed [] ⟨[], [remark "sed" ("couldn't open file ".toList ++ file ++
          ": No such file or directory".toList)], 4⟩
      else
      match Sed.edits (o.has 'E' || o.has 'r') (script.length + 2) script with
      | .error (left, problem) =>
        m.deed [] ⟨[], ["sed: -e expression #1, char ".toList ++
          Text.ofNat (script.length - left) ++ ": ".toList ++ problem.toList], 1⟩
      | .ok program =>
        let silent := o.has 'n' || (Text.after? "#n\n".toList script).isSome
        let lookUp (name : Text) : Option Text :=
          (m.store.read (m.path name)).toOption.map ofOctets
        let deliver (m : Machine) (written : List (Text × Text)) : Machine :=
          let names := (written.map Prod.fst).eraseDups
          let m := names.foldl (fun m name =>
            match m.openToWrite name false with
            | .ok (_, m) => m
            | .error _ => m) m
          written.foldl (fun m (name, t) =>
            match m.device? name with
            | some (some c) => m.write c t
            | _ => m.appendTo (m.path name) t) m
        if inPlace then
          files.foldl (fun m file =>
            match m.store.read (m.path file) with
            | .error cause =>
              conclude "sed" [unreadable "sed" file (causeText cause)] [] 2 m
            | .ok octets =>
              let (t, written, status) := Sed.run program silent lookUp (ofOctets octets)
              let m := match m.store.write (m.path file) (toOctets t) with
                | .ok store => { m with store := store }
                | .error _ => m
              (deliver m written).done status) (m.done 0)
        else
          let (input, m) := readOperands "sed" 0 (orInput files) m
          let closed := input.parts = [] && files = []
          let texts := input.parts.map Prod.snd
          let joined := texts.dropLast.flatMap (fun t =>
            if t = [] || t.getLast? = some '\n' then t else t ++ ['\n']) ++ texts.getLastD []
          let (t, written, status) := Sed.run program silent lookUp joined
          let status := if input.complaints = [] then status else if closed then 4 else 2
          conclude "sed" input.complaints t status (deliver m written)

/-! ## Files -/

/-- A complaint about a file. -/
def about (utility verb : String) (file cause : Text) : Text :=
  remark utility (verb.toList ++ " '".toList ++ file ++ "': ".toList ++ cause)

/-- Does something with each operand. -/
def each (utility : String) (g : Grammar) (missing : String)
    (f : Options → Text → Machine → Except Text Machine) : Program := fun args m =>
  let o := g.read args
  match o.unknown, o.operands with
  | some t, _ => m.deed [] (badOption utility 1 t)
  | none, [] =>
    if o.has 'f' then m.done 0 else m.deed [] (misuse utility 1 missing.toList)
  | none, operands =>
    operands.foldl (fun m t =>
      match f o t m with
      | .ok after => after.done m.status
      | .error complaint => (m.put 2 (complaint ++ ['\n'])).done 1) (m.done 0)

/-- Makes directories. -/
def mkdirProgram : Program :=
  each "mkdir" ⟨"pv", "m", [("parents", 'p')]⟩ "missing operand" fun o t m =>
    match if o.has 'p' then m.store.makeDirectories (m.path t)
      else m.store.makeDirectory (m.path t) with
    | .ok store => .ok { m with store := store }
    | .error cause => .error (about "mkdir" "cannot create directory" t (causeText cause))

/-- Removes files and directories. -/
def rmProgram : Program :=
  each "rm" ⟨"rRfvid", "", [("recursive", 'r'), ("force", 'f')]⟩ "missing operand" fun o t m =>
    match m.store.resolve (m.path t) with
    | .error cause =>
      if o.has 'f' && cause = .notFound then .ok m
      else .error (about "rm" "cannot remove" t (causeText cause))
    | .ok (loc, .directory) =>
      if o.has 'r' || o.has 'R' then .ok { m with store := m.store.drop loc }
      else .error (about "rm" "cannot remove" t "Is a directory".toList)
    | .ok (loc, _) => .ok { m with store := m.store.drop loc }

/-- Removes empty directories. -/
def rmdirProgram : Program :=
  each "rmdir" ⟨"pv", "", []⟩ "missing operand" fun _ t m =>
    match m.store.resolve (m.path t) with
    | .error cause => .error (about "rmdir" "failed to remove" t (causeText cause))
    | .ok (loc, .directory) =>
      if m.namesIn t ≠ [] then
        .error (about "rmdir" "failed to remove" t "Directory not empty".toList)
      else if loc.isPrefixOf m.store.home then
        .error (about "rmdir" "failed to remove" t "Invalid argument".toList)
      else .ok { m with store := m.store.drop loc }
    | .ok _ => .error (about "rmdir" "failed to remove" t "Not a directory".toList)

/-- Makes files that are not there. -/
def touchProgram : Program :=
  each "touch" ⟨"acm", "dtr", []⟩ "missing file operand" fun o t m =>
    if (m.store.resolve (m.path t)).toOption.isSome || o.has 'c' then .ok m
    else
      match m.store.write (m.path t) [] with
      | .ok store => .ok { m with store := store }
      | .error cause => .error (about "touch" "cannot touch" t (causeText cause))

/-- Lets files be run. -/
def chmodProgram : Program := fun args m =>
  match args with
  | mode :: files =>
    let isNumber := mode.all Char.isDigit
    let odd (c : Char) : Bool := (c.toNat - 48) % 2 = 1
    let concerns := isNumber || mode.contains 'x' || mode.contains '='
    let runs := if isNumber then mode.any odd
      else mode.contains 'x' && !mode.contains '-'
    files.foldl (fun m t =>
      match m.store.resolve (m.path t) with
      | .error cause =>
        (m.put 2 (about "chmod" "cannot access" t (causeText cause) ++ ['\n'])).done 1
      | .ok (loc, .file contents _) =>
        if concerns then { m with store := m.store.put loc (.file contents runs) } else m
      | .ok _ => m) (m.done 0)
  | [] => m.deed [] (misuse "chmod" 1 "missing operand".toList)

/-- The path of a file in a directory, if the path leads to one. -/
def inside (m : Machine) (source target : Text) : Text :=
  if m.store.isDirectory (m.path target) then
    Text.dropEndWhile (· = '/') target ++ '/' :: basename source []
  else target

/-- Copies or moves files. -/
def transfer (utility : String) (moves : Bool) : Program := fun args m =>
  let o := (⟨"rRafpvniT", "", [("recursive", 'r')]⟩ : Grammar).read args
  match o.unknown, o.operands.reverse with
  | some t, _ => m.deed [] (badOption utility 1 t)
  | none, [] => m.deed [] (misuse utility 1 "missing file operand".toList)
  | none, [t] =>
    m.deed [] (misuse utility 1 ("missing destination file operand after '".toList ++ t ++ ['\'']))
  | none, target :: sources =>
    sources.reverse.foldl (fun m source =>
      let target' := inside m source target
      match m.store.resolve (m.path source) with
      | .error cause =>
        (m.put 2 (about utility "cannot stat" source (causeText cause) ++ ['\n'])).done 1
      | .ok (_, .directory) =>
        (m.put 2 (remark utility ("-r not specified; omitting directory '".toList ++ source ++
          "'\n".toList))).done 1
      | .ok (loc, .file contents runs) =>
        match m.store.write (m.path target') contents with
        | .error cause =>
          (m.put 2 (remark utility ("cannot create regular file '".toList ++ target' ++
            "': ".toList ++ causeText cause ++ ['\n']))).done 1
        | .ok store =>
          let store := if runs then store.allowRunning (m.path target') else store
          { m with store := if moves then store.drop loc else store }) (m.done 0)

/-- Lists files. -/
def lsProgram : Program := fun args m =>
  let o := (⟨"1aAlrtdhRSFpC", "", []⟩ : Grammar).read args
  match o.unknown with
  | some t => m.deed [] (badOption "ls" 2 t)
  | none =>
    let names (dir : Text) : List Text :=
      let all := m.namesIn dir
      if o.has 'a' then ['.'] :: ['.', '.'] :: all
      else if o.has 'A' then all else all.filter (·.head? ≠ some '.')
    let operands := (if o.operands = [] then [['.']] else o.operands).mergeSort
      fun a b => (Text.compare a b).isLE
    let found := operands.map fun t => (t, m.store.resolve (m.path t))
    let complaints := found.filterMap fun
      | (t, .error cause) => some (about "ls" "cannot access" t (causeText cause))
      | _ => none
    let files := found.filterMap fun
      | (t, .ok (_, .file _ _)) => some t
      | (t, .ok (_, .directory)) => if o.has 'd' then some t else none
      | _ => none
    let dirs := found.filterMap fun
      | (t, .ok (_, .directory)) => if o.has 'd' then none else some t
      | _ => none
    let listings := dirs.map fun d =>
      (if operands.length > 1 then d ++ ":\n".toList else []) ++ Text.unlines (names d)
    let blocks := (if files = [] then [] else [Text.unlines files]) ++ listings
    conclude "ls" complaints (['\n'].intercalate blocks) (if complaints = [] then 0 else 2) m

/-! ## Time and numbers -/

/-- A span of time in seconds, as milliseconds. -/
def millis? (t : Text) : Option Nat :=
  let whole := t.takeWhile Char.isDigit
  let rest := t.drop whole.length
  let (part, rest) := match rest with
    | '.' :: rest => (rest.takeWhile Char.isDigit, rest.dropWhile Char.isDigit)
    | rest => ([], rest)
  let scale : Option Nat := match rest with
    | [] | ['s'] => some 1
    | ['m'] => some 60
    | ['h'] => some 3600
    | ['d'] => some 86400
    | _ => none
  if t = "infinity".toList || t = "inf".toList then some never
  else if whole = [] && part = [] then none
  else scale.map fun s => s * (number whole * 1000 + number ((part ++ ['0', '0', '0']).take 3))

/-- Waits. -/
def sleepProgram : Program := fun args m =>
  match args, args.find? fun t => (millis? t).isNone with
  | [], _ => m.deed [] (misuse "sleep" 1 "missing operand".toList)
  | _, some t => m.deed [] (misuse "sleep" 1 ("invalid time interval '".toList ++ t ++ ['\'']))
  | args, none => (m.pass ((args.filterMap millis?).foldl (· + ·) 0)).done 0

/-- Writes the same line again and again. -/
def yesProgram : Program := fun args m =>
  let line := (if args = [] then ['y'] else [' '].intercalate args) ++ ['\n']
  match m.channel? 1 with
  | some (.capture _) =>
    (m.put 1 ((List.replicate (200000 / line.length + 1) line).flatten)).done 141
  | _ => m.hang

/-- Copies blocks. -/
def ddProgram : Program := fun args m =>
  let value (key : String) : Option Text := args.findSome? (Text.after? key.toList ·)
  let size := ((value "bs=").map fun t =>
    number t * (if t.contains 'k' || t.contains 'K' then 1024
      else if t.contains 'M' then 1048576 else 1)).getD 512
  let count := (value "count=").map number
  let need := (count.map (· * size)).getD 0
  match readOperand "dd" need ((value "if=").getD ['-']) m with
  | (.error complaints, m) => conclude "dd" complaints [] 1 m
  | (.ok all, m) =>
    let t := match count with
      | some n => all.take (n * size)
      | none => all
    let m := match value "if=", m.channel? 0 with
      | none, some c => m.leave c (all.drop t.length)
      | _, _ => m
    match value "of=" with
    | none => (m.put 1 t).done 0
    | some file =>
      match m.openToWrite file false with
      | .ok (c, m) => (m.write c t).done 0
      | .error cause =>
        conclude "dd" [about "dd" "failed to open" file (causeText cause)] [] 1 m

/-- Programs of which only the names are known: they succeed. -/
def plainNames : List String :=
  ["awk", "cmp", "comm", "date", "diff", "find", "gzip", "hostname", "join", "ln", "mktemp", "perl",
   "tput", "who"]

/-! ## All programs -/

/-- Programs that run other programs. -/
def launchers : List String :=
  ["sh", "dash", "bash", "env", "timeout", "nohup", "nice", "setsid", "stdbuf", "xargs"]

/-- The program with a name. -/
def ofName? (name : String) : Option Program :=
  let none' : List (String × Char) := []
  match name with
  | "cat" => some catProgram
  | "head" => some headProgram
  | "tail" => some tailProgram
  | "tr" => some trProgram
  | "grep" => some (grepProgram false false)
  | "egrep" => some (grepProgram true false)
  | "fgrep" => some (grepProgram false true)
  | "tee" => some teeProgram
  | "sed" => some sedProgram
  | "wc" =>
    some (filter "wc" ⟨"lwcmL", "", [("lines", 'l'), ("words", 'w'), ("bytes", 'c')]⟩ 1
      fun o parts => (wc o parts, 0))
  | "tac" =>
    some (simpleFilter "tac" ⟨"b", "s", none'⟩ 1 fun _ t => (fullLines t).reverse.flatten)
  | "rev" => some (simpleFilter "rev" ⟨"", "", none'⟩ 1 fun _ t => onLines List.reverse t)
  | "sort" =>
    some (simpleFilter "sort" ⟨"rnufbsdciV", "ktoS", [("reverse", 'r'), ("unique", 'u')]⟩ 2 sort)
  | "uniq" => some (simpleFilter "uniq" ⟨"cdui", "fsw", [("count", 'c')]⟩ 1 uniq)
  | "nl" => some (simpleFilter "nl" ⟨"", "bnsw", none'⟩ 1 nl)
  | "fold" => some (simpleFilter "fold" ⟨"sb", "w", [("width", 'w')]⟩ 1 fold)
  | "od" => some (simpleFilter "od" ⟨"cvx", "AtNj", none'⟩ 1 od)
  | "base64" =>
    some (simpleFilter "base64" ⟨"di", "w", none'⟩ 1 fun o t =>
      let width := ((o.value? 'w').map number).getD 76
      let letters := base64 t
      if width = 0 then letters
      else Text.unlines (rowsOf (letters.length + 1) width letters))
  | "paste" =>
    some (filter "paste" ⟨"s", "d", [("serial", 's'), ("delimiters", 'd')]⟩ 1 fun o parts =>
      (paste o (parts.map Prod.snd), 0))
  | "cut" => some fun args m =>
    let g : Grammar := ⟨"sn!", "cbfdO", [("delimiter", 'd'), ("fields", 'f'), ("characters", 'c'),
      ("bytes", 'b'), ("only-delimited", 's'), ("output-delimiter", 'O'), ("complement", '!')]⟩
    let o := g.read args
    if o.unknown.isNone && (o.value? 'c' <|> o.value? 'b' <|> o.value? 'f').isNone then
      m.deed [] (misuse "cut" 1
        "you must specify a list of bytes, characters, or fields".toList)
    else if namesZero ((o.value? 'c' <|> o.value? 'b').getD []) then
      m.deed [] (misuse "cut" 1 "byte/character positions are numbered from 1".toList)
    else if namesZero ((o.value? 'f').getD []) then
      m.deed [] (misuse "cut" 1 "fields are numbered from 1".toList)
    else simpleFilter "cut" g 1 cut args m
  | "seq" => some fun args m =>
    let isOption (t : Text) : Bool := t.head? = some '-' && !isInteger t
    let o := (⟨"w", "sf", none'⟩ : Grammar).read (args.takeWhile isOption)
    let o := match args with
      | ['-', 's'] :: v :: _ => { o with values := [('s', v)] }
      | _ => o
    let operands := match args with
      | ['-', 's'] :: _ :: more => more
      | args => args.dropWhile isOption
    m.deed [] (seq o operands)
  | "expr" => some fun args m => m.deed [] (expr args)
  | "basename" => some fun args m =>
    match args with
    | [] => m.deed [] (misuse "basename" 1 "missing operand".toList)
    | t :: more => m.deed [] (.said (basename t (more.headD []) ++ ['\n']))
  | "dirname" => some fun args m =>
    match args with
    | [] => m.deed [] (misuse "dirname" 1 "missing operand".toList)
    | args => m.deed [] (.said (Text.unlines (args.map dirname)))
  | "mkdir" => some mkdirProgram
  | "rm" => some rmProgram
  | "rmdir" => some rmdirProgram
  | "touch" => some touchProgram
  | "chmod" => some chmodProgram
  | "cp" => some (transfer "cp" false)
  | "mv" => some (transfer "mv" true)
  | "ls" => some lsProgram
  | "sleep" => some sleepProgram
  | "yes" => some yesProgram
  | "dd" => some ddProgram
  | "whoami" => some fun _ m => m.deed [] (.said "root\n".toList)
  | "uname" => some fun _ m => m.deed [] (.said "Linux\n".toList)
  | "id" => some fun args m =>
    m.deed [] (.said (if args = [] then "uid=0(root) gid=0(root) groups=0(root)\n".toList
      else if args.any (·.contains 'n') then "root\n".toList else "0\n".toList))
  | "tty" => some fun _ m => (m.put 1 "not a tty\n".toList).done 1
  | "printenv" => some fun args m =>
    args.foldl (fun m t =>
      match m.bindings.lookup t with
      | some ⟨some v, true, _⟩ => m.put 1 (v ++ ['\n'])
      | _ => m.done 1) (m.done 0)
  | "true" | "sync" => some fun _ m => m.done 0
  | "false" => some fun _ m => m.done 1
  | name => if plainNames.contains name then some fun _ m => m.done 0 else none

end Program

end Marginalia.Shell
