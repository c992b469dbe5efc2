import Marginalia.Shell.Format
import Marginalia.Shell.Regex

/-!
# Utilities

What the usual utilities of a shell write, as functions of their options and of their input. Their
operands name the input; each part of it comes with its name, and a dash stands for what is read
without a name.
-/

namespace Marginalia.Shell

/-! ## Options -/

/-- The arguments of a utility, sorted. -/
structure Options where
  /-- The letters without a value. -/
  letters : Text
  /-- The letters with their values, in order. -/
  values : List (Char × Text)
  operands : List Text
  /-- The first letter or name that is no option. -/
  unknown : Option Text

namespace Options

/-- Whether a letter was given. -/
def has (o : Options) (c : Char) : Bool := o.letters.contains c

/-- The last value of a letter. -/
def value? (o : Options) (c : Char) : Option Text := o.values.reverse.lookup c

/-- All values of a letter. -/
def allValues (o : Options) (c : Char) : List Text :=
  (o.values.filter (·.1 = c)).map Prod.snd

end Options

/-- What a utility takes: letters without and with a value, and longer names for them. -/
structure Grammar where
  letters : String
  valued : String
  names : List (String × Char)

/-- Reads letters after one dash; the value of the last one may be the next argument. -/
def Grammar.letter (g : Grammar) : Text → List Text → Options → Options × List Text
  | [], more, o => (o, more)
  | c :: t, more, o =>
    if g.letters.toList.contains c then
      g.letter t more { o with letters := o.letters ++ [c] }
    else if g.valued.toList.contains c then
      if t ≠ [] then ({ o with values := o.values ++ [(c, t)] }, more)
      else
        match more with
        | v :: more => ({ o with values := o.values ++ [(c, v)] }, more)
        | [] => (o, [])
    else ({ o with unknown := o.unknown <|> some [c] }, more)

/-- Sorts arguments; options may stand between operands. -/
def Grammar.sort (g : Grammar) : Nat → List Text → Options → Options
  | 0, _, o => o
  | _ + 1, [], o => o
  | _ + 1, ['-', '-'] :: more, o => { o with operands := o.operands ++ more }
  | fuel + 1, ('-' :: '-' :: name) :: more, o =>
    let key := name.takeWhile (· ≠ '=')
    let value := name.drop (key.length + 1)
    match g.names.lookup (String.ofList key) with
    | none => { o with unknown := o.unknown <|> some ('-' :: '-' :: name) }
    | some c =>
      if !g.valued.toList.contains c then
        g.sort fuel more { o with letters := o.letters ++ [c] }
      else if name.contains '=' then
        g.sort fuel more { o with values := o.values ++ [(c, value)] }
      else g.sort fuel (more.drop 1) { o with values := o.values ++ [(c, more.headD [])] }
  | fuel + 1, ('-' :: c :: t) :: more, o =>
    let (o, more) := g.letter (c :: t) more o
    g.sort fuel more o
  | fuel + 1, a :: more, o => g.sort fuel more { o with operands := o.operands ++ [a] }

/-- The options among arguments. -/
def Grammar.read (g : Grammar) (args : List Text) : Options :=
  g.sort (args.length + 1) args ⟨[], [], [], none⟩

/-! ## Words -/

/-- A line of a utility about itself. -/
def remark (utility : String) (t : Text) : Text := utility.toList ++ ": ".toList ++ t

/-- The line that follows a mistake in a call. -/
def seeHelp (utility : String) : Text :=
  "Try '".toList ++ utility.toList ++ " --help' for more information.".toList

/-- A mistake in a call. -/
def misuse (utility : String) (status : Nat) (problem : Text) : Deed :=
  ⟨[], [remark utility problem, seeHelp utility], status⟩

/-- An option that there is not. -/
def badOption (utility : String) (status : Nat) (t : Text) : Deed :=
  misuse utility status
    (if t.length = 1 then "invalid option -- '".toList ++ t ++ ['\'']
      else "unrecognized option '".toList ++ t ++ ['\''])

/-! ## Lines -/

/-- The lines of a text, each with its line feed. -/
def fullLines (t : Text) : List Text :=
  let parts := t.splitOn '\n'
  parts.dropLast.map (· ++ ['\n']) ++ (parts.drop (parts.length - 1)).filter (· ≠ [])

/-- Applies a function to every line, without its line feed. -/
def onLines (f : Text → Text) (t : Text) : Text :=
  (fullLines t).flatMap fun l =>
    if l.getLast? = some '\n' then f l.dropLast ++ ['\n'] else f l

/-- Whether a character divides words. -/
def isGap (c : Char) : Bool := c = ' ' || c = '\t' || c = '\n'

/-- A number in a column. -/
def column (width n : Nat) : Text :=
  let digits := Text.ofNat n
  List.replicate (width - digits.length) ' ' ++ digits

/-- A visible form of an octet. -/
def visible (c : Char) : Text :=
  let low (n : Nat) : Text :=
    if n < 32 then ['^', Char.ofNat (n + 64)]
    else if n = 127 then ['^', '?'] else [Char.ofNat n]
  if c.toNat < 128 then low c.toNat else ['M', '-'] ++ low (c.toNat - 128)

/-- What `cat` makes of its input. -/
def cat (o : Options) (input : Text) : Text :=
  let every := o.has 'A'
  let ends := o.has 'E' || o.has 'e' || every
  let tabs := o.has 'T' || o.has 't' || every
  let marks := o.has 'v' || o.has 'e' || o.has 't' || every
  let numbered := o.has 'n' || o.has 'b'
  if !ends && !tabs && !marks && !numbered && !o.has 's' then input
  else
    let step (acc : List Text × Nat × Bool) (l : Text) : List Text × Nat × Bool :=
      let (out, n, wasBlank) := acc
      let isBlankLine := l = ['\n']
      if o.has 's' && isBlankLine && wasBlank then acc
      else
        let counts := numbered && !(o.has 'b' && isBlankLine)
        let label := if counts then column 6 (n + 1) ++ ['\t'] else []
        let body := if l.getLast? = some '\n' then l.dropLast else l
        let body := body.flatMap fun c =>
          if c = '\t' then (if tabs then ['^', 'I'] else ['\t'])
          else if marks then visible c else [c]
        let eol := if l.getLast? = some '\n' then (if ends then ['$', '\n'] else ['\n']) else []
        ((label ++ body ++ eol) :: out, if counts then n + 1 else n, isBlankLine)
    ((fullLines input).foldl step ([], 0, false)).1.reverse.flatten

/-- The first part of the input that `head` writes. -/
def head (o : Options) (input : Text) : Text :=
  let amount (t : Text) (size : Nat) : Nat :=
    if t.head? = some '-' then size - number (t.drop 1) else number t
  match o.value? 'c' with
  | some n => input.take (amount n input.length)
  | none =>
    let lines := fullLines input
    (lines.take (amount ((o.value? 'n').getD ['1', '0']) lines.length)).flatten

/-- The last part of the input that `tail` writes. -/
def tail (o : Options) (input : Text) : Text :=
  let skipped (t : Text) (size : Nat) : Nat :=
    if t.head? = some '+' then number (t.drop 1) - 1
    else size - number (if t.head? = some '-' then t.drop 1 else t)
  match o.value? 'c' with
  | some n => input.drop (skipped n input.length)
  | none =>
    let lines := fullLines input
    (lines.drop (skipped ((o.value? 'n').getD ['1', '0']) lines.length)).flatten

/-- Several parts of the input, each under its name. -/
def withHeadings (f : Text → Text) (inputs : List (Text × Text)) : Text :=
  match inputs with
  | [(_, t)] => f t
  | inputs =>
    ['\n'].intercalate (inputs.map fun (name, t) =>
      let shown := if name = ['-'] then "standard input".toList else name
      "==> ".toList ++ shown ++ " <==\n".toList ++ f t)

/-- What `wc` counts: lines, words or octets, and all of them if it is not told what. The numbers
stand in columns if there is more than one. -/
def wc (o : Options) (inputs : List (Text × Text)) : Text :=
  let many := o.operands.length > 1
  let all := o.letters = []
  let counts (t : Text) : List Nat :=
    (if all || o.has 'l' then [t.count '\n'] else []) ++
    (if all || o.has 'w' then [((t.splitOnP isBlank).filter (· ≠ [])).length] else []) ++
    (if all || o.has 'c' || o.has 'm' then [t.length] else []) ++
    (if o.has 'L' then [((Text.lines t).map List.length).foldl max 0] else [])
  let rows := inputs.map fun (name, t) => (name, counts t)
  let sums := (rows.map Prod.snd).foldl (fun acc r =>
    if acc = [] then r else acc.zipWith (· + ·) r) []
  let rows := if many then rows ++ [("total".toList, sums)] else rows
  let unnamed := inputs.any (·.1 = ['-'])
  let size := (inputs.map fun (_, t) => t.length).foldl (· + ·) 0
  let width :=
    if sums.length ≤ 1 && !many then 1
    else if unnamed then 7 else (Text.ofNat size).length
  rows.flatMap fun (name, ns) =>
    [' '].intercalate (ns.map (column width)) ++
      (if name = ['-'] && o.operands = [] then [] else ' ' :: name) ++ ['\n']

/-- Numbers the lines that are not empty. -/
def nl (o : Options) (input : Text) : Text :=
  let every := o.value? 'b' = some ['a']
  let step (acc : List Text × Nat) (l : Text) : List Text × Nat :=
    let body := Text.dropFinal '\n' l
    if body = [] && !every then (("       \n".toList) :: acc.1, acc.2)
    else ((column 6 (acc.2 + 1) ++ '\t' :: body ++ ['\n']) :: acc.1, acc.2 + 1)
  ((fullLines input).foldl step ([], 0)).1.reverse.flatten

/-- Cuts lines into pieces of a width, after a blank if that is asked for. -/
def foldLine (width : Nat) (atBlanks : Bool) : Nat → Text → List Text
  | 0, t => [t]
  | fuel + 1, t =>
    if t.length ≤ width || width = 0 then [t]
    else
      let piece := t.take width
      let kept := if atBlanks then Text.dropEndWhile (· ≠ ' ') piece else piece
      let kept := if kept = [] then piece else kept
      kept :: foldLine width atBlanks fuel (t.drop kept.length)

/-- What `fold` makes of its input. -/
def fold (o : Options) (input : Text) : Text :=
  let width := ((o.value? 'w').map number).getD 80
  onLines (fun l => ['\n'].intercalate (foldLine width (o.has 's') l.length l)) input

/-- The lines of a text as `sort` sees them. -/
def sort (o : Options) (input : Text) : Text :=
  let key (l : Text) : Text :=
    match o.value? 'k' with
    | none => l
    | some k =>
      let first := number k
      match o.value? 't' with
      | some [d] => [d].intercalate ((l.splitOn d).drop (first - 1))
      | _ => [' '].intercalate (((l.splitOnP isGap).filter (· ≠ [])).drop (first - 1))
  let numeric := o.has 'n' || ((o.value? 'k').map (·.contains 'n')).getD false
  let reversed := o.has 'r' || ((o.value? 'k').map (·.contains 'r')).getD false
  let value (l : Text) : Int :=
    let t := (key l).dropWhile isGap
    if t.head? = some '-' then -(number (t.drop 1) : Int) else number t
  let folded (l : Text) : Text := if o.has 'f' then (key l).map Char.toUpper else key l
  let order (a b : Text) : Ordering :=
    let first := if numeric then compare (value a) (value b)
      else Text.compare (folded a) (folded b)
    let first := if reversed then first.swap else first
    if o.has 'u' || o.has 's' then first
    else first.then (if reversed then (Text.compare a b).swap else Text.compare a b)
  let sorted := (Text.lines input).mergeSort fun a b => (order a b).isLE
  let kept := if o.has 'u' then
      sorted.foldr (fun l acc => match acc with
        | m :: rest => if order l m = .eq then l :: rest else l :: acc
        | [] => [l]) []
    else sorted
  Text.unlines kept

/-- Groups of equal lines that follow each other, with their number. -/
def runs (same : Text → Text → Bool) : List Text → List (Text × Nat)
  | [] => []
  | l :: ls =>
    match runs same ls with
    | (m, n) :: rest => if same l m then (l, n + 1) :: rest else (l, 1) :: (m, n) :: rest
    | [] => [(l, 1)]

/-- What `uniq` makes of its input. -/
def uniq (o : Options) (input : Text) : Text :=
  let form (l : Text) : Text := if o.has 'i' then l.map Char.toLower else l
  let groups := runs (fun a b => form a = form b) (Text.lines input)
  let groups := groups.filter fun (_, n) => (!o.has 'd' || n > 1) && (!o.has 'u' || n = 1)
  groups.flatMap fun (l, n) =>
    (if o.has 'c' then column 7 n ++ [' '] else []) ++ l ++ ['\n']

/-- Whether a list of ranges holds a number. -/
def inList (list : Text) (n : Nat) : Bool :=
  (list.splitOn ',').any fun part =>
    match part.splitOn '-' with
    | [a] => number a = n
    | [a, b] => (a = [] || number a ≤ n) && (b = [] || n ≤ number b)
    | _ => false

/-- Whether a list of ranges names the number zero. -/
def namesZero (list : Text) : Bool :=
  (list.splitOn ',').any fun part => (part.head?.map Char.isDigit).getD false && number part = 0

/-- What `cut` keeps of every line. -/
def cut (o : Options) (input : Text) : Text :=
  let keep {α : Type} (list : Text) (xs : List α) : List α :=
    (xs.zipIdx 1).filterMap fun (x, i) => if inList list i != o.has '!' then some x else none
  let lines := Text.lines input
  match o.value? 'c' <|> o.value? 'b', o.value? 'f' with
  | some list, _ => Text.unlines (lines.map (keep list))
  | none, some list =>
    let d := ((o.value? 'd').bind List.head?).getD '\t'
    let glue := (o.value? 'O').getD [d]
    Text.unlines (lines.filterMap fun l =>
      if l.contains d then some (glue.intercalate (keep list (l.splitOn d)))
      else if o.has 's' then none else some l)
  | none, none => []

/-- Lines side by side, or one after another. -/
def paste (o : Options) (inputs : List Text) : Text :=
  let d := ((o.value? 'd').bind List.head?).getD '\t'
  if o.has 's' then Text.unlines (inputs.map fun t => [d].intercalate (Text.lines t))
  else
    let columns := inputs.map Text.lines
    let height := (columns.map List.length).foldl max 0
    Text.unlines ((List.range height).map fun i =>
      [d].intercalate (columns.map fun column => (column[i]?).getD []))

/-! ## Characters -/

/-- The characters of a set for `tr`. -/
def trSet : Nat → Text → Text
  | 0, t => t
  | _ + 1, [] => []
  | fuel + 1, '[' :: ':' :: t =>
    let name := t.takeWhile Char.isAlpha
    match Pattern.Class.ofName? (String.ofList name), Text.after? ":]".toList (t.drop name.length) with
    | some s, some rest => ((List.range 256).map Char.ofNat).filter s.has ++ trSet fuel rest
    | _, _ => '[' :: trSet fuel (':' :: t)
  | fuel + 1, '\\' :: t =>
    let (a, rest) := escapeAt false false t
    let a := if a.length = 2 then a.drop 1 else a
    match a, rest with
    | [low], '-' :: high :: rest =>
      (List.range' low.toNat (high.toNat + 1 - low.toNat)).map Char.ofNat ++ trSet fuel rest
    | a, rest => a ++ trSet fuel rest
  | fuel + 1, a :: '-' :: '\\' :: t =>
    let (b, rest) := escapeAt false false t
    let b := (b.getLast?).getD a
    (List.range' a.toNat (b.toNat + 1 - a.toNat)).map Char.ofNat ++ trSet fuel rest
  | fuel + 1, a :: '-' :: b :: t =>
    (List.range' a.toNat (b.toNat + 1 - a.toNat)).map Char.ofNat ++ trSet fuel t
  | fuel + 1, c :: t => c :: trSet fuel t

/-- A range in a set for `tr` whose ends are in the wrong order. -/
def trReversed? : Text → Option Text
  | a :: '-' :: b :: t =>
    if a ≠ '\\' && b ≠ '\\' && b < a then some [a, '-', b] else trReversed? ('-' :: b :: t)
  | _ :: t => trReversed? t
  | [] => none

/-- A text with one of every run of a character of a set. -/
def squeezed (set t : Text) : Text :=
  (t.foldl (fun acc c =>
    if acc.head? = some c && set.contains c then acc else c :: acc) []).reverse

/-- What `tr` makes of its input. -/
def tr (o : Options) (input : Text) : Text :=
  let sets := o.operands.map fun t => trSet (t.length + 1) t
  let first := sets.headD []
  let first := if o.has 'c' || o.has 'C' then
      ((List.range 256).map Char.ofNat).filter fun c => !first.contains c
    else if o.has 't' && !o.has 'd' then first.take ((sets[1]?).getD first).length
    else first
  if o.has 'd' then
    let left := input.filter fun c => !first.contains c
    if o.has 's' then squeezed ((sets[1]?).getD []) left else left
  else
    match sets[1]? with
    | none => if o.has 's' then squeezed first input else input
    | some target =>
      let table := (first.zipIdx).map fun (c, i) => (c, (target[i]?).getD (target.getLastD c))
      let made := input.map fun c => (table.reverse.lookup c).getD c
      if o.has 's' then squeezed target made else made

/-! ## Searching -/

/-- What `grep` looks for. -/
def grepRegex (o : Options) (pattern : Text) : Except String Regex :=
  let anyCase := o.has 'i'
  let one (p : Text) : Except String Regex :=
    if o.has 'F' then
      .ok (p.foldr (fun c r =>
        .both (.one (if anyCase then .anyCase (Pattern.Class.one c) else Pattern.Class.one c)) r)
        Regex.empty)
    else Regex.ofText ⟨o.has 'E', anyCase⟩ p
  let rec all : List Text → Except String Regex
    | [] => .ok .empty
    | [p] => one p
    | p :: ps => do return .either (← one p) (← all ps)
  all (pattern.splitOn '\n')

/-- The parts of a line that match. -/
def matchesIn (r : Regex) (line : Array Char) : Nat → Nat → List Text
  | 0, _ => []
  | fuel + 1, start =>
    match r.find? line start with
    | none => []
    | some m =>
      if m.stop = m.start then
        if m.start < line.size then matchesIn r line fuel (m.start + 1) else []
      else m.group line 0 :: matchesIn r line fuel m.stop

/-- What `grep` writes, and whether it found something. -/
def grep (o : Options) (r : Regex) (inputs : List (Text × Text)) : Text × Bool :=
  let r : Regex := if o.has 'x' then .both .lineStart (.both r .lineEnd)
    else if o.has 'w' then .both (.edge true) (.both r (.edge true)) else r
  let named := o.has 'H' && !o.has 'h'
  let limit := (o.value? 'm').map number
  let perFile := inputs.map fun (name, t) =>
    let name := if name = ['-'] then "(standard input)".toList else name
    let label : Text := if named then name ++ [':'] else []
    let hits := ((Text.lines t).zipIdx 1).filter fun (l, _) =>
      (r.find? l.toArray 0).isSome != o.has 'v'
    let hits := match limit with
      | some n => hits.take n
      | none => hits
    let around (c : Char) : Nat := (((o.value? c) <|> o.value? 'C').map number).getD 0
    let (above, below) := (around 'B', around 'A')
    let text : Text :=
      if o.has 'q' then []
      else if o.has 'l' then (if hits = [] then [] else name ++ ['\n'])
      else if o.has 'c' then label ++ Text.ofNat hits.length ++ ['\n']
      else if (above ≠ 0 || below ≠ 0) && !o.has 'o' then
        let isHit (i : Nat) : Bool := hits.any fun h => h.2 = i
        let shown := ((Text.lines t).zipIdx 1).filter fun (_, i) =>
          hits.any fun h => h.2 ≤ i + above && i ≤ h.2 + below
        (shown.zipIdx).flatMap fun ((l, i), k) =>
          let apart := k ≠ 0 && (shown[k - 1]?).map (·.2 + 1) ≠ some i
          let sign := if isHit i then ':' else '-'
          (if apart then "--\n".toList else []) ++ (if named then name ++ [sign] else []) ++
            (if o.has 'n' then Text.ofNat i ++ [sign] else []) ++ l ++ ['\n']
      else hits.flatMap fun (l, i) =>
        let lead := label ++ (if o.has 'n' then Text.ofNat i ++ [':'] else [])
        if o.has 'o' then
          (matchesIn r l.toArray (l.length + 1) 0).flatMap fun m => lead ++ m ++ ['\n']
        else lead ++ l ++ ['\n']
    (text, hits ≠ [])
  (perFile.flatMap Prod.fst, perFile.any Prod.snd)

/-! ## Numbers and names -/

/-- Whether a text is a whole number. -/
def isInteger (t : Text) : Bool :=
  let digits := if t.head? = some '-' || t.head? = some '+' then t.drop 1 else t
  digits ≠ [] && digits.all Char.isDigit

/-- The whole number that a text spells. -/
def integer (t : Text) : Int :=
  match t with
  | '-' :: t => -(number t : Int)
  | '+' :: t => number t
  | t => number t

/-- The numbers from one to another in steps. -/
def countBy (stride last : Int) : Nat → Int → List Int
  | 0, _ => []
  | fuel + 1, n =>
    if (0 < stride && n ≤ last) || (stride < 0 && last ≤ n) then
      n :: countBy stride last fuel (n + stride)
    else []

/-- What `seq` writes. -/
def seq (o : Options) (operands : List Text) : Deed :=
  match operands.find? fun t => !isInteger t with
  | some t => misuse "seq" 1 ("invalid floating point argument: '".toList ++ t ++ ['\''])
  | none =>
    let range : Option (Int × Int × Int) := match operands.map integer with
      | [last] => some (1, 1, last)
      | [first, last] => some (first, 1, last)
      | [first, stride, last] => some (first, stride, last)
      | _ => none
    match range with
    | none => misuse "seq" 1 "missing operand".toList
    | some (first, stride, last) =>
      let count := if stride = 0 then 0 else ((last - first) / stride).toNat + 1
      let ns := (countBy stride last count first).map ofInt
      let width := (ns.map List.length).foldl max 0
      let ns := if o.has 'w' then ns.map fun t => List.replicate (width - t.length) '0' ++ t else ns
      let glue := (o.value? 's').getD ['\n']
      .said (if ns = [] then [] else glue.intercalate ns ++ ['\n'])

/-- The last name of a path, without an ending. -/
def basename (t ending : Text) : Text :=
  let stem := Text.dropEndWhile (· = '/') t
  let name := if t ≠ [] && stem = [] then ['/'] else (stem.splitOn '/').getLastD []
  match Text.after? ending.reverse name.reverse with
  | some rest => if rest = [] then name else rest.reverse
  | none => name

/-- The path without its last name. -/
def dirname (t : Text) : Text :=
  let stem := Text.dropEndWhile (· = '/') t
  if stem = [] then (if t = [] then ['.'] else ['/'])
  else
    let dir := Text.dropEndWhile (· ≠ '/') stem
    if dir = [] then ['.']
    else
      let dir := Text.dropEndWhile (· = '/') dir
      if dir = [] then ['/'] else dir

/-- The operators of `expr`, the loosest first. -/
def exprLevels : List (List String) :=
  [["|"], ["&"], ["<", "<=", "=", "==", "!=", ">=", ">"], ["+", "-"], ["*", "/", "%"], [":"]]

/-- How much of the start of a text an expression matches, or what its group holds. -/
def exprMatch (a pattern : Text) : Except Text Text :=
  match Regex.ofText ⟨false, false⟩ pattern with
  | .error e => .error e.toList
  | .ok r =>
    let line := a.toArray
    let grouped := Text.occurs "\\(".toList pattern
    match (Regex.ends line r ⟨0, []⟩).head? with
    | none => .ok (if grouped then [] else ['0'])
    | some p =>
      .ok (if grouped then (⟨0, p.index, p.groups⟩ : Regex.Match).group line 1
        else Text.ofNat p.index)

/-- What an operator of `expr` gives. -/
def exprApply (op : String) (a b : Text) : Except Text Text :=
  let isNull (t : Text) : Bool := t = [] || t = ['0']
  let order := if isInteger a && isInteger b then compare (integer a) (integer b)
    else Text.compare a b
  let truth (c : Bool) : Except Text Text := .ok (if c then ['1'] else ['0'])
  let numeric (f : Int → Int → Int) : Except Text Text :=
    if isInteger a && isInteger b then .ok (ofInt (f (integer a) (integer b)))
    else .error "non-integer argument".toList
  match op with
  | "|" => .ok (if isNull a then b else a)
  | "&" => .ok (if isNull a || isNull b then ['0'] else a)
  | "<" => truth (order = .lt)
  | "<=" => truth (order ≠ .gt)
  | "=" | "==" => truth (order = .eq)
  | "!=" => truth (order ≠ .eq)
  | ">=" => truth (order ≠ .lt)
  | ">" => truth (order = .gt)
  | "+" => numeric (· + ·)
  | "-" => numeric (· - ·)
  | "*" => numeric (· * ·)
  | ":" => exprMatch a b
  | op =>
    if isInteger b && integer b = 0 then .error "division by zero".toList
    else if op = "/" then numeric Int.tdiv else numeric Int.tmod

mutual

/-- The value of an expression of `expr` with the operators of a level, and what is left. -/
def exprValue : Nat → Nat → List Text → Except Text (Text × List Text)
  | 0, _, _ => .error "syntax error".toList
  | fuel + 1, level, ts =>
    match exprLevels[level]? with
    | none =>
      match ts with
      | [] => .error "syntax error: missing argument after".toList
      | ['('] :: rest =>
        match exprValue fuel 0 rest with
        | .error e => .error e
        | .ok (v, [')'] :: rest) => .ok (v, rest)
        | .ok _ => .error "syntax error: expecting ')'".toList
      | t :: rest =>
        match String.ofList t, rest with
        | "length", a :: rest => .ok (Text.ofNat a.length, rest)
        | "substr", a :: b :: c :: rest =>
          .ok (if number b = 0 then [] else (a.drop (number b - 1)).take (number c), rest)
        | "index", a :: b :: rest =>
          .ok (Text.ofNat (((a.findIdx? b.contains).map (· + 1)).getD 0), rest)
        | _, rest => .ok (t, rest)
    | some ops =>
      match exprValue fuel (level + 1) ts with
      | .error e => .error e
      | .ok (a, rest) => exprMore fuel level ops a rest
termination_by structural n => n

/-- Goes on after a left operand. -/
def exprMore : Nat → Nat → List String → Text → List Text → Except Text (Text × List Text)
  | fuel + 1, level, ops, a, op :: after =>
    if !ops.contains (String.ofList op) then .ok (a, op :: after)
    else
      match exprValue fuel (level + 1) after with
      | .error e => .error e
      | .ok (b, rest) =>
        match exprApply (String.ofList op) a b with
        | .error e => .error e
        | .ok v => exprMore fuel level ops v rest
  | _, _, _, a, rest => .ok (a, rest)
termination_by structural n => n

end

/-- What `expr` writes. -/
def expr (args : List Text) : Deed :=
  match args with
  | [] => misuse "expr" 2 "missing operand".toList
  | args =>
    match exprValue (4 * args.length + 16) 0 args with
    | .error e =>
      let e := if e = "syntax error: missing argument after".toList then
          e ++ " '".toList ++ args.getLastD [] ++ ['\'']
        else e
      ⟨[], [remark "expr" e], 2⟩
    | .ok (v, []) => ⟨v ++ ['\n'], [], if v = [] || v = ['0'] then 1 else 0⟩
    | .ok (_, t :: _) =>
      ⟨[], [remark "expr" ("syntax error: unexpected argument '".toList ++ t ++ ['\''])], 2⟩

/-! ## Octets -/

/-- A visible form of an octet in three columns. -/
def octetName (c : Char) : Text :=
  let name : Text := match c with
    | '\n' => ['\\', 'n']
    | '\t' => ['\\', 't']
    | '\r' => ['\\', 'r']
    | '\x07' => ['\\', 'a']
    | '\x08' => ['\\', 'b']
    | '\x0c' => ['\\', 'f']
    | '\x0b' => ['\\', 'v']
    | '\x00' => ['\\', '0']
    | c =>
      if c.toNat < 32 || 126 < c.toNat then
        let d := Nat.toDigits 8 c.toNat
        List.replicate (3 - d.length) '0' ++ d
      else [c]
  List.replicate (4 - name.length) ' ' ++ name

/-- An octet in hexadecimal digits. -/
def octetHex (c : Char) : Text :=
  let d := Nat.toDigits 16 c.toNat
  ' ' :: List.replicate (2 - d.length) '0' ++ d

/-- Rows of so many octets. -/
def rowsOf : Nat → Nat → Text → List Text
  | 0, _, _ => []
  | fuel + 1, n, t => if t = [] then [] else t.take n :: rowsOf fuel n (t.drop n)

/-- What `od` writes: octets by name or in hexadecimal digits, with or without their place. -/
def od (o : Options) (input : Text) : Text :=
  let names := o.has 'c' || o.value? 't' = some ['c']
  let places := o.value? 'A' ≠ some ['n']
  let place (n : Nat) : Text :=
    let d := Nat.toDigits 8 n
    if places then List.replicate (7 - d.length) '0' ++ d else []
  let rows := rowsOf (input.length + 1) 16 input
  let body := (rows.zipIdx).flatMap fun (r, i) =>
    place (16 * i) ++ r.flatMap (if names then octetName else octetHex) ++ ['\n']
  body ++ (if places then place input.length ++ ['\n'] else [])

/-- The characters that stand for six bits. -/
def base64Letters : Array Char :=
  "ABCDEFGHIJKLMNOPQRSTUVWXYZabcdefghijklmnopqrstuvwxyz0123456789+/".toList.toArray

/-- Octets in characters of six bits. -/
def base64 : Text → Text
  | [] => []
  | [a] =>
    let n := a.toNat * 16
    [n / 64, n % 64].map (fun i => (base64Letters[i]?).getD '=') ++ ['=', '=']
  | [a, b] =>
    let n := (a.toNat * 256 + b.toNat) * 4
    [n / 4096, n / 64 % 64, n % 64].map (fun i => (base64Letters[i]?).getD '=') ++ ['=']
  | a :: b :: c :: t =>
    let n := (a.toNat * 256 + b.toNat) * 256 + c.toNat
    [n / 262144, n / 4096 % 64, n / 64 % 64, n % 64].map (fun i => (base64Letters[i]?).getD '=') ++
      base64 t

end Marginalia.Shell
