import Marginalia.Pattern.Class

/-!
# Regular expressions of the utilities

The two notations of the standard utilities: in the basic one groups, alternatives and counts are
written with backslashes, in the extended one without. Of all matches at a place the longest
counts, and what a group matched can be asked for afterwards.
-/

namespace Marginalia.Shell

/-- A regular expression. -/
inductive Regex where
  | empty
  | one (s : Pattern.Class)
  | lineStart
  | lineEnd
  /-- Between a character of a word and another one, or not there. -/
  | edge (wanted : Bool)
  | wordStart
  | wordEnd
  | group (number : Nat) (r : Regex)
  /-- The same text as a group. -/
  | again (number : Nat)
  | both (p q : Regex)
  | either (p q : Regex)
  | times (r : Regex) (least : Nat) (most : Option Nat)

namespace Regex

/-! ## Reading -/

/-- Which notation is read, and whether case matters. -/
structure Style where
  extended : Bool
  anyCase : Bool

/-- The characters of words. -/
def wordClass : Pattern.Class := (Pattern.Class.ofName? "word").getD .none

/-- The blank characters. -/
def spaceClass : Pattern.Class := (Pattern.Class.ofName? "space").getD .none

/-- The class in brackets after their start, and the rest; none without a closing bracket. -/
def bracket? : Nat → Pattern.Class → (first : Bool) → Text → Option (Pattern.Class × Text)
  | 0, _, _, _ => none
  | _ + 1, _, _, [] => none
  | fuel + 1, s, first, c :: t =>
    if c = ']' && !first then some (s, t)
    else
      match if c = '[' then Text.after? [':'] t else none with
      | some u =>
        let name := u.takeWhile (· ≠ ':')
        match Pattern.Class.ofName? (String.ofList name) with
        | some class' => bracket? fuel (.union s class') false (u.drop (name.length + 2))
        | none => none
      | none =>
        match t with
        | '-' :: d :: rest =>
          if d = ']' then bracket? fuel (.union s (Pattern.Class.one c)) false t
          else bracket? fuel (.union s (.range c d)) false rest
        | 'n' :: rest =>
          if c = '\\' then bracket? fuel (.union s (Pattern.Class.one '\n')) false rest
          else bracket? fuel (.union s (Pattern.Class.one c)) false t
        | t => bracket? fuel (.union s (Pattern.Class.one c)) false t

/-- A sign with a special meaning. -/
inductive Sign where
  | plain (c : Char)
  | any
  | bracket
  | opens
  | closes
  | bar
  | star
  | plus
  | question
  | brace
  | caret
  | dollar
  /-- A character after a backslash. -/
  | escaped (c : Char)
  deriving DecidableEq

/-- The sign at the front of a text, and the rest. -/
def sign (style : Style) : Text → Option (Sign × Text)
  | [] => none
  | '\\' :: c :: t =>
    let special : Sign := match c with
      | '(' => .opens
      | ')' => .closes
      | '|' => .bar
      | '+' => .plus
      | '?' => .question
      | '\x7b' => .brace
      | c => .escaped c
    some (match special with
      | .escaped c => .escaped c
      | other => if style.extended then .plain c else other, t)
  | c :: t =>
    let extra : Option Sign := match c with
      | '(' => some .opens
      | ')' => some .closes
      | '|' => some .bar
      | '+' => some .plus
      | '?' => some .question
      | '\x7b' => some .brace
      | _ => none
    some (match c with
      | '.' => .any
      | '[' => .bracket
      | '*' => .star
      | '^' => .caret
      | '$' => .dollar
      | c => match extra with
        | some s => if style.extended then s else .plain c
        | none => .plain c, t)

/-- The numbers of a count after its brace, and the rest. -/
def count? (style : Style) (t : Text) : Option ((Nat × Option Nat) × Text) :=
  let digits := t.takeWhile Char.isDigit
  let number (d : Text) : Nat := d.foldl (fun n c => n * 10 + (c.toNat - 48)) 0
  let t := t.drop digits.length
  let (range, t) := match t with
    | ',' :: t =>
      let more := t.takeWhile Char.isDigit
      ((number digits, if more = [] then none else some (number more)), t.drop more.length)
    | t => ((number digits, some (number digits)), t)
  (Text.after? (if style.extended then ['\x7d'] else ['\\', '\x7d']) t).map (range, ·)

/-- What a character after a backslash stands for. -/
def escape : Char → Regex
  | 'n' => .one (Pattern.Class.one '\n')
  | 't' => .one (Pattern.Class.one '\t')
  | 'r' => .one (Pattern.Class.one '\r')
  | 'f' => .one (Pattern.Class.one '\x0c')
  | 'v' => .one (Pattern.Class.one '\x0b')
  | 'a' => .one (Pattern.Class.one '\x07')
  | 'w' => .one wordClass
  | 'W' => .one (.not wordClass)
  | 's' => .one spaceClass
  | 'S' => .one (.not spaceClass)
  | 'b' => .edge true
  | 'B' => .edge false
  | '<' => .wordStart
  | '>' => .wordEnd
  | '\x60' => .lineStart
  | '\'' => .lineEnd
  | c => if c.isDigit && c ≠ '0' then .again (c.toNat - 48) else .one (Pattern.Class.one c)

/-- The greatest number of a group. -/
def groupCount : Regex → Nat
  | .group n r => max n r.groupCount
  | .both a b | .either a b => max a.groupCount b.groupCount
  | .times r _ _ => r.groupCount
  | _ => 0

/-- What was read of an expression. -/
structure Progress where
  /-- The alternatives before the one that is read. -/
  before : Option Regex
  /-- The elements of the alternative, last first. -/
  elements : List Regex
  /-- The number of groups. -/
  groups : Nat

/-- The expression that was read. -/
def Progress.whole (p : Progress) : Regex :=
  let last := p.elements.foldl (fun acc r => .both r acc) Regex.empty
  match p.before with
  | none => last
  | some r => .either r last

/-- Reads an expression up to the end of its group, or of the text; what is wrong otherwise. -/
def readFrom (style : Style) (inGroup : Bool) :
    Nat → Progress → Text → Except String (Progress × Text)
  | 0, p, t => .ok (p, t)
  | fuel + 1, p, t =>
    let add (r : Regex) (t : Text) : Except String (Progress × Text) :=
      readFrom style inGroup fuel { p with elements := r :: p.elements } t
    let cased (s : Pattern.Class) : Pattern.Class := if style.anyCase then .anyCase s else s
    let amount (least : Nat) (most : Option Nat) (c : Char) (t : Text) :
        Except String (Progress × Text) :=
      match p.elements with
      | r :: rs =>
        match r, style.extended with
        | .lineStart, false => add (.one (Pattern.Class.one c)) t
        | r, _ => readFrom style inGroup fuel { p with elements := .times r least most :: rs } t
      | [] =>
        if style.extended then add .empty t else add (.one (Pattern.Class.one c)) t
    match sign style t with
    | none =>
      if t = ['\\'] then .error "Trailing backslash"
      else if inGroup then .error "Unmatched ( or \\(" else .ok (p, [])
    | some (s, t) =>
      match s with
      | .plain c => add (.one (cased (Pattern.Class.one c))) t
      | .any => add (.one Pattern.Class.all) t
      | .bracket =>
        let negated := t.head? = some '^'
        let body := if negated then t.drop 1 else t
        match bracket? (body.length + 1) .none true body with
        | none => .error "Unmatched [, [^, [:, [., or [="
        | some (s, rest) => add (.one (if negated then .not (cased s) else cased s)) rest
      | .opens =>
        let n := p.groups + 1
        match readFrom style true fuel ⟨none, [], n⟩ t with
        | .error e => .error e
        | .ok (inner, rest) =>
          readFrom style inGroup fuel
            { p with elements := .group n inner.whole :: p.elements, groups := inner.groups } rest
      | .closes =>
        if inGroup then .ok (p, t)
        else if style.extended then add (.one (Pattern.Class.one ')')) t
        else .error "Unmatched ) or \\)"
      | .bar => readFrom style inGroup fuel ⟨some p.whole, [], p.groups⟩ t
      | .star => amount 0 none '*' t
      | .plus => amount 1 none '+' t
      | .question => amount 0 (some 1) '?' t
      | .brace =>
        match count? style t with
        | some ((least, most), rest) => amount least most '\x7b' rest
        | none =>
          if style.extended then add (.one (Pattern.Class.one '\x7b')) t
          else .error "Invalid content of \\\x7b\\\x7d"
      | .caret =>
        let atStart := p.elements.isEmpty
        add (if style.extended || atStart then .lineStart else .one (Pattern.Class.one '^')) t
      | .dollar =>
        let atEnd := match sign style t with
          | none | some (.closes, _) | some (.bar, _) => true
          | _ => false
        add (if style.extended || atEnd then .lineEnd else .one (Pattern.Class.one '$')) t
      | .escaped c =>
        match escape c with
        | .one s => add (.one (cased s)) t
        | .again n =>
          if n ≤ p.groups then add (.again n) t else .error "Invalid back reference"
        | r => add r t

/-- The expression that a text spells, or what is wrong. -/
def ofText (style : Style) (t : Text) : Except String Regex :=
  (readFrom style false (2 * t.length + 2) ⟨none, [], 0⟩ t).map fun (p, _) => p.whole

/-! ## Matching -/

/-- A place in a line while an expression is matched. -/
structure Place where
  index : Nat
  /-- Where groups started and ended. -/
  groups : List (Nat × Nat × Nat)

/-- Places with the farthest first, each once. -/
def farthest (ps : List Place) : List Place :=
  let sorted := ps.mergeSort fun a b => b.index ≤ a.index
  (sorted.foldl (fun acc p =>
    match acc with
    | q :: _ => if q.index = p.index then acc else p :: acc
    | [] => [p]) []).reverse

/-- Goes on from the places that a step reached for the first time. -/
def spread (step : Place → List Place) : Nat → List Place → List Place → List Place
  | 0, reached, _ => reached
  | n + 1, reached, newest =>
    match (farthest (newest.flatMap step)).filter fun p =>
        reached.all fun q => q.index ≠ p.index with
    | [] => reached
    | fresh => spread step n (reached ++ fresh) fresh

/-- Takes a number of steps. -/
def repeated (step : Place → List Place) : Nat → List Place → List Place
  | 0, ps => ps
  | n + 1, ps => repeated step n (farthest (ps.flatMap step))

/-- The places at which a match from a place can end, the farthest first. -/
def ends (chars : Array Char) : Regex → Place → List Place
  | .empty, p => [p]
  | .one s, p =>
    match chars[p.index]? with
    | some c => if s.has c then [{ p with index := p.index + 1 }] else []
    | none => []
  | .lineStart, p => if p.index = 0 then [p] else []
  | .lineEnd, p => if p.index = chars.size then [p] else []
  | .edge wanted, p =>
    let before := p.index ≠ 0 && ((chars[p.index - 1]?).map wordClass.has).getD false
    let after := ((chars[p.index]?).map wordClass.has).getD false
    if (before != after) == wanted then [p] else []
  | .wordStart, p =>
    let before := p.index ≠ 0 && ((chars[p.index - 1]?).map wordClass.has).getD false
    if !before && ((chars[p.index]?).map wordClass.has).getD false then [p] else []
  | .wordEnd, p =>
    let before := p.index ≠ 0 && ((chars[p.index - 1]?).map wordClass.has).getD false
    if before && !((chars[p.index]?).map wordClass.has).getD false then [p] else []
  | .group n r, p =>
    (ends chars r p).map fun q => { q with groups := (n, p.index, q.index) :: q.groups }
  | .again n, p =>
    match p.groups.lookup n with
    | none => []
    | some (start, stop) =>
      let size := stop - start
      if chars.extract start stop = chars.extract p.index (p.index + size) then
        [{ p with index := p.index + size }]
      else []
  | .both a b, p => farthest ((ends chars a p).flatMap (ends chars b))
  | .either a b, p => farthest (ends chars a p ++ ends chars b p)
  | .times r least most, p =>
    let limit := chars.size + 1
    let first := repeated (ends chars r) (min least limit) [p]
    let more := match most with
      | some n => min (n - least) limit
      | none => limit
    farthest (spread (ends chars r) more first first)

/-- A match in a line. -/
structure Match where
  start : Nat
  stop : Nat
  groups : List (Nat × Nat × Nat)

/-- The first match from a place on, of those the longest. -/
def find? (r : Regex) (line : Array Char) (start : Nat) : Option Match :=
  (List.range' start (line.size + 1 - start)).findSome? fun i =>
    (ends line r ⟨i, []⟩).head?.map fun p => ⟨i, p.index, p.groups⟩

/-- The text of a group of a match. -/
def Match.group (m : Match) (line : Array Char) (n : Nat) : Text :=
  if n = 0 then (line.extract m.start m.stop).toList
  else
    match m.groups.lookup n with
    | some (start, stop) => (line.extract start stop).toList
    | none => []

end Regex

end Marginalia.Shell
