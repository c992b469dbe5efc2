import Marginalia.Yaml.Token

/-!
# Scalars

Reading the five ways to write a scalar. In all but the literal one, line breaks inside a scalar
fold: a single one is read as a space, and of several the first is dropped.
-/

namespace Marginalia.Yaml.Scalar

/-! ## Folding -/

/-- The blanks read since the last other character: those on its line, or once a line has ended,
the first line break and the further ones. -/
structure Gap where
  spaces : Text := []
  firstBreak : Text := []
  moreBreaks : Text := []
  broken : Bool := false

namespace Gap

/-- No blank read. -/
def none : Gap := ⟨[], [], [], false⟩

/-- The gap after one more space or tab; at the front of a line it does not count. -/
def addSpace (g : Gap) (c : Char) : Gap :=
  if g.broken then g else { g with spaces := g.spaces ++ [c] }

/-- The gap after one more line break. -/
def addBreak (g : Gap) (b : Text) : Gap :=
  if g.broken then { g with moreBreaks := g.moreBreaks ++ b }
  else { g with spaces := [], firstBreak := b, broken := true }

/-- What the gap is read as. -/
def text (g : Gap) : Text :=
  if g.broken then
    if g.firstBreak.head? = some '\n' then
      if g.moreBreaks = [] then [' '] else g.moreBreaks
    else g.firstBreak ++ g.moreBreaks
  else g.spaces

end Gap

/-! ## Plain scalars -/

/-- Where a plain scalar stands: inside flow brackets or not, and how far in its lines have to
be. -/
structure Place where
  flow : Bool
  indent : Int
  start : Mark

/-- A scalar that was read: its text, whether a line ended after it, its end, and the cursor after
the blanks behind it. -/
structure Read where
  text : Text
  broken : Bool
  back : Mark
  after : Cursor

/-- Characters that end a plain scalar inside flow brackets. -/
def isFlowIndicator (c : Char) : Bool :=
  c = ',' || c = '[' || c = ']' || c = '\x7b' || c = '\x7d'

/-- What ends a plain scalar at `t`, inside a word. -/
def endsPlain (flow : Bool) (t : Text) : Bool :=
  match t with
  | ':' :: more => atGap more
  | c :: _ => flow && isFlowIndicator c
  | [] => true

/-- A colon inside flow brackets that is directly followed by an indicator. -/
def isStrayColon (flow : Bool) (t : Text) : Bool :=
  match t with
  | ':' :: c :: _ => flow && (isFlowIndicator c || c = '?')
  | _ => false

/-- Reads on in a plain scalar: `text` (in reverse) is read, then the gap `g`; `back` is the end of
the last word, and `fresh` says that a gap has just ended. -/
def plainFrom (at' : Place) (text : Text) (g : Gap) (back : Mark) (fresh : Bool) (mark : Mark)
    (rest : Text) : Except SyntaxError Read :=
  let here : Cursor := ⟨mark, rest⟩
  let done : Except SyntaxError Read := .ok ⟨text.reverse, g.broken, back, here⟩
  match rest with
  | [] => done
  | '\r' :: '\n' :: more =>
    plainFrom at' text (g.addBreak ['\n']) back true (Cursor.newLine mark 2) more
  | c :: more =>
    if isBreak c then
      plainFrom at' text (g.addBreak (Cursor.lineBreak [c]).1) back true
        (Cursor.newLine mark 1) more
    else if isSpace c then
      if g.broken && (mark.column : Int) < at'.indent && c = '\t' then
        here.fail "found a tab character that violates indentation"
          "while scanning a plain scalar" at'.start
      else plainFrom at' text (g.addSpace c) back true (Cursor.advance mark) more
    else if fresh && ((!at'.flow && g.broken && (mark.column : Int) < at'.indent) ||
        here.atDocumentMark || c = '#') then done
    else if isStrayColon at'.flow rest then
      here.fail "found unexpected ':'" "while scanning a plain scalar" at'.start
    else if endsPlain at'.flow rest then done
    else
      plainFrom at' (c :: (g.text.reverse ++ text)) Gap.none (Cursor.advance mark) false
        (Cursor.advance mark) more
termination_by rest.length

/-- Reads a plain scalar. -/
def plain (flow : Bool) (indent : Int) (c : Cursor) : Except SyntaxError Read :=
  plainFrom ⟨flow, indent, c.mark⟩ [] Gap.none c.mark true c.mark c.rest

/-! ## Quoted scalars -/

/-- What an escaped character stands for, or how many hexadecimal digits follow it. -/
def escape? : Char → Option (Text ⊕ Nat)
  | '0' => some (.inl [Char.ofNat 0])
  | 'a' => some (.inl [Char.ofNat 7])
  | 'b' => some (.inl [Char.ofNat 8])
  | 't' => some (.inl ['\t'])
  | '\t' => some (.inl ['\t'])
  | 'n' => some (.inl ['\n'])
  | 'v' => some (.inl [Char.ofNat 11])
  | 'f' => some (.inl [Char.ofNat 12])
  | 'r' => some (.inl ['\r'])
  | 'e' => some (.inl [Char.ofNat 27])
  | ' ' => some (.inl [' '])
  | '"' => some (.inl ['"'])
  | '/' => some (.inl ['/'])
  | '\\' => some (.inl ['\\'])
  | 'N' => some (.inl ['\u0085'])
  | '_' => some (.inl ['\u00A0'])
  | 'L' => some (.inl ['\u2028'])
  | 'P' => some (.inl ['\u2029'])
  | 'x' => some (.inr 2)
  | 'u' => some (.inr 4)
  | 'U' => some (.inr 8)
  | _ => none

/-- The value of a hexadecimal digit. -/
def hexValue? (c : Char) : Option Nat :=
  if c.isDigit then some (c.toNat - '0'.toNat)
  else if 'a' ≤ c ∧ c ≤ 'f' then some (c.toNat - 'a'.toNat + 10)
  else if 'A' ≤ c ∧ c ≤ 'F' then some (c.toNat - 'A'.toNat + 10)
  else none

/-- The number that the first `count` characters of `t` spell in hexadecimal. -/
def hexNumber? (count : Nat) (t : Text) : Option Nat :=
  if t.length < count then none
  else (t.take count).foldl (fun n c => do return (← n) * 16 + (← hexValue? c)) (some 0)

/-- The character with number `n`, if there is one. -/
def charOf? (n : Nat) : Option Char :=
  if n.isValidChar then some (Char.ofNat n) else none

/-- Reads on in a quoted scalar. -/
def quotedFrom (single : Bool) (start : Mark) (text : Text) (g : Gap) (mark : Mark)
    (rest : Text) : Except SyntaxError Read :=
  let here : Cursor := ⟨mark, rest⟩
  let joined := g.text.reverse ++ text
  if here.atDocumentMark then
    here.fail "found unexpected document indicator" "while scanning a quoted scalar" start
  else
    match rest with
    | [] => here.fail "found unexpected end of stream" "while scanning a quoted scalar" start
    | '\r' :: '\n' :: more =>
      quotedFrom single start text (g.addBreak ['\n']) (Cursor.newLine mark 2) more
    | c :: more =>
      if isBreak c then
        quotedFrom single start text (g.addBreak (Cursor.lineBreak [c]).1) (Cursor.newLine mark 1)
          more
      else if isSpace c then
        quotedFrom single start text (g.addSpace c) (Cursor.advance mark) more
      else if single && c = '\'' && more.head? = some '\'' then
        quotedFrom single start ('\'' :: joined) Gap.none (here.skipMany 2).mark (more.drop 1)
      else if c = (if single then '\'' else '"') then
        .ok ⟨joined.reverse, false, Cursor.advance mark, here.skip⟩
      else if !single && c = '\\' then
        match more with
        | [] => here.fail "found unknown escape character" "while parsing a quoted scalar" start
        | e :: tail =>
          if isBreak e then
            let width := (Cursor.lineBreak more).2
            quotedFrom single start joined ⟨[], [], [], true⟩
              (Cursor.newLine (Cursor.advance mark) width) (tail.drop (width - 1))
          else
            match escape? e with
            | none =>
              here.fail "found unknown escape character" "while parsing a quoted scalar" start
            | some (.inl t) =>
              quotedFrom single start (t.reverse ++ joined) Gap.none (here.skipMany 2).mark tail
            | some (.inr digits) =>
              match hexNumber? digits tail with
              | none =>
                (here.skipMany 2).fail "did not find expected hexadecimal number"
                  "while parsing a quoted scalar" start
              | some n =>
                match charOf? n with
                | none =>
                  (here.skipMany 2).fail "found invalid Unicode character escape code"
                    "while parsing a quoted scalar" start
                | some d =>
                  quotedFrom single start (d :: joined) Gap.none (here.skipMany (2 + digits)).mark
                    (tail.drop digits)
      else quotedFrom single start (c :: joined) Gap.none (Cursor.advance mark) more
termination_by rest.length
decreasing_by
  all_goals simp_all
  all_goals omega

/-- Reads a scalar in quotes. -/
def quoted (single : Bool) (c : Cursor) : Except SyntaxError Read :=
  quotedFrom single c.mark [] Gap.none (Cursor.advance c.mark) (c.rest.drop 1)

/-! ## Block scalars -/

/-- What becomes of the line breaks at the end of a block scalar. -/
inductive Chomping where
  | strip
  | clip
  | keep
  deriving DecidableEq

/-- The header of a block scalar: the treatment of its end and its indentation, if it is given. -/
structure Header where
  chomping : Chomping := .clip
  increment : Option Nat := none

/-- The chomping sign at the front of `t`. -/
def chomping? : Text → Option Chomping
  | '+' :: _ => some .keep
  | '-' :: _ => some .strip
  | _ => none

/-- Reads an indentation digit, if there is one. -/
def increment? (c : Cursor) (start : Mark) : Except SyntaxError (Option Nat × Cursor) :=
  match c.rest with
  | d :: _ =>
    if d = '0' then
      c.fail "found an indentation indicator equal to 0" "while scanning a block scalar" start
    else if d.isDigit then .ok (some (d.toNat - '0'.toNat), c.skip)
    else .ok (none, c)
  | [] => .ok (none, c)

/-- Reads the header of a block scalar: sign and digit in either order. -/
def header (c : Cursor) (start : Mark) : Except SyntaxError (Header × Cursor) :=
  match chomping? c.rest with
  | some sign => do
    let (digit, c) ← increment? c.skip start
    return (⟨sign, digit⟩, c)
  | none => do
    let (digit, c) ← increment? c start
    match digit, chomping? c.rest with
    | some _, some sign => return (⟨sign, digit⟩, c.skip)
    | _, _ => return (⟨.clip, digit⟩, c)

/-- Reads the empty lines in front of a line of a block scalar, and the indentation of that line:
at most `indent` if it is known. Gives the line breaks, the widest indentation, the end of the last
line break and the cursor. -/
def emptyLines (indent : Option Nat) (start : Mark) (breaks : Text) (widest : Nat) (back : Mark) :
    Nat → Cursor → Except SyntaxError (Text × Nat × Mark × Cursor)
  | 0, c => .ok (breaks, widest, back, c)
  | fuel + 1, c =>
    let run := (c.rest.takeWhile (· = ' ')).length
    let c := c.skipMany (match indent with
      | none => run
      | some n => min run (n - c.mark.column))
    let widest := max widest c.mark.column
    let inside := match indent with
      | none => true
      | some n => c.mark.column < n
    if inside && c.peek? = some '\t' then
      c.fail "found a tab character where an indentation space is expected"
        "while scanning a block scalar" start
    else
      match Cursor.lineBreak c.rest with
      | (_, 0) => .ok (breaks, widest, back, c)
      | (b, _) => emptyLines indent start (breaks ++ b) widest c.skipBreak.mark fuel c.skipBreak

/-- Reads the lines of a block scalar with the given indentation. `lead` is the line break before
the current line, `breaks` those of the empty lines after it, and `spaced` says that the line
before started with a blank. -/
def blockLines (literal : Bool) (indent : Nat) (start : Mark) (text lead breaks : Text)
    (spaced : Bool) (back : Mark) :
    Nat → Cursor → Except SyntaxError (Text × Text × Text × Mark × Cursor)
  | 0, c => .ok (text, lead, breaks, back, c)
  | fuel + 1, c =>
    if c.mark.column = indent && c.rest ≠ [] then do
      let blank := (c.peek?.map isSpace).getD false
      let glue :=
        if !literal && lead.head? = some '\n' && !spaced && !blank then
          if breaks = [] then [' '] else []
        else lead
      let (line, c) := c.takeWhile (!isBreak ·)
      let b := (Cursor.lineBreak c.rest).1
      let c := c.skipBreak
      let (breaks', _, back, c) ← emptyLines (some indent) start [] 0 c.mark (c.rest.length + 1) c
      blockLines literal indent start (text ++ glue ++ breaks ++ line) b breaks' blank back fuel c
    else .ok (text, lead, breaks, back, c)

/-- Reads a literal or folded scalar inside a block with indentation `outer`. -/
def block (literal : Bool) (outer : Int) (c : Cursor) : Except SyntaxError Read := do
  let start := c.mark
  let (head, c) ← header c.skip start
  let c ← c.skipLineEnd "did not find expected comment or line break"
    "while scanning a block scalar" start
  let given := head.increment.map fun n => if outer ≥ 0 then outer.toNat + n else n
  let (breaks, widest, back, c) ← emptyLines given start [] 0 c.mark (c.rest.length + 1) c
  let indent := given.getD (max (max widest (outer + 1).toNat) 1)
  let (text, lead, breaks, back, c) ←
    blockLines literal indent start [] [] breaks false back (c.rest.length + 1) c
  let ending := match head.chomping with
    | .strip => []
    | .clip => lead
    | .keep => lead ++ breaks
  return ⟨text ++ ending, false, back, c⟩

end Marginalia.Yaml.Scalar
