import Marginalia.Text.Basic

/-!
# Places in a document

A mark is a place between two characters, counted from zero. A cursor is a mark together with the
characters after it.
-/

namespace Marginalia.Yaml

/-- A place between two characters. -/
structure Mark where
  index : Nat
  line : Nat
  column : Nat
  deriving DecidableEq, Repr, Inhabited

namespace Mark

/-- The place in front of the first character. -/
def start : Mark := ⟨0, 0, 0⟩

/-- Whether a mark is at the very front of its document's first line. -/
def isStart (m : Mark) : Bool := m.line = 0 && m.column = 0

/-- The place in words, counted from one. -/
def text (m : Mark) : Text :=
  "line ".toList ++ Text.ofNat (m.line + 1) ++ " column ".toList ++ Text.ofNat (m.column + 1)

/-- The place in words after a message; the front of the document goes without saying. -/
def suffix (m : Mark) : Text := if m.isStart then [] else " at ".toList ++ m.text

end Mark

/-! ## Faults of notation -/

/-- Why a text is no document. -/
inductive SyntaxError where
  /-- A character that no document may contain, with its place in octets. -/
  | unprintable (offset : Nat)
  /-- What is wrong and where, and what was being read since when. -/
  | unexpected (problem : String) (place : Mark) (context : Option (String × Mark))
  deriving DecidableEq

/-- The words for a fault of notation. -/
def SyntaxError.message : SyntaxError → Text
  | .unprintable offset =>
    "control characters are not allowed".toList ++
      if offset = 0 then [] else " at position ".toList ++ Text.ofNat offset
  | .unexpected problem place context =>
    problem.toList ++ place.suffix ++
      match context with
      | none => []
      | some (activity, since) =>
        ", ".toList ++ activity.toList ++
          if since.line = place.line && since.column = place.column then [] else since.suffix

/-! ## Characters -/

/-- Space or tab. -/
def isSpace (c : Char) : Bool := c = ' ' || c = '\t'

/-- Characters that end a line. -/
def isBreak (c : Char) : Bool :=
  c = '\n' || c = '\r' || c = '\u0085' || c = '\u2028' || c = '\u2029'

/-- Letters, digits, the hyphen and the underscore. -/
def isWord (c : Char) : Bool := c.isAlphanum || c = '-' || c = '_'

/-- Characters that a document may contain. -/
def isAllowed (c : Char) : Bool :=
  let n := c.toNat
  n == 9 || n == 10 || n == 13 || (0x20 ≤ n && n ≤ 0x7E) || n == 0x85 ||
    (0xA0 ≤ n && n ≤ 0xD7FF) || (0xE000 ≤ n && n ≤ 0xFFFD) || 0x10000 ≤ n

/-- Whether `t` is at its end, or goes on with a space, a tab or the end of a line. -/
def atGap : Text → Bool
  | [] => true
  | c :: _ => isSpace c || isBreak c

/-- Whether `t` is at its end or at the end of a line. -/
def atBreak : Text → Bool
  | [] => true
  | c :: _ => isBreak c

/-! ## Cursors -/

/-- A place and what comes after it. -/
structure Cursor where
  mark : Mark
  rest : Text
  deriving Inhabited

namespace Cursor

/-- The mark after `c`, a character that ends no line. -/
def advance (m : Mark) : Mark := ⟨m.index + 1, m.line, m.column + 1⟩

/-- The mark after the end of a line of `width` characters. -/
def newLine (m : Mark) (width : Nat) : Mark := ⟨m.index + width, m.line + 1, 0⟩

/-- The cursor after one character. -/
def skip (c : Cursor) : Cursor := ⟨advance c.mark, c.rest.drop 1⟩

/-- The cursor after `n` characters of a line. -/
def skipMany (c : Cursor) (n : Nat) : Cursor :=
  ⟨⟨c.mark.index + n, c.mark.line, c.mark.column + n⟩, c.rest.drop n⟩

/-- What the end of a line at the front of `t` is read as, and its width; the width is zero if no
line ends there. -/
def lineBreak : Text → Text × Nat
  | '\r' :: '\n' :: _ => (['\n'], 2)
  | c :: _ =>
    if c = '\n' || c = '\r' || c = '\u0085' then (['\n'], 1)
    else if isBreak c then ([c], 1)
    else ([], 0)
  | [] => ([], 0)

/-- The cursor after the end of a line, if it stands there. -/
def skipBreak (c : Cursor) : Cursor :=
  match lineBreak c.rest with
  | (_, 0) => c
  | (_, width) => ⟨newLine c.mark width, c.rest.drop width⟩

/-- The longest run of characters on which `p` holds, and the cursor after it. -/
def takeWhile (c : Cursor) (p : Char → Bool) : Text × Cursor :=
  let run := c.rest.takeWhile p
  (run, c.skipMany run.length)

/-- The cursor after the longest run of characters on which `p` holds. -/
def skipWhile (c : Cursor) (p : Char → Bool) : Cursor := (c.takeWhile p).2

/-- The next character. -/
def peek? (c : Cursor) : Option Char := c.rest.head?

/-- A fault at the cursor, found while reading what began at `since`. -/
def fail {α : Type} (c : Cursor) (problem activity : String) (since : Mark) :
    Except SyntaxError α :=
  .error (.unexpected problem c.mark (some (activity, since)))

/-- The cursor after the blanks and the comment at the end of a line, and after that end. -/
def skipLineEnd (c : Cursor) (problem activity : String) (since : Mark) :
    Except SyntaxError Cursor :=
  let c := c.skipWhile isSpace
  let c := if c.peek? = some '#' then c.skipWhile (!isBreak ·) else c
  if atBreak c.rest then .ok c.skipBreak else c.fail problem activity since

/-- Whether a line starts here with one of the marks between documents. -/
def atDocumentMark (c : Cursor) : Bool :=
  c.mark.column = 0 &&
    match c.rest with
    | '-' :: '-' :: '-' :: t => atGap t
    | '.' :: '.' :: '.' :: t => atGap t
    | _ => false

end Cursor

end Marginalia.Yaml
