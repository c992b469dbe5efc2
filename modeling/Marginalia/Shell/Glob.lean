import Marginalia.Pattern.Class

/-!
# Patterns of the shell

A pattern has to fit a text from its start to its end: a star stands for any text, a question mark
for one character, and brackets for one character of a class. Signs that were quoted stand for
themselves.
-/

namespace Marginalia.Shell

/-- A character, and whether it stands for itself. -/
abbrev Glyph := Char × Bool

/-- The characters of glyphs. -/
def plain (gs : List Glyph) : Text := gs.map Prod.fst

/-- A text that stands for itself. -/
def literal (t : Text) : List Glyph := t.map (·, true)

/-- An element of a pattern. -/
inductive Wild where
  | many
  | one (s : Pattern.Class)

/-- The class in brackets after their start, and the rest; none without a closing bracket. The
first character may be a closing bracket. -/
def bracket? :
    Nat → Pattern.Class → (first : Bool) → List Glyph → Option (Pattern.Class × List Glyph)
  | 0, _, _, _ => none
  | _ + 1, _, _, [] => none
  | fuel + 1, s, first, (c, quoted) :: rest =>
    if c = ']' && !quoted && !first then some (s, rest)
    else
      let named := if c = '[' && !quoted then Text.after? "[:".toList (c :: plain rest) else none
      match named with
      | some t =>
        let name := t.takeWhile (· ≠ ':')
        match Pattern.Class.ofName? (String.ofList name) with
        | some class' => bracket? fuel (.union s class') false (rest.drop (name.length + 3))
        | none => bracket? fuel (.union s (Pattern.Class.one c)) false rest
      | none =>
        match rest with
        | ('-', false) :: (d, q) :: rest' =>
          if d = ']' && !q then bracket? fuel (.union s (Pattern.Class.one c)) false rest
          else bracket? fuel (.union s (.range c d)) false rest'
        | _ => bracket? fuel (.union s (Pattern.Class.one c)) false rest

/-- The pattern that glyphs give. -/
def wilds : Nat → List Glyph → List Wild
  | 0, _ => []
  | _ + 1, [] => []
  | fuel + 1, (c, quoted) :: rest =>
    if quoted then .one (Pattern.Class.one c) :: wilds fuel rest
    else
      match c with
      | '*' => .many :: wilds fuel rest
      | '?' => .one Pattern.Class.all :: wilds fuel rest
      | '[' =>
        let negated := match rest with
          | (d, false) :: _ => d = '!' || d = '^'
          | _ => false
        let inner := if negated then rest.drop 1 else rest
        match bracket? (inner.length + 1) .none true inner with
        | some (s, rest) => .one (if negated then .not s else s) :: wilds fuel rest
        | none => .one (Pattern.Class.one '[') :: wilds fuel rest
      | c => .one (Pattern.Class.one c) :: wilds fuel rest

/-- Whether a pattern fits a text. -/
def fits : List Wild → Text → Bool
  | [], t => t.isEmpty
  | .one s :: p, c :: t => s.has c && fits p t
  | .one _ :: _, [] => false
  | .many :: p, [] => fits p []
  | .many :: p, c :: t => fits p (c :: t) || fits (.many :: p) t
termination_by p t => (p.length, t.length)

/-- Whether glyphs fit a text. -/
def globFits (gs : List Glyph) (t : Text) : Bool := fits (wilds (gs.length + 1) gs) t

/-- Whether glyphs are more than a text that stands for itself. -/
def isGlob (gs : List Glyph) : Bool :=
  gs.any fun (c, quoted) => !quoted && (c = '*' || c = '?' || c = '[')

/-- A text without the shortest or longest start that glyphs fit. -/
def dropStart (gs : List Glyph) (longest : Bool) (t : Text) : Text :=
  let p := wilds (gs.length + 1) gs
  let sizes := List.range (t.length + 1)
  match (if longest then sizes.reverse else sizes).find? fun n => fits p (t.take n) with
  | some n => t.drop n
  | none => t

/-- A text without the shortest or longest end that glyphs fit. -/
def dropEnd (gs : List Glyph) (longest : Bool) (t : Text) : Text :=
  let p := wilds (gs.length + 1) gs
  let sizes := List.range (t.length + 1)
  match (if longest then sizes else sizes.reverse).find? fun n => fits p (t.drop n) with
  | some n => t.take n
  | none => t

end Marginalia.Shell
