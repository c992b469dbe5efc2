import Marginalia.Text.Basic

/-!
# Faults of patterns

Why a text is no pattern, where in the text that shows, and the words for it. The message repeats
the text and marks the places under it.
-/

namespace Marginalia.Pattern

/-- A stretch of a text, from the place `start` up to the place `stop`. -/
structure Span where
  start : Nat
  stop : Nat
  deriving DecidableEq

/-- Why a text is no pattern. -/
inductive Cause where
  | classEscape
  | classRange
  | rangeBoundary
  | classOpen
  | hexEmpty
  | hexScalar
  | hexDigit
  | escapeEnd
  | escapeUnknown
  | flagDangling
  | flagTwice
  | negationTwice
  | flagEnd
  | flagUnknown
  | nameTwice
  | nameEmpty
  | nameChar
  | nameEnd
  | groupOpen
  | groupUnopened
  | countRange
  | countEmpty
  | countLarge
  | countOpen
  | nothingToRepeat
  | boundaryOpen
  | boundaryUnknown
  | boundaryEnd
  | propertyShape
  | propertyUnknown
  | backReference
  | lookAround
  | unicodeOff
  | octets
  deriving DecidableEq

/-- The words for a cause. -/
def Cause.words : Cause → String
  | .classEscape => "invalid escape sequence found in character class"
  | .classRange => "invalid character class range, the start must be <= the end"
  | .rangeBoundary => "invalid range boundary, must be a literal"
  | .classOpen => "unclosed character class"
  | .hexEmpty => "hexadecimal literal empty"
  | .hexScalar => "hexadecimal literal is not a Unicode scalar value"
  | .hexDigit => "invalid hexadecimal digit"
  | .escapeEnd => "incomplete escape sequence, reached end of pattern prematurely"
  | .escapeUnknown => "unrecognized escape sequence"
  | .flagDangling => "dangling flag negation operator"
  | .flagTwice => "duplicate flag"
  | .negationTwice => "flag negation operator repeated"
  | .flagEnd => "expected flag but got end of regex"
  | .flagUnknown => "unrecognized flag"
  | .nameTwice => "duplicate capture group name"
  | .nameEmpty => "empty capture group name"
  | .nameChar => "invalid capture group character"
  | .nameEnd => "unclosed capture group name"
  | .groupOpen => "unclosed group"
  | .groupUnopened => "unopened group"
  | .countRange => "invalid repetition count range, the start must be <= the end"
  | .countEmpty => "repetition quantifier expects a valid decimal"
  | .countLarge => "decimal literal invalid"
  | .countOpen => "unclosed counted repetition"
  | .nothingToRepeat => "repetition operator missing expression"
  | .boundaryOpen =>
    "special word boundary assertion is either unclosed or contains an invalid character"
  | .boundaryUnknown =>
    "unrecognized special word boundary assertion, valid choices are: " ++
      "start, end, start-half or end-half"
  | .boundaryEnd =>
    "found either the beginning of a special word boundary or a bounded repetition on a \\b " ++
      "with an opening brace, but no closing brace"
  | .propertyShape => "invalid Unicode character class"
  | .propertyUnknown => "Unicode property not found"
  | .backReference => "backreferences are not supported"
  | .lookAround => "look-around, including look-ahead and look-behind, is not supported"
  | .unicodeOff => "Unicode not allowed here"
  | .octets => "pattern can match invalid UTF-8"

/-- Why a text is no pattern and where that shows; for what stands twice, both places. -/
structure Fault where
  cause : Cause
  spans : List Span
  deriving DecidableEq

/-! ## Messages -/

/-- The line and the column of a place, both counted from one. -/
def position (pattern : Text) (place : Nat) : Nat × Nat :=
  let before := pattern.take place
  (before.count '\n' + 1, (before.reverse.takeWhile (· ≠ '\n')).length + 1)

/-- Marks under a line at columns, after columns that are passed already. -/
def marks : Nat → List (Nat × Nat) → Text
  | _, [] => []
  | passed, (first, last) :: more =>
    let width := max 1 (last - first)
    List.replicate (first - 1 - passed) ' ' ++ List.replicate width '^' ++
      marks (max passed (first - 1) + width) more

namespace Fault

/-- The places that lie on one line, as columns. -/
def onLine (f : Fault) (pattern : Text) (line : Nat) : List (Nat × Nat) :=
  let columns := f.spans.filterMap fun s =>
    let (first, from') := position pattern s.start
    let (last, upTo) := position pattern s.stop
    if first = line && last = line then some (from', upTo) else none
  columns.mergeSort fun a b => a.1 ≤ b.1

/-- The places that lie on several lines, in words. -/
def acrossLines (f : Fault) (pattern : Text) : List Text :=
  f.spans.filterMap fun s =>
    let (first, from') := position pattern s.start
    let (last, upTo) := position pattern s.stop
    if first = last then none
    else
      some ("on line ".toList ++ Text.ofNat first ++ " (column ".toList ++ Text.ofNat from' ++
        ") through line ".toList ++ Text.ofNat last ++ " (column ".toList ++
        Text.ofNat (upTo - 1) ++ [')'])

/-- The text with marks under it. -/
def marked (f : Fault) (pattern : Text) : Text :=
  let lines := Text.printedLines pattern
  let count := lines.length + (if pattern.getLast? = some '\n' then 1 else 0)
  let width := if count ≤ 1 then 2 else (Text.ofNat count).length
  (lines.zipIdx 1).flatMap fun (line, number) =>
    let digits := Text.ofNat number
    let label :=
      if count ≤ 1 then "    ".toList
      else List.replicate (width - digits.length) ' ' ++ digits ++ ": ".toList
    let under := marks 0 (f.onLine pattern number)
    label ++ line ++ ['\n'] ++
      if under = [] then [] else List.replicate (width + 2) ' ' ++ under ++ ['\n']

/-- All that is said about a fault. -/
def message (f : Fault) (pattern : Text) : Text :=
  let opening := "regex parse error:\n".toList
  let cause := "error: ".toList ++ f.cause.words.toList
  if pattern.contains '\n' then
    let rule := List.replicate 79 '~' ++ ['\n']
    opening ++ rule ++ f.marked pattern ++ rule ++ Text.unlines (f.acrossLines pattern) ++ cause
  else opening ++ f.marked pattern ++ cause

end Fault

end Marginalia.Pattern
