import Marginalia.Markdown.Scan

/-!
# Labels, destinations and titles

Definitions and links are built from the same pieces: a label in brackets that names a definition,
a destination, and a title in quotes. `labelKey` is the form under which labels are compared.
-/

namespace Marginalia.Markdown

/-! ## Comparing labels -/

/-- One step in reading the words of a label, the number of characters passed being `index`: the
index of the last word, whether the place is between words, and the text, last character first. -/
def labelKeyStep (r : Nat × Nat × Bool × Text) (c : Char) : Nat × Nat × Bool × Text :=
  let (index, start, between, out) := r
  if isGap c then (index + 1, start, true, out)
  else if between then
    (index + 1, index, false, c :: (if start = 0 then out else ' ' :: out))
  else (index + 1, start, false, c :: out)

/-- The form in which labels are compared: case does not count, and the words stand one space
apart, except that nothing divides a word at the very start from the next one. -/
def labelKey (t : Text) : Text :=
  Text.fold (t.foldl labelKeyStep (0, 0, true, [])).2.2.2.reverse

/-- The most octets of a label. -/
def labelLimit : Nat := 999

namespace Scan

/-! ## Labels -/

/-- The octets of the character at hand. -/
def width (c : Char) : Nat := c.utf8Size

/-- Where in a label a scanner is: between its lines, in its text, or after a backslash. -/
inductive LabelAt where
  | between
  | inside
  | escaped

/-- Passes a label. Its text is a chain of its lines; `sized` counts its octets, `seen` tells
whether there is more than blanks, and `chained` whether the chain has begun. -/
def labelStep (outer text : Part) :
    LabelAt × Nat × Bool × Bool → Scan (Option (LabelAt × Nat × Bool × Bool))
  | (.between, sized, seen, chained) => do
    match ← peek with
    | none => fail
    | some c =>
      if sized > labelLimit || c = '[' || (c = ']' && !seen) then fail
      else if c = '\n' then
        if ← attempt (gapOverLine (some .string) (!chained)) then
          return some (.between, sized, seen, true)
        else fail
      else if c = ']' then
        exit text
        consume
        exit outer
        return none
      else
        enterRead .data .string (!chained)
        return some (.inside, sized, seen, true)
  | (.inside, sized, seen, chained) => do
    match ← peek with
    | none => exit .data; return some (.between, sized, seen, chained)
    | some c =>
      if c = '\n' || c = '[' || c = ']' || sized > labelLimit then
        exit .data
        return some (.between, sized, seen, chained)
      else
        step
        return some (if c = '\\' then .escaped else .inside, sized + width c,
          seen || !isSpace c, chained)
  | (.escaped, sized, seen, chained) => do
    match ← peek with
    | some c =>
      if c = '[' || c = '\\' || c = ']' then
        step
        return some (.inside, sized + 1, seen, chained)
      else return some (.inside, sized, seen, chained)
    | none => return some (.inside, sized, seen, chained)

/-- Passes a label in brackets. -/
def label (outer text : Part) : Scan Unit := do
  require ((← peek) = some '[')
  enter outer
  step
  enter text
  walk (labelStep outer text) (.between, 0, false, false)

/-! ## Destinations -/

/-- Whether a character is a control. The character with number zero is none. -/
def isControl (c : Char) : Bool := (0 < c.toNat && c.toNat < 32) || c.toNat = 127

/-- Passes the text of a destination in angle brackets. -/
def enclosedStep (text : Part) (escaped : Bool) : Scan (Option Bool) := do
  match ← peek with
  | none => fail
  | some c =>
    if escaped && (c = '<' || c = '>' || c = '\\') then
      step
      return some false
    else if c = '\n' || c = '<' then fail
    else if c = '>' then
      exit .data
      exit text
      return none
    else
      step
      return some (c = '\\')

/-- Passes the text of a destination without brackets, in which `depth` parentheses are open. -/
def bareStep (text : Part) (most : Option Nat) : Nat × Bool → Scan (Option (Nat × Bool))
  | (depth, escaped) => do
    let c ← peek
    let fits := match most with
      | none => true
      | some m => depth < m
    if escaped && (c = some '(' || c = some ')' || c = some '\\') then
      step
      return some (depth, false)
    else if depth = 0 && (c = none || c = some ')' || (c.map isGap).getD false) then
      exit .data
      exit text
      return none
    else if c = some '(' && fits then
      step
      return some (depth + 1, false)
    else if c = some ')' then
      step
      return some (depth - 1, false)
    else
      match c with
      | none => fail
      | some c =>
        if isControl c || c = ' ' || c = '(' then fail
        else
          step
          return some (depth, c = '\\')

/-- Passes a destination. At most `most` parentheses may be open in it. -/
def destination (outer text : Part) (most : Option Nat) : Scan Unit := do
  match ← peek with
  | none => fail
  | some c =>
    if c = '<' then
      enter outer
      step
      if (← peek) ≠ some '>' then
        enter text
        enterRead .data .string true
        walk (enclosedStep text) false
      consume
      exit outer
    else if isControl c || c = ' ' || c = ')' then fail
    else
      enter outer
      enter text
      enterRead .data .string true
      walk (bareStep text most) (0, false)
      exit outer

/-! ## Titles -/

/-- Where in a title a scanner is: between its lines, in its text, or after a backslash. -/
inductive TitleAt where
  | between
  | inside
  | escaped

/-- Passes the text of a title up to the sign that ends it. -/
def titleStep (text : Part) (close : Char) : TitleAt × Bool → Scan (Option (TitleAt × Bool))
  | (.between, chained) => do
    match ← peek with
    | none => fail
    | some c =>
      if c = close then
        exit text
        return none
      else if c = '\n' then
        if ← attempt (gapOverLine (some .string) (!chained)) then return some (.between, true)
        else fail
      else
        enterRead .data .string (!chained)
        return some (.inside, true)
  | (.inside, chained) => do
    match ← peek with
    | none => exit .data; return some (.between, chained)
    | some c =>
      if c = close || c = '\n' then
        exit .data
        return some (.between, chained)
      else
        step
        return some (if c = '\\' then .escaped else .inside, chained)
  | (.escaped, chained) => do
    match ← peek with
    | some c =>
      if c = '"' || c = '\'' || c = ')' || c = '\\' then step
      return some (.inside, chained)
    | none => return some (.inside, chained)

/-- Passes a title in quotes or parentheses. -/
def title (outer text : Part) : Scan Unit := do
  let c := (← peek).getD ' '
  require (c = '"' || c = '\'' || c = '(')
  let close := if c = '(' then ')' else c
  enter outer
  step
  if (← peek) ≠ some close then
    enter text
    walk (titleStep text close) (.between, false)
  consume
  exit outer

end Scan

end Marginalia.Markdown
