import Marginalia.Markdown.Autolink
import Marginalia.Markdown.Emphasis
import Marginalia.Markdown.Link
import Marginalia.Markdown.Markup
import Marginalia.Markdown.Paragraph

/-!
# Running text

Running text is read sign by sign: at a sign that may start something, that is tried, and what
starts nothing is plain text. Strings, such as titles and destinations, hold escapes and character
references only. When all of a text is read, labels are settled first and then emphasis; plain
texts side by side are joined, the blanks around the ends of lines are set apart, and addresses of
mail are found.
-/

namespace Marginalia.Markdown

namespace Scan

/-! ## Escapes and character references -/

/-- Passes an escaped character. -/
def escape : Scan Unit := do
  enter .characterEscape
  step
  require (((← peek).map isAsciiPunctuation).getD false)
  enter .characterEscapeValue
  consume
  exit .characterEscapeValue
  exit .characterEscape

/-- Passes a backslash at the end of a line. -/
def escapedBreak : Scan Unit := do
  enter .hardBreakEscape
  step
  require ((← peek) = some '\n')
  exit .hardBreakEscape

/-- Passes the value of a character reference, which has at most `most` characters. -/
def referenceValue (base : Char) (most : Nat) (p : Char → Bool) : Scan Unit := do
  enter (.characterReferenceValue base)
  let start ← asks fun s => s.place.index
  walk (fun n => do
    if n < most && ((← peek).map p).getD false then
      step
      return some (n + 1)
    else return none) 0
  let name ← asks fun s => Slice.between s.source start s.place.index
  require ((← peek) = some ';' && name ≠ [] && (base ≠ '&' || (entity? name).isSome))
  exit (.characterReferenceValue base)
  consume
  exit .characterReference

/-- Passes a character reference. -/
def characterReference : Scan Unit := do
  enter .characterReference
  step
  if (← peek) = some '#' then
    step
    let c ← peek
    if c = some 'x' || c = some 'X' then
      step
      referenceValue 'x' 6 isHexDigit
    else referenceValue '#' 7 Char.isDigit
  else referenceValue '&' 31 Char.isAlphanum

/-! ## Code in running text -/

/-- Passes code up to as many backquotes as it started with. -/
def codeTextStep (size : Nat) : Unit → Scan (Option Unit)
  | () => do
    match ← peek with
    | none => fail
    | some '\n' =>
      lineEnd
      return some ()
    | some '\x60' =>
      let (start, first) ← asks fun s => (s.place.index, s.events.size)
      enter .codeTextSequence
      passWhile (· = '\x60')
      exit .codeTextSequence
      if (← asks fun s => s.place.index) = start + size then
        exit .codeText
        return none
      else
        modify fun s => { s with events :=
          (s.events.setPart first .codeTextData).setPart (first + 1) .codeTextData }
        return some ()
    | some _ =>
      enter .codeTextData
      passWhile fun c => c ≠ '\n' && c ≠ '\x60'
      exit .codeTextData
      return some ()

/-- Passes code in running text. -/
def codeText : Scan Unit := do
  require (← asks fun s => s.previous ≠ some '\x60' ||
    (s.events.back?.map (·.part)) = some Part.characterEscape)
  enter .codeText
  enter .codeTextSequence
  let start ← asks fun s => s.place.index
  passWhile (· = '\x60')
  let size ← asks fun s => s.place.index - start
  exit .codeTextSequence
  walk (codeTextStep size) ()

/-! ## Boxes -/

/-- Passes blanks, after which something has to follow. -/
def gapBeforeMore : Scan Unit := do
  gap
  require (← peek).isSome

/-- Passes a box at the start of an item. -/
def taskCheck : Scan Unit := do
  require ((← asks fun s => s.mayTick && s.previous.isNone) && (← peek) = some '[')
  enter .taskCheck
  step
  let c := (← peek).getD '['
  let ticked := c = 'x' || c = 'X'
  require (isGap c || ticked)
  enter (.taskCheckValue ticked)
  consume
  exit (.taskCheckValue ticked)
  next
  require ((← peek) = some ']')
  consume
  exit .taskCheck
  next
  if (← peek) ≠ some '\n' then
    require (← check gapBeforeMore)

/-! ## Plain text -/

/-- Passes plain text up to one of `signs`; a sign at its start is passed in any case. -/
def plain (signs : List Char) : Scan Unit := do
  let within (c : Char) : Bool := c ≠ '\n' && !signs.contains c
  if ((← peek).map signs.contains).getD false then
    enter .data
    step
    passWhile within
    exit .data
  walk (fun () => do
    match ← peek with
    | none => return none
    | some c =>
      if signs.contains c then return none
      else if c = '\n' then
        lineEnd
        return some ()
      else
        enter .data
        passWhile within
        exit .data
        return some ()) ()

/-- Signs that may start something in a string. -/
def stringSigns : List Char := ['&', '\\']

/-- Signs that may start something in running text. -/
def textSigns : List Char :=
  ['!', '$', '&', '*', '<', 'H', 'W', '[', '\\', ']', '_', '\x60', 'h', 'w', '\x7b', '~']

/-- What may start at a sign in running text. -/
def textStarts : Char → List (Scan Unit)
  | '!' => [imageStart]
  | '\x60' => [codeText]
  | '&' => [characterReference]
  | '*' => [attention]
  | '_' => [attention]
  | '~' => [attention]
  | '<' => [autolink, inlineMarkup]
  | 'H' => [webAddress]
  | 'h' => [webAddress]
  | 'W' => [wwwAddress]
  | 'w' => [wwwAddress]
  | '[' => [callStart, linkStart]
  | '\\' => [escape, escapedBreak]
  | ']' => [labelEnd]
  | _ => []

/-- What may start at a sign in a string. -/
def stringStarts : Char → List (Scan Unit)
  | '&' => [characterReference]
  | '\\' => [escape]
  | _ => []

/-- Tries some things in turn; tells whether one succeeded. -/
def anyOf : List (Scan Unit) → Scan Bool
  | [] => return false
  | x :: xs => do if ← attempt x then return true else anyOf xs

/-- Passes text in which something may start at signs. -/
def signed (signs : List Char) (starts : Char → List (Scan Unit)) : Scan Unit :=
  walk (fun () => do
    match ← peek with
    | none => return none
    | some c =>
      if !(← anyOf (starts c)) then plain signs
      return some ()) ()

/-- Passes a string. -/
def string : Scan Unit := signed stringSigns stringStarts

/-- Passes running text. -/
def text : Scan Unit := do
  let _ ← attempt taskCheck
  signed textSigns textStarts

end Scan

/-! ## Joining plain text -/

/-- The last event of the plain texts side by side, of which one ends at an index. -/
def lastData (es : Events) : Nat → Nat → Nat
  | 0, i => i
  | fuel + 1, i =>
    if i + 1 < es.size && es.part (i + 1) = .data then lastData es fuel (i + 2) else i

/-- Joins plain texts side by side from an index on. -/
def joinDataFrom (es : Events) : Nat → Nat → Edits → Edits
  | 0, _, m => m
  | fuel + 1, i, m =>
    if i < es.size then
      if es.opens i && es.part i = .data then
        let last := lastData es es.size (i + 1)
        joinDataFrom es fuel (last + 1) (m.add (i + 1) (last - (i + 1)) #[])
      else joinDataFrom es fuel (i + 1) m
    else m

/-- The events with plain texts side by side joined. -/
def joinData (es : Events) : Events := (joinDataFrom es (es.size + 1) 0 (.none es)).apply es

/-! ## Blanks around the ends of lines -/

/-- The fewest spaces before the end of a line that break it. -/
def breakSize : Nat := 2

/-- Sets the blanks at the end of a plain text apart; tells whether more than blanks is left, and
what that is. -/
def trimEnd (breaks : Bool) (s : Slice) (exit : Nat) (es : Events) (m : Edits) :
    Events × Edits × Option Text :=
  let tail := (s.text.reverse.takeWhile isSpace).length
  let broken := breaks && s.after = 0 && (s.text.reverse.takeWhile isSpace).all (· = ' ') &&
    tail ≥ breakSize && exit + 1 < es.size
  let part : Part := if broken then .hardBreakTrailing else .spaceOrTab
  if tail = s.text.length then
    (es.setPart (exit - 1) part |>.setPart exit part, m, none)
  else if tail > 0 || s.after > 0 then
    let stop := es.place exit
    let start : Place := { stop with index := stop.index - tail, column := stop.column - tail,
                                     ahead := 0 }
    (es.setPlace exit start, m.add (exit + 1) 0 (Event.pair part start stop),
      some (s.text.take (s.text.length - tail)))
  else (es, m, some s.text)

/-- Sets the blanks at the start of a plain text apart. -/
def trimStart (before : Nat) (t : Text) (exit : Nat) (es : Events) (m : Edits) : Events × Edits :=
  let front := (t.takeWhile isSpace).length
  if front = t.length then
    (es.setPart (exit - 1) .spaceOrTab |>.setPart exit .spaceOrTab, m)
  else if front > 0 || before > 0 then
    let start := es.place (exit - 1)
    let stop : Place := { start with index := start.index + front, column := start.column + front,
                                     ahead := 0 }
    (es.setPlace (exit - 1) stop, m.add (exit - 1) 0 (Event.pair .spaceOrTab start stop))
  else (es, m)

/-- Sets the blanks of the plain text that ends at an index apart where an end of a line, or the
start or end of a whole text, is beside it. -/
def trimStep (source : Array Char) (whole : Bool) (r : Events × Edits) (i : Nat) : Events × Edits :=
  let (es, m) := r
  if es.opens i || es.part i ≠ .data then (es, m)
  else
    let first := (whole && i = 1) || (i > 1 && es.part (i - 2) = .lineEnding)
    let last := (whole && i = es.size - 1) || (i + 1 < es.size && es.part (i + 1) = .lineEnding)
    let s := es.sliceTo source i
    let (es, m, rest) := if last then trimEnd whole s i es m else (es, m, some s.text)
    match rest with
    | none => (es, m)
    | some t => if first then trimStart s.before t i es m else (es, m)

/-- The events with the blanks around the ends of lines set apart. -/
def trimLines (source : Array Char) (whole : Bool) (es : Events) : Events :=
  let (es, m) := (List.range es.size).foldl (trimStep source whole) (es, .none es)
  m.apply es

/-! ## All text of a document -/

/-- Settles the events of a running text that was read. -/
def Scan.settleText (s : State) : State :=
  { s with events :=
      mails s.source (trimLines s.source true (joinData (emphasis s.source (links s)))) }

/-- Settles the events of a string that was read. -/
def Scan.settleString (s : State) : State :=
  { s with events := trimLines s.source false (joinData s.events) }

/-- Reads a string and settles it. -/
def Scan.wholeString : Scan Unit := do
  string
  modify settleString

/-- Reads a running text and settles it. -/
def Scan.wholeText : Scan Unit := do
  text
  modify settleText

/-- Reads all strings and running texts, also those that are found on the way. -/
def readTexts (source : Array Char) (glossary : Glossary) : Nat → Events → Events
  | 0, es => es
  | fuel + 1, es =>
    let r := readAll source glossary (fun
      | .text => some Scan.wholeText
      | .string => some Scan.wholeString
      | _ => none) es
    if r.found then readTexts source glossary fuel r.events else r.events

/-- The events of a document. -/
def events (source : Array Char) : Events :=
  let (es, glossary) := blocks source
  readTexts source glossary (source.size + 2) es

end Marginalia.Markdown
