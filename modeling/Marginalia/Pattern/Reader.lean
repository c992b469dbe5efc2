import Marginalia.Pattern
import Marginalia.Pattern.Fault

/-!
# Reading patterns

Reads the text of a pattern from left to right. Flags change how the rest of a group is read, and
are part of what is known at a place, like the names that groups were given. A fault ends the
reading, except one of meaning, which counts only if the whole text has the form of a pattern.
-/

namespace Marginalia.Pattern

/-! ## What is known at a place -/

/-- How a part of a pattern is read. -/
structure Flags where
  /-- The case of letters does not matter. -/
  anyCase : Bool
  /-- The ends of lines count like the ends of the text. -/
  lines : Bool
  /-- A dot also stands for the end of a line. -/
  dotAll : Bool
  crlf : Bool
  /-- Classes hold characters of all scripts. -/
  unicode : Bool
  /-- Blanks and remarks between the parts of a pattern do not count. -/
  spaced : Bool
  deriving DecidableEq

/-- The flags at the start. -/
def Flags.start : Flags := ⟨false, false, false, false, true, false⟩

/-- The flags with the one that a letter stands for set to a value, if there is one. -/
def Flags.set? (f : Flags) (letter : Char) (on : Bool) : Option Flags :=
  match letter with
  | 'i' => some { f with anyCase := on }
  | 'm' => some { f with lines := on }
  | 's' => some { f with dotAll := on }
  | 'R' => some { f with crlf := on }
  | 'u' => some { f with unicode := on }
  | 'x' => some { f with spaced := on }
  | 'U' => some f
  | _ => none

/-- What is known at a place of a text. -/
structure Cursor where
  place : Nat
  rest : Text
  flags : Flags
  /-- The names of groups, and where they stand. -/
  names : List (Text × Span)
  /-- The first fault of meaning. -/
  late : Option Fault

/-- A reader of a part of a pattern. -/
abbrev Read := StateT Cursor (Except Fault)

/-- Ends the reading because of a stretch of the text. -/
def refuse {α : Type} (cause : Cause) (start stop : Nat) : Read α :=
  throw ⟨cause, [⟨start, stop⟩]⟩

/-- Notes a fault of meaning. -/
def objectTo (cause : Cause) (start stop : Nat) : Read Unit :=
  modify fun c => { c with late := c.late <|> some ⟨cause, [⟨start, stop⟩]⟩ }

/-- The place. -/
def here : Read Nat := return (← get).place

/-- The next character. -/
def peek : Read (Option Char) := return (← get).rest.head?

/-- Whether the next character is the given one. -/
def isNext (c : Char) : Read Bool := return (← peek) = some c

/-- Passes a number of characters. -/
def skip (n : Nat) : Read Unit :=
  modify fun c => { c with place := c.place + min n c.rest.length, rest := c.rest.drop n }

/-- Passes a text, if it comes next. -/
def skipText? (t : String) : Read Bool := do
  match Text.after? t.toList (← get).rest with
  | some _ =>
    skip t.length
    return true
  | none => return false

/-- What follows blanks and remarks; a remark goes on to the end of its line. -/
def dropRemarks : (inRemark : Bool) → Text → Text
  | _, [] => []
  | true, c :: t => dropRemarks (c ≠ '\n') t
  | false, c :: t =>
    if isBlank c then dropRemarks false t
    else if c = '#' then dropRemarks true t
    else c :: t

/-- Passes blanks and remarks where they do not count. -/
def skipSpace : Read Unit := do
  let c ← get
  if c.flags.spaced then skip (c.rest.length - (dropRemarks false c.rest).length)

/-- Passes a character and what does not count after it; whether something is left. -/
def step : Read Bool := do
  skip 1
  skipSpace
  return (← peek).isSome

/-- Passes blanks. -/
def skipBlanks : Read Unit := do skip ((← get).rest.takeWhile isBlank).length

/-- Passes characters on which a condition holds, and gives them back. -/
def readWhile (p : Char → Bool) : Nat → Read Text
  | 0 => return []
  | fuel + 1 => do
    match ← peek with
    | some c =>
      if p c then
        let _ ← step
        return c :: (← readWhile p fuel)
      else return []
    | none => return []

/-! ## Classes and escapes -/

/-- A part of a pattern that is not made of others. -/
inductive Atom where
  | char (c : Char)
  | set (s : Class)
  | place (b : Boundary)

/-- A class of a kind, or of its ASCII characters only, or of all that are not in it. -/
def kindClass (k : Kind) (negated : Bool) (start : Nat) : Read Class := do
  let unicode := (← get).flags.unicode
  let s : Class := if unicode then .kind k else .inter (.kind k) (.kind .ascii)
  if !unicode && negated then objectTo .octets start (← here)
  return if negated then .not s else s

/-- The class of word characters. -/
def wordClass : Read Class :=
  return if (← get).flags.unicode then .kind .word else .inter (.kind .word) (.kind .ascii)

/-- A class after its case and its negation are taken into account. -/
def closeClass (s : Class) (negated : Bool) (start : Nat) : Read Class := do
  let flags := (← get).flags
  if negated && !flags.unicode then objectTo .octets start (← here)
  let s := if flags.anyCase then .anyCase s else s
  return if negated then .not s else s

/-- The number that hexadecimal digits spell. -/
def hexValue (digits : Text) : Nat :=
  digits.foldl (fun n d =>
    n * 16 + (if d.isDigit then d.toNat - 48 else d.toLower.toNat - 87)) 0

/-- Whether a character is a hexadecimal digit. -/
def isHexDigit (c : Char) : Bool :=
  c.isDigit || ('a' ≤ c && c ≤ 'f') || ('A' ≤ c && c ≤ 'F')

/-- The character with a number in hexadecimal digits. -/
def scalar (digits : Text) (start stop : Nat) : Read Char :=
  let n := hexValue digits
  if n < 0xD800 || (0xE000 ≤ n && n < 0x110000) then return Char.ofNat n
  else refuse .hexScalar start stop

/-- Reads a fixed number of hexadecimal digits. -/
def hexDigits : Nat → Read Text
  | 0 => return []
  | n + 1 => do
    match ← peek with
    | none => refuse .escapeEnd (← here) (← here)
    | some c =>
      if !isHexDigit c then refuse .hexDigit (← here) ((← here) + 1)
      else
        let _ ← step
        return c :: (← hexDigits n)

/-- Reads the character that the digits after a letter stand for. -/
def hexChar (letter : Char) : Read Char := do
  if !(← step) then refuse .escapeEnd (← here) (← here)
  let start ← here
  if ← isNext '\x7b' then
    let _ ← step
    let digits ← readWhile isHexDigit (← get).rest.length
    let stop ← here
    match ← peek with
    | none => refuse .escapeEnd start stop
    | some c =>
      if c ≠ '\x7d' then refuse .hexDigit stop (stop + 1)
      let _ ← step
      if digits = [] then refuse .hexEmpty start (← here)
      scalar digits (start + 1) stop
  else
    let digits ← hexDigits (if letter = 'x' then 2 else if letter = 'u' then 4 else 8)
    scalar digits start (← here)

/-- Reads the class that a property names. The escape begins at `start`. -/
def propertyClass (start : Nat) (negated : Bool) : Read Class := do
  if !(← step) then refuse .escapeEnd (← here) (← here)
  let name ← if ← isNext '\x7b' then
      let _ ← step
      let name ← readWhile (· ≠ '\x7d') (← get).rest.length
      if (← peek) = none then refuse .escapeEnd (← here) (← here)
      skip 1
      pure name
    else
      let name := (← get).rest.take 1
      if name = ['\\'] then refuse .propertyShape (← here) ((← here) + 1)
      let _ ← step
      pure name
  let flags := (← get).flags
  if !flags.unicode then objectTo .unicodeOff start (← here)
  match Class.ofProperty? name with
  | some s =>
    let s := if flags.anyCase then .anyCase s else s
    return if negated then .not s else s
  | none =>
    objectTo .propertyUnknown start (← here)
    return .none

/-- Reads the name in braces that a word boundary may have. It begins at `start`. -/
def boundaryName (start : Nat) (word : Class) : Read Boundary := do
  let brace ← get
  let usual : Boundary := .edge word
  if brace.rest.head? ≠ some '\x7b' then return usual
  if !(← step) then refuse .boundaryEnd start (← here)
  let isPart (c : Char) : Bool := c.isAlpha || c = '-'
  if !((← peek).map isPart).getD false then
    set brace
    return usual
  let first ← here
  let name ← readWhile isPart brace.rest.length
  let last ← here
  if !(← isNext '\x7d') then refuse .boundaryOpen brace.place last
  skip 1
  match String.ofList name with
  | "start" => return .wordStart word
  | "end" => return .wordEnd word
  | "start-half" => return .freeBefore word
  | "end-half" => return .freeAfter word
  | _ => refuse .boundaryUnknown first last

/-- The character that a letter after a backslash stands for. -/
def controlChar? : Char → Option Char
  | 'a' => some '\x07'
  | 'f' => some '\x0c'
  | 't' => some '\t'
  | 'n' => some '\n'
  | 'r' => some '\r'
  | 'v' => some '\x0b'
  | _ => none

/-- Reads what a backslash begins. -/
def escaped : Read Atom := do
  let start ← here
  skip 1
  match ← peek with
  | none => refuse .escapeEnd start (← here)
  | some c =>
    if c.isDigit then refuse .backReference start ((← here) + 1)
    else if c = 'x' || c = 'u' || c = 'U' then return .char (← hexChar c)
    else if c = 'p' || c = 'P' then return .set (← propertyClass start (c = 'P'))
    else
      skip 1
      match controlChar? c with
      | some d => return .char d
      | none =>
        match c with
        | 'd' | 'D' => return .set (← kindClass .digit (c = 'D') start)
        | 's' | 'S' => return .set (← kindClass .blank (c = 'S') start)
        | 'w' | 'W' => return .set (← kindClass .word (c = 'W') start)
        | 'A' => return .place .textStart
        | 'z' => return .place .textEnd
        | 'b' => return .place (← boundaryName start (← wordClass))
        | 'B' => return .place (.noEdge (← wordClass))
        | '<' => return .place (.wordStart (← wordClass))
        | '>' => return .place (.wordEnd (← wordClass))
        | c =>
          if c.isAlphanum || 0x80 ≤ c.toNat then refuse .escapeUnknown start (← here)
          else return .char c

/-- Reads an item of a class. -/
def classAtom : Read Atom := do
  match ← peek with
  | some '\\' => escaped
  | some c =>
    skip 1
    return .char c
  | none => return .set .none

/-- An item that stands on its own in a class. -/
def Atom.asClass (a : Atom) (start stop : Nat) : Read Class :=
  match a with
  | .char c => return Class.one c
  | .set s => return s
  | .place _ => refuse .classEscape start stop

/-- An item at an end of a range. -/
def Atom.asChar (a : Atom) (start stop : Nat) : Read Char :=
  match a with
  | .char c => return c
  | _ => refuse .rangeBoundary start stop

/-- The character after the next one, without what does not count. -/
def peekPast : Read (Option Char) := do
  let c ← get
  let t := c.rest.drop 1
  return (if c.flags.spaced then dropRemarks false t else t).head?

/-- Reads an item of a class, or a range between two of them. `opening` is where the class began. -/
def classRange (opening : Span) : Read Class := do
  let start ← here
  let first ← classAtom
  let stop ← here
  skipSpace
  if (← peek) = none then refuse .classOpen opening.start opening.stop
  let past ← peekPast
  if !(← isNext '-') || past = some ']' || past = some '-' then first.asClass start stop
  else
    if !(← step) then refuse .classOpen opening.start opening.stop
    let second ← here
    let last ← classAtom
    let finish ← here
    let low ← first.asChar start stop
    let high ← last.asChar second finish
    if high < low then refuse .classRange start finish
    return .range low high

/-- Reads the name of a class between colons, if there is one; nothing is read otherwise. -/
def namedClass? : Read (Option Class) := do
  let before ← get
  match Text.after? "[:".toList before.rest with
  | none => return none
  | some t =>
    let negated := t.head? = some '^'
    let t := if negated then t.drop 1 else t
    let name := t.takeWhile (· ≠ ':')
    match Text.after? ":]".toList (t.drop name.length), Class.ofName? (String.ofList name) with
    | some rest, some s =>
      skip (before.rest.length - rest.length)
      let s := if before.flags.anyCase then .anyCase s else s
      return some (if negated then .not s else s)
    | _, _ => return none

/-- Reads the dashes at the start of a class. -/
def leadingDashes (start : Nat) : Nat → Class → Read Class
  | 0, s => return s
  | fuel + 1, s => do
    if ← isNext '-' then
      if !(← step) then refuse .classOpen start start
      leadingDashes start fuel (.union s (Class.one '-'))
    else return s

/-- An operation on two classes. -/
abbrev Operation := Class → Class → Class

mutual

/-- Reads a class in brackets. -/
def bracketed : Nat → Read Class
  | 0 => return .none
  | fuel + 1 => do
    let start ← here
    if !(← step) then refuse .classOpen start (← here)
    let negated ← isNext '^'
    if negated then
      if !(← step) then refuse .classOpen start (← here)
    let dashes ← leadingDashes start (← get).rest.length .none
    let bracket := dashes = .none && (← isNext ']')
    if bracket then
      if !(← step) then refuse .classOpen start (← here)
    let s := if bracket then Class.one ']' else dashes
    let s ← classItems fuel ⟨start, ← here⟩ none s
    closeClass s negated start

/-- Reads the items of a class up to its bracket. An operation waits for its second class. -/
def classItems : Nat → Span → Option (Operation × Class) → Class → Read Class
  | 0, _, _, s => return s
  | fuel + 1, opening, waiting, s => do
    skipSpace
    let anyCase := (← get).flags.anyCase
    let folded (s : Class) : Class := if anyCase then .anyCase s else s
    let whole := match waiting with
      | some (operation, first) => operation (folded first) (folded s)
      | none => s
    let next := (← get).rest.take 2
    match next with
    | [] => refuse .classOpen opening.start opening.stop
    | '[' :: _ =>
      match ← namedClass? with
      | some t => classItems fuel opening waiting (.union s t)
      | none =>
        let t ← bracketed fuel
        classItems fuel opening waiting (.union s t)
    | ']' :: _ =>
      skip 1
      return whole
    | ['&', '&'] =>
      skip 2
      classItems fuel opening (some (.inter, whole)) .none
    | ['-', '-'] =>
      skip 2
      classItems fuel opening (some (Class.minus, whole)) .none
    | ['~', '~'] =>
      skip 2
      classItems fuel opening (some (Class.apart, whole)) .none
    | _ =>
      let t ← classRange opening
      classItems fuel opening waiting (.union s t)

end

/-! ## Repetition -/

/-- Takes the last part that was read, which is to be repeated. -/
def takeLast (done : List (Option Pattern)) : Read (Pattern × List (Option Pattern)) := do
  match done with
  | some p :: before => return (p, before)
  | _ => refuse .nothingToRepeat (← here) (← here)

/-- Passes a question mark after a repetition. -/
def skipLazy : Read Unit := do
  if ← isNext '?' then skip 1

/-- The greatest number of repetitions. -/
def greatestCount : Nat := 4294967295

/-- Reads a number of repetitions. What is wrong with it may not matter yet. -/
def count : Read (Except Fault Nat) := do
  skipBlanks
  let start ← here
  let digits ← readWhile Char.isDigit (← get).rest.length
  let stop ← here
  skipBlanks
  skipSpace
  let n := digits.foldl (fun n d => n * 10 + (d.toNat - 48)) 0
  if digits = [] then return .error ⟨.countEmpty, [⟨start, stop⟩]⟩
  else if greatestCount < n then return .error ⟨.countLarge, [⟨start, stop⟩]⟩
  else return .ok n

/-- Reads a repetition with numbers in braces. -/
def counted (p : Pattern) : Read Pattern := do
  let start ← here
  if !(← step) then refuse .countOpen start (← here)
  let least ← count
  if (← peek) = none then refuse .countOpen start (← here)
  let (least, most) ← if ← isNext ',' then
      if !(← step) then refuse .countOpen start (← here)
      if ← isNext '\x7d' then pure (← least, none)
      else
        let least ← least
        let most ← (← count)
        pure (least, some most)
    else
      let n ← least
      pure (n, some n)
  if !(← isNext '\x7d') then refuse .countOpen start (← here)
  let _ ← step
  skipLazy
  match most with
  | some n => if n < least then refuse .countRange start (← here)
  | none => pure ()
  return .times p least most

/-! ## Groups -/

/-- Reads the flags after a question mark. `seen` holds those that were read, with their places. -/
def flagLetters : Nat → List (Char × Nat) → Flags → Read (Flags × List (Char × Nat))
  | 0, seen, flags => return (flags, seen)
  | fuel + 1, seen, flags => do
    let i ← here
    match ← peek with
    | none => refuse .flagEnd i i
    | some c =>
      if c = ':' || c = ')' then
        match seen.getLast? with
        | some ('-', j) => refuse .flagDangling j (j + 1)
        | _ => return (flags, seen)
      else
        let on := (seen.lookup '-').isNone
        let some flags := (if c = '-' then some flags else flags.set? c on)
          | refuse .flagUnknown i (i + 1)
        match seen.lookup c with
        | some j =>
          let cause : Cause := if c = '-' then .negationTwice else .flagTwice
          throw ⟨cause, [⟨i, i + 1⟩, ⟨j, j + 1⟩]⟩
        | none =>
          skip 1
          flagLetters fuel (seen ++ [(c, i)]) flags

/-- Whether a character may stand in the name of a group. -/
def isNameChar (first : Bool) (c : Char) : Bool :=
  c = '_' || Kind.letter.has c || (!first && (isWord c || c = '.' || c = '[' || c = ']'))

/-- Reads the name of a group. -/
def groupName : Read Unit := do
  let start ← here
  let name := (← get).rest.takeWhile (· ≠ '>')
  let good := match name with
    | [] => []
    | c :: t => if isNameChar true c then c :: t.takeWhile (isNameChar false) else []
  skip good.length
  let stop ← here
  match ← peek with
  | none => refuse .nameEnd stop stop
  | some c =>
    if c ≠ '>' then refuse .nameChar stop (stop + 1)
    skip 1
    if name = [] then refuse .nameEmpty start start
    let span : Span := ⟨start, stop⟩
    match (← get).names.lookup name with
    | some earlier => throw ⟨.nameTwice, [span, earlier]⟩
    | none => modify fun c => { c with names := (name, span) :: c.names }

/-- What the start of a group says. -/
inductive Opening where
  /-- Flags for the rest of the group around it. -/
  | setting (f : Flags)
  /-- A group with flags of its own. -/
  | group (f : Flags)

/-- Reads the start of a group. -/
def groupOpening : Read Opening := do
  let start ← here
  let _ ← step
  let flags := (← get).flags
  if (← skipText? "?=") || (← skipText? "?!") || (← skipText? "?<=") || (← skipText? "?<!") then
    refuse .lookAround start (← here)
  let inner ← here
  if (← skipText? "?P<") || (← skipText? "?<") then
    groupName
    return .group flags
  else if ← skipText? "?" then
    if (← peek) = none then refuse .groupOpen start (start + 1)
    let (flags, seen) ← flagLetters ((← get).rest.length + 1) [] flags
    let closes ← isNext ')'
    skip 1
    if !closes then return .group flags
    else if seen = [] then refuse .nothingToRepeat inner inner
    else return .setting flags
  else return .group flags

/-! ## Patterns -/

/-- A part that is not made of others. -/
def single : Read Pattern := do
  let start ← here
  let flags := (← get).flags
  let literal (c : Char) : Pattern :=
    .one (if flags.anyCase then .anyCase (Class.one c) else Class.one c)
  match ← peek with
  | some '\\' =>
    match ← escaped with
    | .char c => return literal c
    | .set s => return .one s
    | .place b => return .place b
  | some '.' =>
    skip 1
    if !flags.unicode then objectTo .octets start (← here)
    let breaks : Class :=
      if flags.crlf then .union (Class.one '\n') (Class.one '\r') else Class.one '\n'
    return .one (if flags.dotAll then Class.all else .not breaks)
  | some '^' =>
    skip 1
    return .place (if flags.lines then .lineStart flags.crlf else .textStart)
  | some '$' =>
    skip 1
    return .place (if flags.lines then .lineEnd flags.crlf else .textEnd)
  | some c =>
    skip 1
    return literal c
  | none => return .empty

mutual

/-- Reads alternatives up to a parenthesis or the end. -/
def alternatives : Nat → Read Pattern
  | 0 => return .empty
  | fuel + 1 => do
    let first ← parts fuel []
    if ← isNext '|' then
      skip 1
      return .either first (← alternatives fuel)
    else return first

/-- Reads the parts of an alternative. Flags among them are parts without a pattern. -/
def parts : Nat → List (Option Pattern) → Read Pattern
  | 0, _ => return .empty
  | fuel + 1, done => do
    skipSpace
    match ← peek with
    | none | some '|' | some ')' => return sequence (done.reverse.filterMap id)
    | some '(' =>
      let p ← group fuel
      parts fuel (p :: done)
    | some '[' =>
      let s ← bracketed fuel
      parts fuel (some (.one s) :: done)
    | some '\x7b' =>
      let (p, before) ← takeLast done
      let p ← counted p
      parts fuel (some p :: before)
    | some c =>
      if c = '?' || c = '*' || c = '+' then
        let (p, before) ← takeLast done
        skip 1
        skipLazy
        let p : Pattern := .times p (if c = '+' then 1 else 0) (if c = '?' then some 1 else none)
        parts fuel (some p :: before)
      else
        let p ← single
        parts fuel (some p :: done)

/-- Reads a group; flags for what follows give no pattern. -/
def group : Nat → Read (Option Pattern)
  | 0 => return none
  | fuel + 1 => do
    let start ← here
    let outer := (← get).flags
    match ← groupOpening with
    | .setting f =>
      modify fun c => { c with flags := f }
      return none
    | .group f =>
      modify fun c => { c with flags := f }
      let p ← alternatives fuel
      if (← peek) = none then refuse .groupOpen start (start + 1)
      modify fun c => { c with flags := outer }
      skip 1
      return some p

end

/-- Reads a whole pattern. -/
def whole (fuel : Nat) : Read Pattern := do
  let p ← alternatives fuel
  if (← peek) ≠ none then refuse .groupUnopened (← here) ((← here) + 1)
  match (← get).late with
  | some fault => throw fault
  | none => return p

/-- The pattern that a text describes. -/
def ofText (t : Text) : Except Fault Pattern :=
  ((whole (3 * t.length + 3)).run ⟨0, t, .start, [], none⟩).map Prod.fst

end Marginalia.Pattern
