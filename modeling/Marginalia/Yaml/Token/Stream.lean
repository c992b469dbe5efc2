import Marginalia.Yaml.Token.Name

/-!
# The stream of tokens

Tokens are found one after another. A scalar in front of a colon is a key without a sign of its
own; that it is one is known only at the colon, so the place where a key token would go is
remembered until it can no longer be needed. Such a place may hold back tokens already found: if a
fault comes up in the meantime, they are not part of the stream.
-/

namespace Marginalia.Yaml

/-- Where a key may turn out to have begun. -/
structure KeyPlace where
  /-- The number of the token that the key would begin with. -/
  number : Nat
  mark : Mark
  /-- Whether only a key can stand there. -/
  required : Bool

/-- The reader of a stream between two tokens. -/
structure Lexer where
  cursor : Cursor
  tokens : Array Placed
  indent : Int
  indents : List Int
  /-- The possible key of each open bracket, innermost first; the last is for no bracket. -/
  keys : List (Option KeyPlace)
  /-- Whether a key may begin here. -/
  keyAllowed : Bool
  ended : Bool

namespace Lexer

/-- The reader at the front of a text. -/
def start (text : Text) : Lexer :=
  ⟨⟨Mark.start, text⟩, #[⟨.streamStart, Mark.start, Mark.start⟩], -1, [], [none], true, false⟩

/-- Whether a bracket is open. -/
def inFlow (l : Lexer) : Bool := l.keys.length > 1

/-- The reader after one more token. -/
def emit (l : Lexer) (token : Token) (front back : Mark) : Lexer :=
  { l with tokens := l.tokens.push ⟨token, front, back⟩ }

/-- The reader after a token was put in front of the token with the given number. -/
def insertAt (l : Lexer) (number : Nat) (p : Placed) : Lexer :=
  { l with tokens := (l.tokens.extract 0 number).push p ++ l.tokens.extract number l.tokens.size }

/-- No key was found where only a key can stand. -/
def missingColon {α : Type} (l : Lexer) (k : KeyPlace) : Except SyntaxError α :=
  l.cursor.fail "could not find expected ':'" "while scanning a simple key" k.mark

/-- Forgets the innermost possible key. -/
def dropKey (l : Lexer) : Except SyntaxError Lexer :=
  match l.keys with
  | some k :: outer => if k.required then l.missingColon k else .ok { l with keys := none :: outer }
  | _ => .ok l

/-- Remembers that a key may begin at the cursor. -/
def saveKey (l : Lexer) : Except SyntaxError Lexer :=
  if l.keyAllowed then do
    let required := !l.inFlow && l.indent = (l.cursor.mark.column : Int)
    let l ← l.dropKey
    return { l with keys := some ⟨l.tokens.size, l.cursor.mark, required⟩ :: l.keys.drop 1 }
  else .ok l

/-- Whether a possible key has become impossible: it has to be on one line and short. -/
def isStale (l : Lexer) (k : KeyPlace) : Bool :=
  k.mark.line < l.cursor.mark.line || k.mark.index + 1024 < l.cursor.mark.index

/-- Forgets the keys that have become impossible. -/
def dropStale (l : Lexer) : Except SyntaxError Lexer := do
  -- Of several required keys the outermost is reported.
  let keys ← l.keys.reverse.mapM fun key =>
    match key with
    | none => .ok none
    | some k =>
      if l.isStale k then (if k.required then l.missingColon k else .ok none) else .ok (some k)
  return { l with keys := keys.reverse }

/-- Closes the blocks that are indented further than `column`. -/
def unroll (l : Lexer) (column : Int) : Lexer :=
  if l.inFlow then l
  else
    let closing := (l.indent :: l.indents).takeWhile (· > column)
    let left := (l.indent :: l.indents).dropWhile (· > column)
    let l := closing.foldl (fun l _ => l.emit .blockEnd l.cursor.mark l.cursor.mark) l
    match left with
    | [] => l
    | indent :: outer => { l with indent := indent, indents := outer }

/-- Opens a block at `column`, if it is indented further than the current one. Its token goes in
front of the token with the given number, or to the end. -/
def roll (l : Lexer) (column : Nat) (number : Option Nat) (token : Token) (mark : Mark) : Lexer :=
  if l.inFlow || l.indent ≥ (column : Int) then l
  else
    let l := { l with indents := l.indent :: l.indents, indent := (column : Int) }
    match number with
    | none => l.emit token mark mark
    | some n => l.insertAt n ⟨token, mark, mark⟩

/-- Reads an indicator of `width` characters. -/
def indicator (l : Lexer) (token : Token) (width : Nat) : Lexer :=
  let after := l.cursor.skipMany width
  { l.emit token l.cursor.mark after.mark with cursor := after }

/-- The cursor at the next token, and whether a line ended before it outside of brackets. A mark of
the order of octets may start a line. -/
def skipBlanks (flow : Bool) : Nat → Cursor → Bool → Cursor × Bool
  | 0, c, allowed => (c, allowed)
  | fuel + 1, c, allowed =>
    let c := if c.mark.column = 0 && c.peek? = some '\uFEFF' then c.skip else c
    let c := c.skipWhile fun d => d = ' ' || ((flow || !allowed) && d = '\t')
    let c := if c.peek? = some '#' then c.skipWhile (!isBreak ·) else c
    if (c.peek?.map isBreak).getD false then
      skipBlanks flow fuel c.skipBreak (if flow then allowed else true)
    else (c, allowed)

/-! ## Tokens by their first character -/

/-- Ends the stream. -/
def finish (l : Lexer) : Except SyntaxError Lexer := do
  let m := l.cursor.mark
  let m := if m.column = 0 then m else { m with line := m.line + 1, column := 0 }
  let l := { l with cursor := { l.cursor with mark := m } }
  let l ← (l.unroll (-1)).dropKey
  return { l.emit .streamEnd m m with keyAllowed := false, ended := true }

/-- Reads a directive. -/
def directive (l : Lexer) : Except SyntaxError Lexer := do
  let l ← (l.unroll (-1)).dropKey
  let (p, after) ← Name.directive l.cursor
  return { l with tokens := l.tokens.push p, cursor := after, keyAllowed := false }

/-- Reads a mark between documents. -/
def documentMark (l : Lexer) (token : Token) : Except SyntaxError Lexer := do
  let l ← (l.unroll (-1)).dropKey
  return { l.indicator token 3 with keyAllowed := false }

/-- Reads an opening bracket. -/
def openFlow (l : Lexer) (token : Token) : Except SyntaxError Lexer := do
  let l ← l.saveKey
  return { l.indicator token 1 with keys := none :: l.keys, keyAllowed := true }

/-- Reads a closing bracket. -/
def closeFlow (l : Lexer) (token : Token) : Except SyntaxError Lexer := do
  let l ← l.dropKey
  let keys := if l.inFlow then l.keys.drop 1 else l.keys
  return { l.indicator token 1 with keys := keys, keyAllowed := false }

/-- Reads the comma between entries. -/
def flowEntry (l : Lexer) : Except SyntaxError Lexer := do
  let l ← l.dropKey
  return { l.indicator .flowEntry 1 with keyAllowed := true }

/-- What may not stand at the cursor. -/
def misplaced {α : Type} (l : Lexer) (problem : String) : Except SyntaxError α :=
  .error (.unexpected problem l.cursor.mark none)

/-- Reads the hyphen of a block entry. -/
def blockEntry (l : Lexer) : Except SyntaxError Lexer := do
  if !l.inFlow && !l.keyAllowed then
    l.misplaced "block sequence entries are not allowed in this context"
  else
    let l := l.roll l.cursor.mark.column none .blockSequenceStart l.cursor.mark
    let l ← l.dropKey
    return { l.indicator .blockEntry 1 with keyAllowed := true }

/-- Reads the sign of a key. -/
def keySign (l : Lexer) : Except SyntaxError Lexer := do
  if !l.inFlow && !l.keyAllowed then
    l.misplaced "mapping keys are not allowed in this context"
  else
    let l := l.roll l.cursor.mark.column none .blockMappingStart l.cursor.mark
    let l ← l.dropKey
    return { l.indicator .key 1 with keyAllowed := !l.inFlow }

/-- Reads the colon between key and value. -/
def valueSign (l : Lexer) : Except SyntaxError Lexer :=
  match l.keys with
  | some k :: outer =>
    let l := l.insertAt k.number ⟨.key, k.mark, k.mark⟩
    let l := l.roll k.mark.column (some k.number) .blockMappingStart k.mark
    .ok { l.indicator .value 1 with keys := none :: outer, keyAllowed := false }
  | _ =>
    if !l.inFlow && !l.keyAllowed then
      l.misplaced "mapping values are not allowed in this context"
    else
      let l := l.roll l.cursor.mark.column none .blockMappingStart l.cursor.mark
      .ok { l.indicator .value 1 with keyAllowed := !l.inFlow }

/-- Reads an alias or an anchor. -/
def name (l : Lexer) (token : Text → Token) (activity : String) : Except SyntaxError Lexer := do
  let l ← l.saveKey
  let (text, after) ← Name.anchor activity l.cursor
  return { l.emit (token text) l.cursor.mark after.mark with cursor := after, keyAllowed := false }

/-- Reads a tag. -/
def tag (l : Lexer) : Except SyntaxError Lexer := do
  let l ← l.saveKey
  let (token, after) ← Name.tag l.inFlow l.cursor
  return { l.emit token l.cursor.mark after.mark with cursor := after, keyAllowed := false }

/-- Reads a literal or folded scalar. -/
def blockScalar (l : Lexer) (style : ScalarStyle) : Except SyntaxError Lexer := do
  let l ← l.dropKey
  let r ← Scalar.block (style = .literal) l.indent l.cursor
  return { l.emit (.scalar style r.text) l.cursor.mark r.back with
    cursor := r.after, keyAllowed := true }

/-- Reads a scalar in quotes. -/
def quotedScalar (l : Lexer) (style : ScalarStyle) : Except SyntaxError Lexer := do
  let l ← l.saveKey
  let r ← Scalar.quoted (style = .singleQuoted) l.cursor
  return { l.emit (.scalar style r.text) l.cursor.mark r.back with
    cursor := r.after, keyAllowed := false }

/-- Reads a plain scalar. A key may begin after it if a line has ended. -/
def plainScalar (l : Lexer) : Except SyntaxError Lexer := do
  let l ← l.saveKey
  let r ← Scalar.plain l.inFlow (l.indent + 1) l.cursor
  return { l.emit (.scalar .plain r.text) l.cursor.mark r.back with
    cursor := r.after, keyAllowed := r.broken }

/-- Whether a plain scalar may begin with `c` in front of `more`. -/
def startsPlain (flow : Bool) (c : Char) (more : Text) : Bool :=
  !(isSpace c || isBreak c || "-?:,[]\x7b\x7d#&*!|>'\"%@\x60".toList.contains c) ||
    (c = '-' && !(more.head?.map isSpace).getD false) ||
    (!flow && (c = '?' || c = ':') && !atGap more)

/-- Reads the next token. -/
def next (l : Lexer) : Except SyntaxError Lexer := do
  let (c, allowed) := skipBlanks l.inFlow (l.cursor.rest.length + 1) l.cursor l.keyAllowed
  let l ← dropStale { l with cursor := c, keyAllowed := allowed }
  let l := l.unroll c.mark.column
  let flow := l.inFlow
  match c.rest with
  | [] => l.finish
  | d :: more =>
    if c.mark.column = 0 && d = '%' then l.directive
    else if c.atDocumentMark then l.documentMark (if d = '-' then .documentStart else .documentEnd)
    else if d = '[' then l.openFlow .flowSequenceStart
    else if d = '\x7b' then l.openFlow .flowMappingStart
    else if d = ']' then l.closeFlow .flowSequenceEnd
    else if d = '\x7d' then l.closeFlow .flowMappingEnd
    else if d = ',' then l.flowEntry
    else if d = '-' && atGap more then l.blockEntry
    else if d = '?' && (flow || atGap more) then l.keySign
    else if d = ':' && (flow || atGap more) then l.valueSign
    else if d = '*' then l.name .alias "while scanning an alias"
    else if d = '&' then l.name .anchor "while scanning an anchor"
    else if d = '!' then l.tag
    else if d = '|' && !flow then l.blockScalar .literal
    else if d = '>' && !flow then l.blockScalar .folded
    else if d = '\'' then l.quotedScalar .singleQuoted
    else if d = '"' then l.quotedScalar .doubleQuoted
    else if startsPlain flow d more then l.plainScalar
    else
      c.fail "found character that cannot start any token"
        "while scanning for the next token" c.mark

/-- The tokens that no possible key holds back. -/
def settled (l : Lexer) : List Placed :=
  let limit := l.keys.foldl (fun n key => match key with
    | some k => min n k.number
    | none => n) l.tokens.size
  l.tokens.toList.take limit

end Lexer

/-- The tokens of a text, up to its end or the first fault. -/
structure TokenStream where
  tokens : List Placed
  fault : Option SyntaxError

/-- Reads tokens up to the end or the first fault. -/
def Lexer.run : Nat → Lexer → TokenStream
  | 0, l => ⟨l.settled, none⟩
  | fuel + 1, l =>
    match l.dropStale with
    | .error e => ⟨l.settled, some e⟩
    | .ok l =>
      if l.ended then ⟨l.tokens.toList, none⟩
      else
        match l.next with
        | .error e => ⟨l.settled, some e⟩
        | .ok l => l.run fuel

/-- The place in octets of the first character that no document may contain. -/
def firstUnprintable? (offset : Nat) : Text → Option Nat
  | [] => none
  | c :: t => if isAllowed c then firstUnprintable? (offset + c.utf8Size) t else some offset

/-- The tokens of a text. A mark of the order of octets at its start is not part of it. -/
def TokenStream.ofText (text : Text) : TokenStream :=
  match firstUnprintable? 0 text with
  | some offset => ⟨[], some (.unprintable offset)⟩
  | none => (Lexer.start (Text.dropFirst '\uFEFF' text)).run (text.length + 2)

end Marginalia.Yaml
