import Marginalia.Yaml.Token.Scalar
import Marginalia.Text.Utf8

/-!
# Names and directives

Reading the names of nodes (anchors and aliases), the names of kinds (tags) and the directives in
front of a document.
-/

namespace Marginalia.Yaml.Name

/-! ## Anchors and aliases -/

/-- Whether a name may end in front of `t`. -/
def endsName : Text → Bool
  | [] => true
  | c :: _ => isSpace c || isBreak c || "?:,]\x7d%@\x60".toList.contains c

/-- Reads the name after `&` or `*`. -/
def anchor (activity : String) (c : Cursor) : Except SyntaxError (Text × Cursor) :=
  let (name, after) := c.skip.takeWhile isWord
  if name = [] || !endsName after.rest then
    after.fail "did not find expected alphabetic or numeric character" activity c.mark
  else .ok (name, after)

/-! ## Tags -/

/-- Characters of a tag; a verbatim tag may have brackets and commas too. -/
def isTagChar (verbatim : Bool) (c : Char) : Bool :=
  isWord c || ";/?:@&=+$.%!~*'()".toList.contains c || (verbatim && (c = ',' || c = '[' || c = ']'))

/-- Reads one octet written as a percent sign and two digits. -/
def octet (activity : String) (since : Mark) (c : Cursor) : Except SyntaxError (Nat × Cursor) :=
  match c.rest with
  | '%' :: more =>
    match Scalar.hexNumber? 2 more with
    | some n => .ok (n, c.skipMany 3)
    | none => c.fail "did not find URI escaped octet" activity since
  | _ => c.fail "did not find URI escaped octet" activity since

/-- Reads the further octets of a character. -/
def octets (activity : String) (since : Mark) (soFar : Utf8.Octets) :
    Nat → Cursor → Except SyntaxError (Utf8.Octets × Cursor)
  | 0, c => .ok (soFar, c)
  | n + 1, c => do
    let (b, next) ← octet activity since c
    if b / 64 = 2 then octets activity since (soFar ++ [UInt8.ofNat b]) n next
    else c.fail "found an incorrect trailing UTF-8 octet" activity since

/-- Reads a character written as octets. -/
def escaped (activity : String) (since : Mark) (c : Cursor) :
    Except SyntaxError (Text × Cursor) := do
  let (b, next) ← octet activity since c
  let more := if b < 0x80 then some 0 else if b / 32 = 6 then some 1 else if b / 16 = 14 then some 2
    else if b / 8 = 30 then some 3 else none
  match more with
  | none => c.fail "found an incorrect leading UTF-8 octet" activity since
  | some n => do
    let (bytes, after) ← octets activity since [UInt8.ofNat b] n next
    return (Utf8.decodeLossy bytes, after)

/-- Reads the characters of a tag. -/
def tagChars (verbatim : Bool) (activity : String) (since : Mark) (text : Text) :
    Nat → Cursor → Except SyntaxError (Text × Cursor)
  | 0, c => .ok (text, c)
  | fuel + 1, c =>
    match c.rest with
    | '%' :: _ => do
      let (t, next) ← escaped activity since c
      tagChars verbatim activity since (text ++ t) fuel next
    | d :: _ =>
      if isTagChar verbatim d then tagChars verbatim activity since (text ++ [d]) fuel c.skip
      else .ok (text, c)
    | [] => .ok (text, c)

/-- Reads the tag that continues `lead`, which has to be there unless `lead` is more than a sign. -/
def uri (verbatim directive : Bool) (lead : Text) (since : Mark) (c : Cursor) :
    Except SyntaxError (Text × Cursor) := do
  let activity := if directive then "while parsing a %TAG directive" else "while parsing a tag"
  let (text, after) ← tagChars verbatim activity since (lead.drop 1) c.rest.length c
  if lead = [] && after.mark = c.mark then
    after.fail "did not find expected tag URI" activity since
  else return (text, after)

/-- Reads a tag handle: a sign, then perhaps a word and another sign. -/
def handle (directive : Bool) (since : Mark) (c : Cursor) : Except SyntaxError (Text × Cursor) :=
  let activity := if directive then "while scanning a tag directive" else "while scanning a tag"
  if c.peek? ≠ some '!' then c.fail "did not find expected '!'" activity since
  else
    let (word, after) := c.skip.takeWhile isWord
    if after.peek? = some '!' then .ok ('!' :: word ++ ['!'], after.skip)
    else if directive && word ≠ [] then
      after.fail "did not find expected '!'" "while parsing a tag directive" since
    else .ok ('!' :: word, after)

/-- Reads a tag. -/
def tag (flow : Bool) (c : Cursor) : Except SyntaxError (Token × Cursor) := do
  let start := c.mark
  let (token, after) ←
    match c.rest with
    | '!' :: '<' :: _ => do
      let (ending, after) ← uri true false [] start (c.skipMany 2)
      if after.peek? ≠ some '>' then
        after.fail "did not find the expected '>'" "while scanning a tag" start
      else pure (Token.tag [] ending, after.skip)
    | _ => do
      let (lead, after) ← handle false start c
      if lead.length > 1 && lead.getLast? = some '!' then do
        let (ending, after) ← uri false false [] start after
        pure (Token.tag lead ending, after)
      else do
        let (ending, after) ← uri false false lead start after
        pure (if ending = [] then Token.tag [] ['!'] else Token.tag ['!'] ending, after)
  if atGap after.rest || (flow && after.peek? = some ',') then return (token, after)
  else after.fail "did not find expected whitespace or line break" "while scanning a tag" start

/-! ## Directives -/

/-- Reads a part of a version. -/
def versionNumber (start : Mark) (c : Cursor) : Except SyntaxError (Nat × Cursor) :=
  let (digits, after) := c.takeWhile Char.isDigit
  if digits.length > 9 then
    (c.skipMany 9).fail "found extremely long version number"
      "while scanning a %YAML directive" start
  else if digits = [] then
    c.fail "did not find expected version number" "while scanning a %YAML directive" start
  else .ok (digits.foldl (fun n d => n * 10 + (d.toNat - '0'.toNat)) 0, after)

/-- Reads the version that a document is written in. -/
def version (start : Mark) (c : Cursor) : Except SyntaxError (Token × Cursor) := do
  let (major, c) ← versionNumber start (c.skipWhile isSpace)
  if c.peek? ≠ some '.' then
    c.fail "did not find expected digit or '.' character" "while scanning a %YAML directive" start
  else do
    let (minor, c) ← versionNumber start c.skip
    return (.version major minor, c)

/-- Reads what a tag handle stands for. -/
def tagDirective (start : Mark) (c : Cursor) : Except SyntaxError (Token × Cursor) := do
  let (lead, c) ← handle true start (c.skipWhile isSpace)
  if !(c.peek?.map isSpace).getD false then
    c.fail "did not find expected whitespace" "while scanning a %TAG directive" start
  else do
    let (meaning, c) ← uri true true [] start (c.skipWhile isSpace)
    if atGap c.rest then return (.tagDirective lead meaning, c)
    else
      c.fail "did not find expected whitespace or line break"
        "while scanning a %TAG directive" start

/-- Reads a directive to the end of its line. -/
def directive (c : Cursor) : Except SyntaxError (Placed × Cursor) := do
  let start := c.mark
  let activity := "while scanning a directive"
  let (name, c) := c.skip.takeWhile isWord
  if name = [] then c.fail "could not find expected directive name" activity start
  else if !atGap c.rest then
    c.fail "found unexpected non-alphabetical character" activity start
  else do
    let (token, c) ←
      if name = "YAML".toList then version start c
      else if name = "TAG".toList then tagDirective start c
      else c.fail "found unknown directive name" activity start
    let after ← c.skipLineEnd "did not find expected comment or line break" activity start
    return (⟨token, start, c.mark⟩, after)

end Marginalia.Yaml.Name
