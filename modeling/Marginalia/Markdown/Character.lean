import Marginalia.Text.Case
import Marginalia.Text.Utf8
import Marginalia.Markdown.EntityTable
import Marginalia.Markdown.Punctuation

/-!
# Characters of Markdown

Which characters count as blank and which as punctuation where emphasis is told from plain signs,
the escapes and named characters that may stand in running text, and the forms of text and
addresses in markup.
-/

namespace Marginalia.Markdown

/-! ## Kinds of characters -/

/-- What a character is to the signs of emphasis beside it. -/
inductive Kind where
  | blank
  | punctuation
  | other
  deriving DecidableEq

/-- The punctuation of ASCII. -/
def isAsciiPunctuation (c : Char) : Bool :=
  let n := c.toNat
  (0x21 ≤ n && n ≤ 0x2F) || (0x3A ≤ n && n ≤ 0x40) || (0x5B ≤ n && n ≤ 0x60) ||
    (0x7B ≤ n && n ≤ 0x7E)

/-- Whether a character is punctuation or a symbol. -/
def isPunctuation (c : Char) : Bool :=
  isAsciiPunctuation c || punctuationRanges.any fun (low, high) => low ≤ c.toNat && c.toNat ≤ high

/-- The kind of a character; both ends of a text count as blank. -/
def kindOf : Option Char → Kind
  | none => .blank
  | some c => if isBlank c then .blank else if isPunctuation c then .punctuation else .other

/-- Space or tab. -/
def isSpace (c : Char) : Bool := c = ' ' || c = '\t'

/-- Characters that end a line. -/
def isEol (c : Char) : Bool := c = '\n' || c = '\r'

/-- A space, a tab or the end of a line. -/
def isGap (c : Char) : Bool := isSpace c || isEol c

/-- The end of a line at the front of a text, and the rest; empty if there is none. -/
def eol : Text → Text × Text
  | '\r' :: '\n' :: t => (['\r', '\n'], t)
  | '\n' :: t => (['\n'], t)
  | '\r' :: t => (['\r'], t)
  | t => ([], t)

/-! ## Named and numbered characters -/

/-- The number that `t` spells in hexadecimal. -/
def hexValue (t : Text) : Nat :=
  t.foldl (fun n c =>
    n * 16 + (if c.isDigit then c.toNat - 48 else c.toLower.toNat - 87)) 0

/-- Whether `c` is a hexadecimal digit. -/
def isHexDigit (c : Char) : Bool := c.isDigit || ('a' ≤ c ∧ c ≤ 'f') || ('A' ≤ c ∧ c ≤ 'F')

/-- The characters listed in a word such as `2A+338`. -/
def tableChars (word : Text) : Text := (word.splitOn '+').map fun h => Char.ofNat (hexValue h)

/-- Finds a name among words that are names and numbers in turn. -/
def findEntity (name : Text) : List Text → Option Text
  | n :: numbers :: more => if n = name then some (tableChars numbers) else findEntity name more
  | _ => none

/-- The characters that a name stands for. -/
def entity? (name : Text) : Option Text :=
  entityTable.findSome? fun line => findEntity name (line.toList.splitOn ' ')

/-- The character with a number; numbers of controls and of no character give the replacement. -/
def numbered (n : Nat) : Char :=
  let control := n ≤ 8 || n == 11 || (14 ≤ n && n ≤ 31) || (127 ≤ n && n ≤ 159)
  if control || !n.isValidChar then Utf8.replacement else Char.ofNat n

/-- What a character reference stands for: its name, or its number in the base that its sign
tells. -/
def referenceValue (base : Char) (value : Text) : Text :=
  if base = '&' then (entity? value).getD []
  else if base = 'x' then [numbered (hexValue value)]
  else [numbered (value.foldl (fun n d => n * 10 + (d.toNat - 48)) 0)]

/-! ## Forms in markup -/

/-- The form of a character in markup. -/
def encodeChar : Char → Text
  | '&' => "&amp;".toList
  | '"' => "&quot;".toList
  | '<' => "&lt;".toList
  | '>' => "&gt;".toList
  | c => if c.toNat = 0 then [Utf8.replacement] else [c]

/-- `t` in markup. -/
def encode (t : Text) : Text := t.flatMap encodeChar

/-- Characters that stand for themselves in an address. -/
def isAddressChar (c : Char) : Bool :=
  c.isAlphanum || "!#$&'()*+,-./:;=?@_~".toList.contains c

/-- The percent form of an octet. -/
def percent (b : UInt8) : Text :=
  let hex (n : Nat) : Char := if n < 10 then Char.ofNat (48 + n) else Char.ofNat (55 + n)
  ['%', hex (b.toNat / 16), hex (b.toNat % 16)]

/-- An address with its other characters in percent form. What has that form already stays. -/
def percentEncode : Text → Text
  | [] => []
  | '%' :: a :: b :: t =>
    if a.isAlphanum && b.isAlphanum then '%' :: a :: b :: percentEncode t
    else percent 37 ++ percentEncode (a :: b :: t)
  | c :: t =>
    (if isAddressChar c then [c] else (String.utf8EncodeChar c).flatMap percent) ++ percentEncode t

/-- An address in markup. -/
def address (t : Text) : Text := encode (percentEncode t)

/-- Protocols that a link may have. -/
def linkProtocols : List String := ["http", "https", "irc", "ircs", "mailto", "xmpp"]

/-- Protocols that the source of an image may have. -/
def imageProtocols : List String := ["http", "https"]

/-- An address in markup; one with another protocol than those listed is left out. -/
def safeAddress (protocols : List String) (t : Text) : Text :=
  let url := address t
  let front := url.takeWhile fun c => c ≠ '?' && c ≠ '#' && c ≠ '/' && c ≠ ':'
  if url.drop front.length |>.head? |> (· = some ':') then
    if protocols.any fun p => p.toList = front.map Char.toLower then url else []
  else url

end Marginalia.Markdown
