import Marginalia.Pattern.Table
import Marginalia.Text.Case

/-!
# Classes of characters

A class is described by ranges and by the usual kinds of characters, put together by the
operations on sets. `Class.has` says which characters belong to it.
-/

namespace Marginalia.Pattern

/-- Whether a number lies in one of some ranges. -/
def within (ranges : List (Nat × Nat)) (n : Nat) : Bool :=
  ranges.any fun (low, high) => low ≤ n && n ≤ high

/-- Whether a character belongs to words. -/
def isWord (c : Char) : Bool :=
  if c.toNat < 0x80 then c.isAlphanum || c = '_' else within wordRanges c.toNat

/-- Whether a character is a decimal digit of some script. -/
def isDecimal (c : Char) : Bool :=
  if c.toNat < 0x80 then c.isDigit else within digitRanges c.toNat

/-- A kind of characters that has a name of its own. -/
inductive Kind where
  | digit
  | blank
  | word
  | letter
  | upper
  | lower
  | ascii
  deriving DecidableEq

/-- Whether a character is of a kind. -/
def Kind.has : Kind → Char → Bool
  | .digit, c => isDecimal c
  | .blank, c => isBlank c
  | .word, c => isWord c
  | .letter, c => isWord c && !isDecimal c && c ≠ '_'
  | .upper, c => lowerOf c ≠ [c]
  | .lower, c => upperOf c ≠ [c]
  | .ascii, c => c.toNat < 0x80

/-- A class of characters. -/
inductive Class where
  | none
  | range (low high : Char)
  | kind (k : Kind)
  /-- The characters that are in the class in one case or another. -/
  | anyCase (s : Class)
  | not (s : Class)
  | union (s t : Class)
  | inter (s t : Class)
  deriving DecidableEq

/-- The characters that are the same as one if the case does not matter. -/
def otherCases (c : Char) : Text :=
  let near := c :: lowerOf c ++ upperOf c
  let kin := near ++ near.flatMap fun d => lowerOf d ++ upperOf d
  kin.filter fun d => Text.fold [d] = Text.fold [c]

namespace Class

/-- Whether a character belongs to a class. -/
def has : Class → Char → Bool
  | .none, _ => false
  | .range low high, c => low ≤ c && c ≤ high
  | .kind k, c => k.has c
  | .anyCase s, c => (otherCases c).any s.has
  | .not s, c => !s.has c
  | .union s t, c => s.has c || t.has c
  | .inter s t, c => s.has c && t.has c

/-- The class of one character. -/
def one (c : Char) : Class := .range c c

/-- Every character. -/
def all : Class := .not .none

/-- The characters of the first class that are not in the second. -/
def minus (s t : Class) : Class := .inter s (.not t)

/-- The characters that are in one of two classes only. -/
def apart (s t : Class) : Class := .union (s.minus t) (t.minus s)

/-- The classes of ASCII characters that have a name between colons. -/
def ofName? (name : String) : Option Class :=
  let digit : Class := .range '0' '9'
  let upper : Class := .range 'A' 'Z'
  let lower : Class := .range 'a' 'z'
  let alpha : Class := .union upper lower
  let alnum : Class := .union digit alpha
  let graph : Class := .range '!' '~'
  match name with
  | "alnum" => some alnum
  | "alpha" => some alpha
  | "ascii" => some (.kind .ascii)
  | "blank" => some (.union (one ' ') (one '\t'))
  | "cntrl" => some (.union (.range '\x00' '\x1f') (one '\x7f'))
  | "digit" => some digit
  | "graph" => some graph
  | "lower" => some lower
  | "print" => some (.range ' ' '~')
  | "punct" => some (graph.minus alnum)
  | "space" => some (.union (.range '\t' '\r') (one ' '))
  | "upper" => some upper
  | "word" => some (.union alnum (one '_'))
  | "xdigit" => some (.union digit (.union (.range 'A' 'F') (.range 'a' 'f')))
  | _ => Option.none

/-- The classes that a property names. Case, blanks, dashes and underscores in its name do not
matter. -/
def ofProperty? (name : Text) : Option Class :=
  let plain := (name.map Char.toLower).filter fun c => !" _-".toList.contains c
  match String.ofList ((Text.after? ['i', 's'] plain).getD plain) with
  | "any" => some all
  | "ascii" => some (.kind .ascii)
  | "l" | "letter" | "alphabetic" | "alpha" => some (.kind .letter)
  | "lu" | "uppercase" | "uppercaseletter" | "upper" => some (.kind .upper)
  | "ll" | "lowercase" | "lowercaseletter" | "lower" => some (.kind .lower)
  | "nd" | "decimalnumber" | "digit" => some (.kind .digit)
  | "whitespace" | "space" | "wspace" => some (.kind .blank)
  | _ => Option.none

end Class

end Marginalia.Pattern
