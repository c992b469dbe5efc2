import Marginalia.Text.Basic
import Marginalia.Text.CaseTable

/-!
# Upper and lower case

The upper and the lower case of texts in all scripts. A letter may have several characters in the
other case. A sigma at the end of a word has a lower case of its own.
-/

namespace Marginalia

/-- The number that ranges of shifted numbers give for `n`. -/
def shifted? (table : List (Nat × Nat × Nat × Nat)) (n : Nat) : Option Nat :=
  (table.find? fun (first, last, stride, _) =>
    first ≤ n && n ≤ last && (n - first) % stride == 0).map fun (first, _, _, image) =>
      n - first + image

/-- The upper case of a character. -/
def upperOf (c : Char) : Text :=
  if c.toNat < 0x80 then [c.toUpper]
  else match upperSequences.find? (·.1 == c.toNat) with
    | some (_, numbers) => numbers.map Char.ofNat
    | none => [((shifted? upperShifts c.toNat).map Char.ofNat).getD c]

/-- The lower case of a character on its own. -/
def lowerOf (c : Char) : Text :=
  if c.toNat < 0x80 then [c.toLower]
  else if c.toNat = 0x130 then ['i', Char.ofNat 0x307]
  else [((shifted? lowerShifts c.toNat).map Char.ofNat).getD c]

/-- Whether a character has an upper or a lower case. -/
def isCased (c : Char) : Bool := upperOf c ≠ [c] || lowerOf c ≠ [c]

/-- Whether a character within a word does not matter for its case. -/
def isCaseIgnorable (c : Char) : Bool :=
  let n := c.toNat
  "'.:^\x60".toList.contains c || n == 0xA8 || n == 0xAD || n == 0xAF || n == 0xB4 || n == 0xB7 ||
    n == 0xB8 || (0x2B0 ≤ n && n ≤ 0x36F) || n == 0x2018 || n == 0x2019 || n == 0x2024 ||
    n == 0x2027 || (0x200B ≤ n && n ≤ 0x200F)

/-- Whether the next character that matters has a case. -/
def casedNext (t : Text) : Bool := ((t.dropWhile isCaseIgnorable).head?.map isCased).getD false

namespace Text

/-- The upper case of a text. -/
def upper (t : Text) : Text := t.flatMap upperOf

/-- The lower case of a text, of which `before` was passed already, its last character first. -/
def lowerFrom (before : Text) : Text → Text
  | [] => []
  | c :: t =>
    (if c.toNat = 0x3A3 then
      [Char.ofNat (if casedNext before && !casedNext t then 0x3C2 else 0x3C3)]
    else lowerOf c) ++ lowerFrom (c :: before) t

/-- The lower case of a text. -/
def lower (t : Text) : Text := lowerFrom [] t

/-- The form of a text that is the same for all its cases. -/
def fold (t : Text) : Text := t.flatMap fun c => (lowerOf c).flatMap upperOf

end Text

end Marginalia
