import Marginalia.Text.Basic
import Marginalia.Text.InvisibleTable

/-!
# Texts in quotes

A text in a message stands in double quotes, with a backslash before quotes and backslashes.
Characters without a form of their own are written by their number.
-/

namespace Marginalia.Quoted

/-- Whether a character has no visible form of its own. -/
def isInvisible (c : Char) : Bool :=
  invisible.any fun (low, high) => low ≤ c.toNat && c.toNat ≤ high

/-- A character inside quotes. -/
def char : Char → Text
  | '"' => "\\\"".toList
  | '\\' => "\\\\".toList
  | '\t' => "\\t".toList
  | '\n' => "\\n".toList
  | '\r' => "\\r".toList
  | c =>
    if c.toNat = 0 then "\\0".toList
    else if isInvisible c then "\\u\x7b".toList ++ Nat.toDigits 16 c.toNat ++ "\x7d".toList
    else [c]

/-- A text in quotes. -/
def text (t : Text) : Text := '"' :: t.flatMap char ++ ['"']

end Marginalia.Quoted
