/-!
# Texts

A text is the list of its characters. This module holds the few scans that the rest of the
library is built from: the blank characters, trimming, lines, and the first place at which a
pattern stands. Each scan hands back every part of its input, so that it can be put together again.
-/

namespace Marginalia

/-- A text is the list of its characters. -/
abbrev Text := List Char

/-- The characters with the Unicode property `White_Space`. -/
def isBlank (c : Char) : Bool :=
  let n := c.toNat
  (9 ≤ n && n ≤ 13) || n == 0x20 || n == 0x85 || n == 0xA0 || n == 0x1680 ||
    (0x2000 ≤ n && n ≤ 0x200A) || n == 0x2028 || n == 0x2029 || n == 0x202F ||
    n == 0x205F || n == 0x3000

namespace Text

/-- A text of blank characters only. -/
def allBlank (t : Text) : Bool := t.all isBlank

/-- `t` without the longest end on which `p` holds throughout. -/
def dropEndWhile (p : Char → Bool) (t : Text) : Text :=
  (t.reverse.dropWhile p).reverse

/-- `t` without the blanks at both ends. -/
def trim (t : Text) : Text := dropEndWhile isBlank (t.dropWhile isBlank)

/-- `t` without `c`, if `t` starts with it. -/
def dropFirst (c : Char) : Text → Text
  | [] => []
  | d :: t => if d = c then t else d :: t

/-- `t` without `c`, if `t` ends with it. -/
def dropFinal (c : Char) (t : Text) : Text := (dropFirst c t.reverse).reverse

/-- What follows `p` in `t`, if `t` starts with `p`. -/
def after? : Text → Text → Option Text
  | [], t => some t
  | _ :: _, [] => none
  | a :: p, b :: t => if a = b then after? p t else none

theorem after?_eq_some_iff {p t r : Text} : after? p t = some r ↔ t = p ++ r := by
  induction p generalizing t with
  | nil => simp [after?]
  | cons a p ih =>
    cases t with
    | nil => simp [after?]
    | cons b t =>
      by_cases h : a = b
      · simp [after?, h, ih]
      · have : b ≠ a := fun e => h e.symm
        simp [after?, h, this]

theorem length_after? {p t r : Text} (hp : p ≠ []) (h : after? p t = some r) :
    r.length < t.length := by
  have := List.length_pos_iff.2 hp
  rw [after?_eq_some_iff.1 h, List.length_append]
  omega

/-- The text before and the text after the first place at which `pattern` stands in `t`. -/
def breakOn? (pattern : Text) : Text → Option (Text × Text)
  | [] => (after? pattern []).map ([], ·)
  | c :: t =>
    match after? pattern (c :: t) with
    | some after => some ([], after)
    | none => (breakOn? pattern t).map fun parts => (c :: parts.1, parts.2)

/-- The parts around a pattern make up the text. -/
theorem eq_of_breakOn? {pattern t before after : Text}
    (h : breakOn? pattern t = some (before, after)) : t = before ++ pattern ++ after := by
  induction t generalizing before after with
  | nil =>
    simp only [breakOn?, Option.map_eq_some_iff, Prod.mk.injEq] at h
    obtain ⟨r, hr, rfl, rfl⟩ := h
    simpa using after?_eq_some_iff.1 hr
  | cons c t ih =>
    unfold breakOn? at h
    split at h
    · next r hr =>
      simp only [Option.some.injEq, Prod.mk.injEq] at h
      obtain ⟨rfl, rfl⟩ := h
      simpa using after?_eq_some_iff.1 hr
    · simp only [Option.map_eq_some_iff, Prod.mk.injEq] at h
      obtain ⟨⟨b, a⟩, hba, rfl, rfl⟩ := h
      simp [ih hba]

/-- Whether `pattern` stands somewhere in `t`. -/
def occurs (pattern t : Text) : Bool := (breakOn? pattern t).isSome

/-- The lines of `t`. A final line feed ends the last line and starts no other. -/
def lines (t : Text) : List Text :=
  if t = [] then [] else (dropFinal '\n' t).splitOn '\n'

/-- The lines of `t`. One carriage return before a line feed belongs to it. -/
def printedLines (t : Text) : List Text :=
  let ls := lines t
  if t.getLast? = some '\n' then ls.map (dropFinal '\r')
  else ls.dropLast.map (dropFinal '\r') ++ ls.drop (ls.length - 1)

/-- The number of octets of `t` in UTF-8. -/
def octets (t : Text) : Nat := t.foldr (fun c n => c.utf8Size + n) 0

/-- Texts in the order of their characters, which is also the order of their octets. -/
def compare : Text → Text → Ordering
  | [], [] => .eq
  | [], _ :: _ => .lt
  | _ :: _, [] => .gt
  | a :: s, b :: t => (Ord.compare a.toNat b.toNat).then (compare s t)

/-- The decimal digits of `n`. -/
def ofNat (n : Nat) : Text := Nat.toDigits 10 n

/-- `t` followed by blanks up to `width` characters. -/
def padEnd (width : Nat) (t : Text) : Text := t ++ List.replicate (width - t.length) ' '

/-- The lines `ts` one under another. -/
def unlines (ts : List Text) : Text := ts.flatMap (· ++ ['\n'])

end Text

/-! ## Texts in markup

Three characters are escaped in running text, and the double quote too inside a quoted attribute.
-/

namespace Markup

/-- The form of a character in running text. -/
def escapeChar : Char → Text
  | '&' => "&amp;".toList
  | '<' => "&lt;".toList
  | '>' => "&gt;".toList
  | c => [c]

/-- `t` as running text of a page. -/
def escape (t : Text) : Text := t.flatMap escapeChar

/-- The form of a character between double quotes. -/
def quoteChar : Char → Text
  | '"' => "&quot;".toList
  | c => escapeChar c

/-- `t` as the value of an attribute in double quotes. -/
def quote (t : Text) : Text := t.flatMap quoteChar

end Markup

end Marginalia
