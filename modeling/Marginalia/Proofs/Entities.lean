import Marginalia.Proofs.Escape

/-!
# Entities

Running text and quoted attributes are escaped by two functions, which differ in the double quote.
One reader undoes both (`decode_escape`, `decode_quote`), and neither writes a bracket of a tag
(`brackets_escape`, `brackets_quote`) or, inside quotes, a double quote (`not_mem_quote`).
-/

namespace Marginalia.Markup

/-- A text with its entities, the double quote among them, replaced by the characters they stand
for. -/
def decode : Text → Text
  | '&' :: 'a' :: 'm' :: 'p' :: ';' :: t => '&' :: decode t
  | '&' :: 'l' :: 't' :: ';' :: t => '<' :: decode t
  | '&' :: 'g' :: 't' :: ';' :: t => '>' :: decode t
  | '&' :: 'q' :: 'u' :: 'o' :: 't' :: ';' :: t => '"' :: decode t
  | c :: t => c :: decode t
  | [] => []

/-- The brackets of tags in a text, in their order. -/
def brackets (t : Text) : Text := t.filter fun c => c = '<' || c = '>'

/-! ## Reading entities -/

theorem decode_cons {c : Char} (h : c ≠ '&') (t : Text) : decode (c :: t) = c :: decode t := by
  rw [decode]
  · intro _ hc
    exact absurd hc h
  · intro _ hc
    exact absurd hc h
  · intro _ hc
    exact absurd hc h
  · intro _ hc
    exact absurd hc h

theorem decode_escapeChar_append (c : Char) (t : Text) :
    decode (escapeChar c ++ t) = c :: decode t := by
  rcases escapeChar_cases c with (rfl | rfl | rfl) | ⟨hc, h, -⟩
  · rfl
  · rfl
  · rfl
  · rw [hc, List.singleton_append, decode_cons h]

theorem quoteChar_of_ne {c : Char} (h : c ≠ '"') : quoteChar c = escapeChar c := by
  unfold quoteChar
  split
  · exact absurd rfl h
  · rfl

theorem decode_quoteChar_append (c : Char) (t : Text) :
    decode (quoteChar c ++ t) = c :: decode t := by
  by_cases h : c = '"'
  · subst h
    rfl
  · rw [quoteChar_of_ne h, decode_escapeChar_append]

/-- What is read back character by character is read back. -/
theorem decode_flatMap {form : Char → Text}
    (h : ∀ c t, decode (form c ++ t) = c :: decode t) (t : Text) : decode (t.flatMap form) = t := by
  induction t with
  | nil => rfl
  | cons c t ih => rw [List.flatMap_cons, h, ih]

/-- Running text can be read back. -/
theorem decode_escape (t : Text) : decode (escape t) = t :=
  decode_flatMap decode_escapeChar_append t

/-- The value of an attribute can be read back. -/
theorem decode_quote (t : Text) : decode (quote t) = t := decode_flatMap decode_quoteChar_append t

/-! ## Brackets and quotes -/

/-- Neither brackets nor double quotes come from the value of an attribute. -/
theorem not_mem_quote {b : Char} (hb : b = '<' ∨ b = '>' ∨ b = '"') (t : Text) : b ∉ quote t := by
  intro h
  rw [quote, List.mem_flatMap] at h
  obtain ⟨c, -, hc⟩ := h
  by_cases hquote : c = '"'
  · subst hquote
    rcases hb with rfl | rfl | rfl <;> exact absurd hc (by decide)
  · rw [quoteChar_of_ne hquote] at hc
    rcases escapeChar_cases c with (rfl | rfl | rfl) | ⟨he, -, h₂, h₃⟩
    · rcases hb with rfl | rfl | rfl <;> exact absurd hc (by decide)
    · rcases hb with rfl | rfl | rfl <;> exact absurd hc (by decide)
    · rcases hb with rfl | rfl | rfl <;> exact absurd hc (by decide)
    · rw [he, List.mem_singleton] at hc
      subst hc
      rcases hb with rfl | rfl | rfl
      · exact h₂ rfl
      · exact h₃ rfl
      · exact hquote rfl

@[simp] theorem brackets_append (s t : Text) : brackets (s ++ t) = brackets s ++ brackets t :=
  List.filter_append s t

theorem brackets_eq_nil {t : Text} (hopen : '<' ∉ t) (hclose : '>' ∉ t) : brackets t = [] := by
  rw [brackets, List.filter_eq_nil_iff]
  intro c hc hbracket
  rw [Bool.or_eq_true, decide_eq_true_iff, decide_eq_true_iff] at hbracket
  rcases hbracket with rfl | rfl
  · exact hopen hc
  · exact hclose hc

@[simp] theorem brackets_escape (t : Text) : brackets (escape t) = [] :=
  brackets_eq_nil (not_mem_escape (Or.inl rfl) t) (not_mem_escape (Or.inr rfl) t)

@[simp] theorem brackets_quote (t : Text) : brackets (quote t) = [] :=
  brackets_eq_nil (not_mem_quote (Or.inl rfl) t) (not_mem_quote (Or.inr (Or.inl rfl)) t)

end Marginalia.Markup
