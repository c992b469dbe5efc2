import Marginalia.Proofs.LineFeeds

/-!
# Escaped text

`Markup.escape` writes three characters as entities. What it writes holds no angle bracket
(`not_mem_escape`), can be read back (`unescape_escape`), is the text itself if that is plain
(`escape_eq_self`) and longer than the text otherwise (`length_lt_escape`). Line feeds at either end
may be dropped before or after escaping (`escape_dropWhile`, `escape_dropEndWhile`).
-/

namespace Marginalia.Markup

open Marginalia.Language (isLineFeed)
open Text (dropEndWhile)

/-- A text with nothing to escape. -/
def Plain (t : Text) : Prop := ∀ c ∈ t, c ≠ '&' ∧ c ≠ '<' ∧ c ≠ '>'

instance : DecidablePred Plain := fun t => List.decidableBAll _ t

/-- A text with its entities replaced by the characters they stand for. -/
def unescape : Text → Text
  | '&' :: 'a' :: 'm' :: 'p' :: ';' :: t => '&' :: unescape t
  | '&' :: 'l' :: 't' :: ';' :: t => '<' :: unescape t
  | '&' :: 'g' :: 't' :: ';' :: t => '>' :: unescape t
  | c :: t => c :: unescape t
  | [] => []

/-! ## Characters -/

theorem escapeChar_of_ne {c : Char} (h₁ : c ≠ '&') (h₂ : c ≠ '<') (h₃ : c ≠ '>') :
    escapeChar c = [c] := by
  unfold escapeChar
  split
  · exact absurd rfl h₁
  · exact absurd rfl h₂
  · exact absurd rfl h₃
  · rfl

/-- A character is one of the three that are escaped, or stands for itself. -/
theorem escapeChar_cases (c : Char) :
    (c = '&' ∨ c = '<' ∨ c = '>') ∨ escapeChar c = [c] ∧ c ≠ '&' ∧ c ≠ '<' ∧ c ≠ '>' := by
  by_cases h₁ : c = '&'
  · exact Or.inl (Or.inl h₁)
  by_cases h₂ : c = '<'
  · exact Or.inl (Or.inr (Or.inl h₂))
  by_cases h₃ : c = '>'
  · exact Or.inl (Or.inr (Or.inr h₃))
  exact Or.inr ⟨escapeChar_of_ne h₁ h₂ h₃, h₁, h₂, h₃⟩

/-- The last character of the form of `c` is a line feed only if `c` is one. -/
theorem escapeChar_concat (c : Char) :
    ∃ t d, escapeChar c = t ++ [d] ∧ (d = '\n' → c = '\n') := by
  rcases escapeChar_cases c with (rfl | rfl | rfl) | ⟨h, -⟩
  · exact ⟨"&amp".toList, ';', rfl, by decide⟩
  · exact ⟨"&lt".toList, ';', rfl, by decide⟩
  · exact ⟨"&gt".toList, ';', rfl, by decide⟩
  · exact ⟨[], c, h, id⟩

/-! ## Texts -/

@[simp] theorem escape_nil : escape [] = [] := rfl

@[simp] theorem escape_cons (c : Char) (t : Text) :
    escape (c :: t) = escapeChar c ++ escape t := rfl

@[simp] theorem escape_append (s t : Text) : escape (s ++ t) = escape s ++ escape t :=
  List.flatMap_append

/-- No bracket of a tag comes from the text. -/
theorem not_mem_escape {b : Char} (hb : b = '<' ∨ b = '>') (t : Text) : b ∉ escape t := by
  intro h
  rw [escape, List.mem_flatMap] at h
  obtain ⟨c, -, hc⟩ := h
  rcases escapeChar_cases c with (rfl | rfl | rfl) | ⟨he, -, h₂, h₃⟩
  · rcases hb with rfl | rfl <;> exact absurd hc (by decide)
  · rcases hb with rfl | rfl <;> exact absurd hc (by decide)
  · rcases hb with rfl | rfl <;> exact absurd hc (by decide)
  · rw [he, List.mem_singleton] at hc
    subst hc
    exact hb.elim h₂ h₃

theorem escape_eq_self {t : Text} (h : Plain t) : escape t = t := by
  induction t with
  | nil => rfl
  | cons c t ih =>
    obtain ⟨⟨h₁, h₂, h₃⟩, ht⟩ := List.forall_mem_cons.1 h
    rw [escape_cons, escapeChar_of_ne h₁ h₂ h₃, ih ht, List.singleton_append]

theorem length_escapeChar_pos (c : Char) : 0 < (escapeChar c).length := by
  obtain ⟨t, d, h, -⟩ := escapeChar_concat c
  rw [h, List.length_append, List.length_singleton]
  omega

theorem length_le_escape (t : Text) : t.length ≤ (escape t).length := by
  induction t with
  | nil => exact Nat.le_refl 0
  | cons c t ih =>
    have := length_escapeChar_pos c
    rw [escape_cons, List.length_append, List.length_cons]
    omega

/-- Something to escape makes the text longer. -/
theorem length_lt_escape {t : Text} (h : ¬ Plain t) : t.length < (escape t).length := by
  induction t with
  | nil => exact absurd (fun c hc => absurd hc List.not_mem_nil) h
  | cons c t ih =>
    rw [escape_cons, List.length_append, List.length_cons]
    rcases escapeChar_cases c with hc | ⟨hc, hne⟩
    · have hle := length_le_escape t
      have : 2 ≤ (escapeChar c).length := by rcases hc with rfl | rfl | rfl <;> decide
      omega
    · have ht : ¬ Plain t := fun ht => h (List.forall_mem_cons.2 ⟨hne, ht⟩)
      have := ih ht
      rw [hc, List.length_singleton]
      omega

theorem unescape_cons {c : Char} (h : c ≠ '&') (t : Text) :
    unescape (c :: t) = c :: unescape t := by
  rw [unescape]
  · intro _ hc
    exact absurd hc h
  · intro _ hc
    exact absurd hc h
  · intro _ hc
    exact absurd hc h

/-- Escaped text can be read back. -/
theorem unescape_escape (t : Text) : unescape (escape t) = t := by
  induction t with
  | nil => rfl
  | cons c t ih =>
    rw [escape_cons]
    rcases escapeChar_cases c with (rfl | rfl | rfl) | ⟨hc, h₁, -⟩
    · exact congrArg ('&' :: ·) ih
    · exact congrArg ('<' :: ·) ih
    · exact congrArg ('>' :: ·) ih
    · rw [hc, List.singleton_append, unescape_cons h₁, ih]

/-! ## Line feeds at the ends -/

theorem escape_dropWhile (t : Text) :
    (escape t).dropWhile isLineFeed = escape (t.dropWhile isLineFeed) := by
  induction t with
  | nil => rfl
  | cons c t ih =>
    rcases escapeChar_cases c with (rfl | rfl | rfl) | ⟨hc, -⟩
    · rfl
    · rfl
    · rfl
    · rw [escape_cons, hc, List.singleton_append, List.dropWhile_cons, List.dropWhile_cons, ih]
      by_cases h : isLineFeed c = true
      · rw [if_pos h, if_pos h]
      · rw [if_neg h, if_neg h, escape_cons, hc, List.singleton_append]

theorem escape_dropEndWhile (t : Text) :
    dropEndWhile isLineFeed (escape t) = escape (dropEndWhile isLineFeed t) := by
  induction t using List.reverseRecOn with
  | nil => rfl
  | append_singleton t c ih =>
    have hlast : escape [c] = escapeChar c := by rw [escape_cons, escape_nil, List.append_nil]
    rw [escape_append, hlast, Text.dropEndWhile_concat]
    by_cases h : c = '\n'
    · subst h
      rw [if_pos Text.isLineFeed_feed, ← ih]
      exact Text.dropEndWhile_concat_feed (escape t)
    · have hfeed := Bool.eq_false_iff.1 (Text.isLineFeed_of_ne h)
      obtain ⟨u, d, hu, hd⟩ := escapeChar_concat c
      have hne : d ≠ '\n' := fun e => h (hd e)
      rw [if_neg hfeed, escape_append, hlast, hu, ← List.append_assoc, Text.dropEndWhile_concat,
        if_neg (Bool.eq_false_iff.1 (Text.isLineFeed_of_ne hne))]

end Marginalia.Markup
