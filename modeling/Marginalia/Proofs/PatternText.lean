import Marginalia.Language
import Marginalia.Pattern.Reader
import Mathlib.Tactic.FinCases
import Mathlib.Tactic.SplitIfs

/-!
# Reading the patterns of a language

The symbol of a language is any text; it stands in patterns with a backslash before each character
that has a meaning there.

1. Where no flag is set, the reader passes one part of a pattern after another: one lemma for each
   kind of part (`run_parts_single`, `run_parts_repeat`).
2. So it passes a text that was put into a pattern, character by character, and keeps one part for
   each of them (`run_parts_literal`).
3. What is read from the patterns of a language is known for every symbol (`ofText_commentPattern`,
   `ofText_sparedPattern`).
-/

namespace Marginalia

namespace Pattern

open Marginalia.Language (isMeta literalPattern)

/-! ## Readers where no flag is set -/

/-- A place of a pattern at which no flag is set and no group was named. -/
def plain (place : Nat) (rest : Text) : Cursor := ⟨place, rest, .start, [], none⟩

variable {n i : Nat} {done : List (Option Pattern)} {p : Pattern} {c d : Char} {t : Text}

theorem ok_bind {α β : Type} (a : α) (f : α → Except Fault β) : (Except.ok a >>= f) = f a := rfl

theorem run_here : here.run (plain i t) = .ok (i, plain i t) := rfl

theorem run_get : (get : Read Cursor).run (plain i t) = .ok (plain i t, plain i t) := rfl

theorem run_peek : peek.run (plain i t) = .ok (t.head?, plain i t) := rfl

theorem run_isNext : (isNext c).run (plain i t) = .ok (decide (t.head? = some c), plain i t) := rfl

theorem run_skipSpace : skipSpace.run (plain i t) = .ok ((), plain i t) := rfl

theorem run_skip_one : (skip 1).run (plain i (c :: t)) = .ok ((), plain (i + 1) t) := by
  show Except.ok ((), (⟨i + min 1 (t.length + 1), t, .start, [], none⟩ : Cursor)) = _
  rw [Nat.min_eq_left (by omega)]
  rfl

theorem run_skipLazy (h : t.head? ≠ some '?') : skipLazy.run (plain i t) = .ok ((), plain i t) := by
  unfold skipLazy
  rw [StateT.run_bind, run_isNext, decide_eq_false h]
  rfl

/-! ## Characters -/

theorem ne_of_isMeta (h : isMeta c = false) (hd : isMeta d = true) : c ≠ d := by
  rintro rfl
  rw [h] at hd
  cases hd

/-- A character without a meaning stands for itself. -/
theorem run_single_char (h : isMeta c = false) :
    single.run (plain i (c :: t)) = .ok (.one (Class.one c), plain (i + 1) t) := by
  unfold single
  simp only [StateT.run_bind, run_here, run_peek, run_get, ok_bind, List.head?_cons]
  split
  · next heq => exact absurd (Option.some.inj heq) (ne_of_isMeta h (by decide))
  · next heq => exact absurd (Option.some.inj heq) (ne_of_isMeta h (by decide))
  · next heq => exact absurd (Option.some.inj heq) (ne_of_isMeta h (by decide))
  · next heq => exact absurd (Option.some.inj heq) (ne_of_isMeta h (by decide))
  · next heq =>
    cases heq
    rw [StateT.run_bind, run_skip_one]
    rfl
  · next heq => cases heq

/-! ## Parts -/

theorem run_parts_nil : (parts (n + 1) done).run (plain i []) =
    .ok (sequence (done.reverse.filterMap id), plain i []) := by
  rw [parts]
  rfl

/-- A part that no other part begins or repeats is kept. -/
theorem run_parts_single {j : Nat} {u : Text}
    (hc : c ∉ ['|', ')', '(', '[', '\x7b', '?', '*', '+'])
    (h : single.run (plain i (c :: t)) = .ok (p, plain j u)) :
    (parts (n + 1) done).run (plain i (c :: t)) = (parts n (some p :: done)).run (plain j u) := by
  rw [parts]
  simp only [StateT.run_bind, run_skipSpace, run_peek, ok_bind, List.head?_cons]
  simp only [List.mem_cons, List.not_mem_nil, or_false, not_or] at hc
  obtain ⟨hbar, hclose, hopen, hbracket, hbrace, hmaybe, hstar, hplus⟩ := hc
  split
  · next heq => cases heq
  · next heq => exact absurd (Option.some.inj heq) hbar
  · next heq => exact absurd (Option.some.inj heq) hclose
  · next heq => exact absurd (Option.some.inj heq) hopen
  · next heq => exact absurd (Option.some.inj heq) hbracket
  · next heq => exact absurd (Option.some.inj heq) hbrace
  · next heq =>
    cases heq
    simp only [hmaybe, hstar, hplus, decide_false, Bool.or_false, Bool.false_eq_true, if_false]
    rw [StateT.run_bind, h, ok_bind]

theorem run_parts_char (h : isMeta c = false) : (parts (n + 1) done).run (plain i (c :: t)) =
    (parts n (some (.one (Class.one c)) :: done)).run (plain (i + 1) t) := by
  have hmeta : ∀ d ∈ ['|', ')', '(', '[', '\x7b', '?', '*', '+'], isMeta d = true := by
    intro d hd
    fin_cases hd <;> rfl
  refine run_parts_single (fun hc => ?_) (run_single_char h)
  exact ne_of_isMeta h (hmeta c hc) rfl

/-- A backslash takes its meaning from a character. -/
theorem run_parts_escape (h : isMeta c = true) :
    (parts (n + 1) done).run (plain i ('\\' :: c :: t)) =
      (parts n (some (.one (Class.one c)) :: done)).run (plain (i + 2) t) := by
  have hmem : c ∈ ['\\', '.', '+', '*', '?', '(', ')', '|', '[', ']', '\x7b', '\x7d', '^', '$', '#',
      '&', '-', '~'] :=
    List.contains_iff_mem.1 h
  have hsingle : single.run (plain i ('\\' :: c :: t)) =
      .ok (.one (Class.one c), plain (i + 2) t) := by
    fin_cases hmem <;> rfl
  exact run_parts_single (by decide) hsingle

theorem run_parts_blank : (parts (n + 1) done).run (plain i ('\\' :: 's' :: t)) =
    (parts n (some (.one (.kind .blank)) :: done)).run (plain (i + 2) t) :=
  run_parts_single (by decide) rfl

theorem run_parts_textStart : (parts (n + 1) done).run (plain i ('^' :: t)) =
    (parts n (some (.place .textStart) :: done)).run (plain (i + 1) t) := by
  have hsingle : single.run (plain i ('^' :: t)) = .ok (.place .textStart, plain (i + 1) t) := by
    show (skip 1 >>= fun _ => pure (Pattern.place .textStart)).run (plain i ('^' :: t)) = _
    rw [StateT.run_bind, run_skip_one]
    rfl
  exact run_parts_single (by decide) hsingle

/-- A star or a question mark is about the part before it. -/
theorem run_parts_repeat (hc : c = '*' ∨ c = '?') (h : t.head? ≠ some '?') :
    (parts (n + 1) (some p :: done)).run (plain i (c :: t)) =
      (parts n (some (.times p 0 (if c = '?' then some 1 else none)) :: done)).run
        (plain (i + 1) t) := by
  rw [parts, StateT.run_bind, run_skipSpace, ok_bind, StateT.run_bind, run_peek, ok_bind]
  rcases hc with rfl | rfl
  · show (skip 1 >>= fun _ => skipLazy >>= fun _ =>
      parts n (some (.times p 0 none) :: done)).run _ = _
    rw [StateT.run_bind, run_skip_one, ok_bind, StateT.run_bind, run_skipLazy h, ok_bind]
    rfl
  · show (skip 1 >>= fun _ => skipLazy >>= fun _ =>
      parts n (some (.times p 0 (some 1)) :: done)).run _ = _
    rw [StateT.run_bind, run_skip_one, ok_bind, StateT.run_bind, run_skipLazy h, ok_bind]
    rfl

/-! ## Literal texts -/

/-- The parts that stand for the characters of a text. -/
def literal (s : Text) : List Pattern := s.map fun c => .one (Class.one c)

theorem literalPattern_cons (c : Char) (s : Text) :
    literalPattern (c :: s) = (if isMeta c then ['\\', c] else [c]) ++ literalPattern s :=
  List.flatMap_cons

theorem length_le_literalPattern (s : Text) : s.length ≤ (literalPattern s).length := by
  induction s with
  | nil => exact Nat.zero_le _
  | cons c s ih =>
    rw [literalPattern_cons, List.length_append, List.length_cons]
    split_ifs
    · simp only [List.length_cons, List.length_nil]
      omega
    · simp only [List.length_cons, List.length_nil]
      omega

/-- No literal text begins with a repetition. -/
theorem head?_literalPattern_append (s : Text) (h : t.head? ≠ some '?') :
    (literalPattern s ++ t).head? ≠ some '?' := by
  cases s with
  | nil => exact h
  | cons c s =>
    rw [literalPattern_cons]
    by_cases hc : isMeta c = true
    · rw [if_pos hc]
      simp
    · rw [if_neg hc]
      rw [Bool.not_eq_true] at hc
      simpa using ne_of_isMeta hc (by decide : isMeta '?' = true)

/-- **A literal text is read as its characters.** -/
theorem run_parts_literal (s : Text) :
    (parts (n + s.length) done).run (plain i (literalPattern s ++ t)) =
      (parts n (((literal s).map some).reverse ++ done)).run
        (plain (i + (literalPattern s).length) t) := by
  induction s generalizing i done with
  | nil => rfl
  | cons c s ih =>
    rw [literalPattern_cons, List.length_cons, ← Nat.add_assoc]
    by_cases hc : isMeta c = true
    · rw [if_pos hc]
      have hplace : i + 2 + (literalPattern s).length =
          i + (['\\', c] ++ literalPattern s).length := by
        rw [List.length_append, ← Nat.add_assoc]
        rfl
      show (parts (n + s.length + 1) done).run (plain i ('\\' :: c :: (literalPattern s ++ t))) = _
      rw [run_parts_escape hc, ih, hplace]
      simp [literal]
    · rw [if_neg hc]
      have hplace : i + 1 + (literalPattern s).length = i + ([c] ++ literalPattern s).length := by
        rw [List.length_append, ← Nat.add_assoc]
        rfl
      rw [Bool.not_eq_true] at hc
      show (parts (n + s.length + 1) done).run (plain i (c :: (literalPattern s ++ t))) = _
      rw [run_parts_char hc, ih, hplace]
      simp [literal]

/-! ## Whole patterns -/

theorem ofText_of_run {j : Nat}
    (h : (parts (3 * t.length + 2) []).run (plain 0 t) = .ok (p, plain j [])) :
    ofText t = .ok p := by
  have halternatives : (alternatives (3 * t.length + 3)).run (plain 0 t) = .ok (p, plain j []) := by
    rw [alternatives, StateT.run_bind, h]
    rfl
  show ((whole (3 * t.length + 3)).run (plain 0 t)).map Prod.fst = _
  unfold whole
  rw [StateT.run_bind, halternatives]
  rfl

/-- Blanks, as many as there are. -/
def blanks : Pattern := .times (.one (.kind .blank)) 0 none

/-- A blank, if there is one. -/
def maybeBlank : Pattern := .times (.one (.kind .blank)) 0 (some 1)

end Pattern

namespace Language

open Pattern

/-- The start of the text, blanks, the comment symbol, and a blank if there is one. -/
def matcher (lang : Language) : Pattern :=
  sequence (.place .textStart :: blanks :: (literal lang.symbol ++ [maybeBlank]))

/-- The start of the text and the front of an interpreter line, or blanks and an interpolation. -/
def filter : Pattern :=
  .either (sequence [.place .textStart, .one (Class.one '#'), .one (Class.one '!'),
      .one (.union .none (Class.one '/'))])
    (sequence (.place .textStart :: blanks :: literal "#\x7b".toList))

/-- What the pattern of a language's comment lines says, whatever the symbol is. -/
theorem ofText_commentPattern (lang : Language) :
    Pattern.ofText lang.commentPattern = .ok lang.matcher := by
  have htext : lang.commentPattern =
      '^' :: '\\' :: 's' :: '*' :: (literalPattern lang.symbol ++ ['\\', 's', '?']) := rfl
  have hlength : lang.commentPattern.length = (literalPattern lang.symbol).length + 7 := by
    rw [htext]
    simp only [List.length_cons, List.length_append, List.length_nil]
  have hle := length_le_literalPattern lang.symbol
  obtain ⟨n, hn⟩ : ∃ n, 3 * lang.commentPattern.length + 2 =
      (((n + 1) + 1 + 1) + lang.symbol.length) + 1 + 1 + 1 :=
    ⟨3 * lang.commentPattern.length + 2 - (lang.symbol.length + 6), by omega⟩
  have hhead := head?_literalPattern_append (t := ['\\', 's', '?']) lang.symbol (by decide)
  apply ofText_of_run (j := 0 + 1 + 2 + 1 + (literalPattern lang.symbol).length + 2 + 1)
  rw [hn, htext, run_parts_textStart, run_parts_blank, run_parts_repeat (Or.inl rfl) hhead,
    run_parts_literal, run_parts_blank, run_parts_repeat (Or.inr rfl) (by decide), run_parts_nil]
  simp [matcher, blanks, maybeBlank, List.filterMap_map]

/-- What the pattern of lines that look like comments says. -/
theorem ofText_sparedPattern : Pattern.ofText sparedPattern = .ok filter := rfl

end Language

end Marginalia
