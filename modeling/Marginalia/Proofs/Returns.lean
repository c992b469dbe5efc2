import Marginalia.Proofs.LineFeeds

/-!
# Carriage returns

`Text.withReturns` puts a carriage return in front of each line feed of a text, and
`Text.withoutReturns` takes all carriage returns away (`withoutReturns_withReturns`).

1. A pattern without line ends stands where it stood (`infix_of_infix_withReturns`,
   `prefix_withReturns_iff`).
2. The lines are the same but for a carriage return at the end of each but the last
   (`splitOn_withReturns`), and such lines make up the text again (`withReturns_intercalate`).
-/

namespace Marginalia.Text

/-- `t` with a carriage return in front of each line feed. -/
def withReturns (t : Text) : Text := t.flatMap fun c => if c = '\n' then ['\r', '\n'] else [c]

/-- `t` without its carriage returns. -/
def withoutReturns (t : Text) : Text := t.filter (· ≠ '\r')

@[simp] theorem withReturns_nil : withReturns [] = [] := rfl

theorem withReturns_append (a b : Text) : withReturns (a ++ b) = withReturns a ++ withReturns b :=
  List.flatMap_append

theorem withReturns_cons_feed (t : Text) :
    withReturns ('\n' :: t) = '\r' :: '\n' :: withReturns t := rfl

theorem withReturns_cons_of_ne {c : Char} (hc : c ≠ '\n') (t : Text) :
    withReturns (c :: t) = c :: withReturns t := by
  rw [withReturns, List.flatMap_cons, if_neg hc, List.singleton_append]
  rfl

theorem withReturns_eq_self {t : Text} (h : '\n' ∉ t) : withReturns t = t := by
  induction t with
  | nil => rfl
  | cons c t ih =>
    rw [List.mem_cons, not_or] at h
    rw [withReturns_cons_of_ne (Ne.symm h.1), ih h.2]

theorem withReturns_eq_nil_iff {t : Text} : withReturns t = [] ↔ t = [] := by
  cases t with
  | nil => simp
  | cons c t =>
    by_cases hc : c = '\n'
    · simp [hc, withReturns_cons_feed]
    · simp [withReturns_cons_of_ne hc]

theorem withoutReturns_append (a b : Text) :
    withoutReturns (a ++ b) = withoutReturns a ++ withoutReturns b := List.filter_append a b

theorem withoutReturns_eq_self {t : Text} (h : '\r' ∉ t) : withoutReturns t = t := by
  refine List.filter_eq_self.2 fun c hc => decide_eq_true ?_
  rintro rfl
  exact h hc

theorem withoutReturns_withReturns {t : Text} (h : '\r' ∉ t) :
    withoutReturns (withReturns t) = t := by
  induction t with
  | nil => rfl
  | cons c t ih =>
    rw [List.mem_cons, not_or] at h
    have ht := ih h.2
    unfold withoutReturns at ht ⊢
    by_cases hc : c = '\n'
    · subst hc
      rw [withReturns_cons_feed, List.filter_cons_of_neg (by decide),
        List.filter_cons_of_pos (by decide), ht]
    · rw [withReturns_cons_of_ne hc, List.filter_cons_of_pos (by simpa using Ne.symm h.1), ht]

/-! ## Patterns -/

section Pattern

variable {p t : Text} (hp : '\r' ∉ p) (ht : '\r' ∉ t)

include hp ht

/-- Carriage returns bring no new place for a pattern without them. -/
theorem infix_of_infix_withReturns (h : p <:+: withReturns t) : p <:+: t := by
  have hfilter : withoutReturns p <:+: withoutReturns (withReturns t) := h.filter _
  rwa [withoutReturns_eq_self hp, withoutReturns_withReturns ht] at hfilter

theorem prefix_withReturns_iff (hfeed : '\n' ∉ p) : p <+: withReturns t ↔ p <+: t := by
  constructor
  · intro h
    have hfilter : withoutReturns p <+: withoutReturns (withReturns t) := h.filter _
    rwa [withoutReturns_eq_self hp, withoutReturns_withReturns ht] at hfilter
  · rintro ⟨r, rfl⟩
    rw [withReturns_append, withReturns_eq_self hfeed]
    exact List.prefix_append _ _

end Pattern

/-! ## Lines with carriage returns -/

/-- A carriage return at the end of each line but the last. -/
def returnLines : List Text → List Text
  | [] => []
  | [l] => [l]
  | l :: m :: ls => (l ++ ['\r']) :: returnLines (m :: ls)

theorem returnLines_cons_of_ne_nil (l : Text) {ls : List Text} (h : ls ≠ []) :
    returnLines (l :: ls) = (l ++ ['\r']) :: returnLines ls := by
  obtain ⟨m, ls, rfl⟩ := List.exists_cons_of_ne_nil h
  rfl

theorem returnLines_concat (ls : List Text) (l : Text) :
    returnLines (ls ++ [l]) = ls.map (· ++ ['\r']) ++ [l] := by
  induction ls with
  | nil => rfl
  | cons m ls ih =>
    rw [List.cons_append, returnLines_cons_of_ne_nil m (by simp), ih]
    rfl

theorem returnLines_modifyHead_cons (c : Char) (ls : List Text) :
    returnLines (ls.modifyHead (c :: ·)) = (returnLines ls).modifyHead (c :: ·) := by
  fun_cases returnLines ls with
  | case1 => rfl
  | case2 l => rfl
  | case3 l m ls => rfl

theorem getLast?_returnLines (ls : List Text) : (returnLines ls).getLast? = ls.getLast? := by
  induction ls using List.reverseRecOn with
  | nil => rfl
  | append_singleton ls l _ => rw [returnLines_concat, List.getLast?_concat, List.getLast?_concat]

/-- A function that does not see a carriage return at the end of a line has the same values. -/
theorem map_returnLines_of_eq {β : Type*} {f : Text → β} {ls : List Text}
    (hf : ∀ l ∈ ls, f (l ++ ['\r']) = f l) : (returnLines ls).map f = ls.map f := by
  induction ls with
  | nil => rfl
  | cons l ls ih =>
    rw [List.forall_mem_cons] at hf
    cases ls with
    | nil => rfl
    | cons m ls =>
      rw [returnLines_cons_of_ne_nil l (List.cons_ne_nil m ls), List.map_cons, hf.1, ih hf.2]
      rfl

/-- A function that leaves a carriage return at the end of a line goes on with the others. -/
theorem map_returnLines {f : Text → Text} (hf : ∀ l, f (l ++ ['\r']) = f l ++ ['\r'])
    (ls : List Text) : (returnLines ls).map f = returnLines (ls.map f) := by
  induction ls with
  | nil => rfl
  | cons l ls ih =>
    cases ls with
    | nil => rfl
    | cons m ls =>
      rw [returnLines_cons_of_ne_nil l (List.cons_ne_nil m ls), List.map_cons, hf, ih]
      rfl

theorem splitOn_withReturns (t : Text) :
    (withReturns t).splitOn '\n' = returnLines (t.splitOn '\n') := by
  induction t with
  | nil => rfl
  | cons c t ih =>
    by_cases hc : c = '\n'
    · have hreturn : '\n' ∉ ['\r'] := by decide
      have hfeed : ('\n' :: t).splitOn '\n' = [] :: t.splitOn '\n' := by
        simpa using List.splitOn_append_cons_self [] t
      subst hc
      rw [withReturns_cons_feed, ← List.singleton_append, List.splitOn_append_cons_self,
        List.splitOn_eq_singleton hreturn, ih, hfeed,
        returnLines_cons_of_ne_nil [] (List.splitOn_ne_nil _ t)]
      rfl
    · have hbeq : ¬ (c == '\n') = true := by simpa using hc
      rw [withReturns_cons_of_ne hc, List.splitOn_cons_eq_if_modifyHead, if_neg hbeq, ih,
        List.splitOn_cons_eq_if_modifyHead, if_neg hbeq, returnLines_modifyHead_cons]

theorem withReturns_intercalate {ls : List Text} (h : ∀ l ∈ ls, '\n' ∉ l) :
    withReturns (['\n'].intercalate ls) = ['\n'].intercalate (returnLines ls) := by
  induction ls with
  | nil => rfl
  | cons l ls ih =>
    rw [List.forall_mem_cons] at h
    cases ls with
    | nil => simpa [returnLines] using withReturns_eq_self h.1
    | cons m ls =>
      have hne : returnLines (m :: ls) ≠ [] := by
        cases ls with
        | nil => exact List.cons_ne_nil _ _
        | cons n ls => exact List.cons_ne_nil _ _
      obtain ⟨m', ls', hls⟩ := List.exists_cons_of_ne_nil hne
      rw [List.intercalate_cons_cons, withReturns_append, withReturns_append,
        withReturns_eq_self h.1, ih h.2, returnLines_cons_of_ne_nil l (List.cons_ne_nil m ls), hls,
        List.intercalate_cons_cons]
      simp [withReturns]

/-- A function that does not see a carriage return at the end of a line has the same values on the
lines of a text. -/
theorem map_lines_withReturns {β : Type*} {f : Text → β} {t : Text}
    (hf : ∀ l ∈ t.splitOn '\n', f (l ++ ['\r']) = f l) :
    (lines (withReturns t)).map f = (lines t).map f := by
  have hpieces := map_returnLines_of_eq hf
  rw [lines_eq, lines_eq, splitOn_withReturns, getLast?_returnLines]
  split_ifs
  · rw [List.map_dropLast, hpieces, List.map_dropLast]
  · exact hpieces

end Marginalia.Text
