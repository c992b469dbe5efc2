import Marginalia.Section
import Marginalia.Fault

/-!
# Dividers

All sections of a file are highlighted at once, with the language's divider between them. The
divider comes back as a highlighted comment, and cutting there gives back one fragment for each
section. The line feeds around a divider belong to it.
-/

namespace Marginalia

namespace Fragment

/-- What the highlighter puts in front of code. -/
def opening : Text := "<div class=\"highlight\"><pre>".toList

/-- What the highlighter puts after code. -/
def closing : Text := "</pre></div>".toList

/-- What some highlighters put directly after `opening`. -/
def emptySpan : Text := "<span></span>".toList

/-- A fragment in its wrapper. -/
def wrap (body : Text) : Text := opening ++ body ++ closing

/-- `t` without `front`, if it starts with it. -/
def dropFront (front t : Text) : Text := (Text.after? front t).getD t

/-- `t` without `ending` and any line breaks after it, if `ending` is there. -/
def dropEnding (ending t : Text) : Text :=
  let body := Text.dropEndWhile (fun c => c = '\r' || c = '\n') t
  match Text.after? ending.reverse body.reverse with
  | some body => body.reverse
  | none => t

/-- Highlighted code without its wrapper. -/
def unwrap (output : Text) : Text :=
  dropEnding closing (dropFront emptySpan (dropFront opening output))

end Fragment

namespace Language

/-- The code of all sections, with dividers between them. -/
def joinCode (lang : Language) (sections : List Section) : Text :=
  lang.divider.intercalate (sections.map (·.code))

/-- The mark as a highlighter returns it, in one of its two classes for comments. -/
def span (lang : Language) (cls : Text) : Text :=
  "<span class=\"".toList ++ cls ++ "\">".toList ++ lang.mark ++ "</span>".toList

/-- What follows a highlighted mark at the front of `t`. -/
def afterSpan? (lang : Language) (t : Text) : Option Text :=
  (Text.after? (lang.span ['c', '1']) t).or (Text.after? (lang.span ['c']) t)

/-- The text before and the text after the first highlighted mark. -/
def breakOnSpan? (lang : Language) : Text → Option (Text × Text)
  | [] => none
  | c :: t =>
    match lang.afterSpan? (c :: t) with
    | some after => some ([], after)
    | none => (lang.breakOnSpan? t).map fun parts => (c :: parts.1, parts.2)

theorem span_ne_nil (lang : Language) (cls : Text) : lang.span cls ≠ [] := by
  unfold span
  exact List.append_ne_nil_of_right_ne_nil _ (by decide)

theorem length_afterSpan? {lang : Language} {t after : Text}
    (h : lang.afterSpan? t = some after) : after.length < t.length := by
  unfold afterSpan? at h
  cases h₁ : Text.after? (lang.span ['c', '1']) t with
  | some r =>
    rw [h₁, Option.some_or, Option.some.injEq] at h
    exact Text.length_after? (span_ne_nil _ _) (h ▸ h₁)
  | none =>
    rw [h₁, Option.none_or] at h
    exact Text.length_after? (span_ne_nil _ _) h

theorem length_breakOnSpan? {lang : Language} {t before after : Text}
    (h : lang.breakOnSpan? t = some (before, after)) : after.length < t.length := by
  induction t generalizing before with
  | nil => simp [breakOnSpan?] at h
  | cons c t ih =>
    unfold breakOnSpan? at h
    split at h
    · next r hr =>
      simp only [Option.some.injEq, Prod.mk.injEq] at h
      obtain ⟨rfl, rfl⟩ := h
      exact length_afterSpan? hr
    · simp only [Option.map_eq_some_iff, Prod.mk.injEq] at h
      obtain ⟨⟨b, a⟩, hba, rfl, rfl⟩ := h
      exact Nat.lt_succ_of_lt (ih hba)

/-- Whether `c` ends a line. -/
def isLineFeed (c : Char) : Bool := c = '\n'

/-- The texts between the highlighted marks of `body`, without the line feeds around the marks. -/
def cut (lang : Language) (body : Text) : List Text :=
  match _found : lang.breakOnSpan? body with
  | none => [body]
  | some (before, after) =>
    Text.dropEndWhile isLineFeed before :: lang.cut (after.dropWhile isLineFeed)
termination_by body.length
decreasing_by
  have h₁ := length_breakOnSpan? _found
  have h₂ := (List.dropWhile_suffix isLineFeed (l := after)).length_le
  omega

/-- The fragments of highlighted code, one for each of `expected` sections. -/
def splitHighlighted (lang : Language) (output : Text) (expected : Nat) :
    Except Fault (List Text) :=
  let parts := lang.cut (Fragment.unwrap output)
  if parts.length = expected then .ok (parts.map Fragment.wrap)
  else .error (.misaligned expected parts.length)

end Language

end Marginalia
