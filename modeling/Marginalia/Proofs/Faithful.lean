import Marginalia.Divider
import Marginalia.Proofs.Escape

/-!
# Faithful highlighters

A faithful highlighter cuts code at the marks in it, escapes the texts between them and puts each
mark, escaped too, into a span. What it may choose is a `Manner`; `Manner.highlight` is its output.

1. The wrapper comes off and leaves the markup of the pieces (`unwrap_highlight`).
2. If the symbol is plain, cutting the markup gives the pieces back, escaped and without line feeds
   at their seams (`cut_markUp`).
3. If it is not, the span holds another text than the one that is looked for, and the markup is
   never cut (`cut_markUp_of_not_plain`).
-/

namespace Marginalia

open Marginalia.Language (isLineFeed)
open Text (after? after?_append after?_append_append after?_cons_of_ne dropEndWhile
  dropEndWhile_concat trimSeams)

/-- What a faithful highlighter may choose. -/
structure Manner where
  /-- Whether the mark at a place, counted from zero, has the class `c1` and not `c`. -/
  long : Nat → Bool
  /-- Whether an empty span stands in front of the code. -/
  hasEmptySpan : Bool
  /-- The line breaks behind the wrapper. -/
  breaks : Text
  isBreak : ∀ c ∈ breaks, c = '\r' ∨ c = '\n'

namespace Language

/-- The class of a comment. -/
def spanClass (long : Bool) : Text := if long then ['c', '1'] else ['c']

/-- What opens a span of that class. -/
def spanTag (long : Bool) : Text := "<span class=\"".toList ++ spanClass long ++ "\">".toList

/-- The mark as running text of a page, in a span. -/
def markSpan (lang : Language) (long : Bool) : Text :=
  spanTag long ++ Markup.escape lang.mark ++ "</span>".toList

/-- The markup of pieces of code with a mark between each two of them. -/
def markUp (lang : Language) (long : Nat → Bool) : List Text → Text
  | [] => []
  | [t] => Markup.escape t
  | t :: u :: ts =>
    Markup.escape t ++ lang.markSpan (long 0) ++ lang.markUp (fun n => long (n + 1)) (u :: ts)

end Language

/-- The output of a faithful highlighter. -/
def Manner.highlight (m : Manner) (lang : Language) (code : Text) : Text :=
  Fragment.opening ++ (if m.hasEmptySpan then Fragment.emptySpan else []) ++
    lang.markUp m.long (Text.pieces lang.mark code) ++ Fragment.closing ++ m.breaks

/-! ## The wrapper -/

namespace Fragment

theorem dropFront_append (front t : Text) : dropFront front (front ++ t) = t := by
  rw [dropFront, after?_append, Option.getD_some]

theorem dropFront_of_none {front t : Text} (h : after? front t = none) : dropFront front t = t := by
  rw [dropFront, h, Option.getD_none]

/-- Line breaks behind the closing go with it. -/
theorem dropEnding_closing (body : Text) {breaks : Text} (h : ∀ c ∈ breaks, c = '\r' ∨ c = '\n') :
    dropEnding closing (body ++ (closing ++ breaks)) = body := by
  have hdrop : dropEndWhile (fun c => c = '\r' || c = '\n') (body ++ closing ++ breaks) =
      body ++ closing := by
    induction breaks using List.reverseRecOn with
    | nil =>
      rw [List.append_nil, show closing = "</pre></div".toList ++ ['>'] from rfl,
        ← List.append_assoc, dropEndWhile_concat, if_neg (by decide)]
    | append_singleton breaks c ih =>
      have hc := h c (List.mem_append_right _ (List.mem_singleton_self c))
      rw [← List.append_assoc, dropEndWhile_concat, if_pos (by simpa using hc)]
      exact ih fun d hd => h d (List.mem_append_left _ hd)
  unfold dropEnding
  rw [← List.append_assoc]
  simp only [hdrop, List.reverse_append, after?_append, List.reverse_reverse]

/-- Code in its wrapper, with an empty span in front. -/
theorem unwrap_emptySpan (body : Text) {breaks : Text} (h : ∀ c ∈ breaks, c = '\r' ∨ c = '\n') :
    unwrap (opening ++ (emptySpan ++ (body ++ (closing ++ breaks)))) = body := by
  rw [unwrap, dropFront_append, dropFront_append, dropEnding_closing body h]

/-- Code in its wrapper. -/
theorem unwrap_of_none {body breaks : Text} (h : ∀ c ∈ breaks, c = '\r' ∨ c = '\n')
    (hnone : after? emptySpan (body ++ (closing ++ breaks)) = none) :
    unwrap (opening ++ (body ++ (closing ++ breaks))) = body := by
  rw [unwrap, dropFront_append, dropFront_of_none hnone, dropEnding_closing body h]

/-- Escaped text does not start with an empty span. -/
theorem after?_emptySpan_escape (c : Char) (p t : Text) :
    after? emptySpan (Markup.escape (c :: p) ++ t) = none := by
  obtain ⟨d, u, hu⟩ := List.exists_cons_of_length_pos (Markup.length_escapeChar_pos c)
  have hd : d ≠ '<' := by
    rintro rfl
    refine Markup.not_mem_escape (Or.inl rfl) (c :: p) ?_
    rw [Markup.escape_cons, hu]
    exact List.mem_cons_self
  rw [Markup.escape_cons, hu]
  exact after?_cons_of_ne (Ne.symm hd) _ _

/-- Escaped text comes out of its wrapper. -/
theorem unwrap_wrap_escape (t : Text) : unwrap (wrap (Markup.escape t)) = Markup.escape t := by
  have hnone : after? emptySpan (Markup.escape t ++ (closing ++ [])) = none := by
    cases t with
    | nil => rfl
    | cons c t => exact after?_emptySpan_escape c t _
  have h := unwrap_of_none (fun c hc => absurd hc List.not_mem_nil) hnone
  rwa [List.append_nil, ← List.append_assoc] at h

end Fragment

namespace Language

variable (lang : Language)

/-- The markup of code does not start with an empty span. -/
theorem after?_emptySpan_markUp (long : Nat → Bool) {ps : List Text} (hps : ps ≠ []) (t : Text) :
    after? Fragment.emptySpan (lang.markUp long ps ++ (Fragment.closing ++ t)) = none := by
  obtain ⟨p, ps, rfl⟩ := List.exists_cons_of_ne_nil hps
  cases p with
  | nil =>
    cases ps with
    | nil => rfl
    | cons q ps => rfl
  | cons c p =>
    cases ps with
    | nil => exact Fragment.after?_emptySpan_escape c p _
    | cons q ps =>
      rw [markUp, List.append_assoc, List.append_assoc]
      exact Fragment.after?_emptySpan_escape c p _

/-- **The wrapper.** Without it, the output is the markup of the pieces. -/
theorem unwrap_highlight (m : Manner) (code : Text) :
    Fragment.unwrap (m.highlight lang code) = lang.markUp m.long (Text.pieces lang.mark code) := by
  unfold Manner.highlight
  rw [List.append_assoc, List.append_assoc, List.append_assoc]
  cases m.hasEmptySpan with
  | true => exact Fragment.unwrap_emptySpan _ m.isBreak
  | false =>
    exact Fragment.unwrap_of_none m.isBreak
      (lang.after?_emptySpan_markUp m.long (Text.pieces_ne_nil lang.mark code) m.breaks)

/-! ## Highlighted marks -/

theorem span_eq_cons (cls : Text) : ∃ t, lang.span cls = '<' :: 's' :: t := ⟨_, rfl⟩

theorem afterSpan?_of_ne {c : Char} (hc : c ≠ '<') (t : Text) :
    lang.afterSpan? (c :: t) = none := by
  obtain ⟨u, hu⟩ := lang.span_eq_cons ['c', '1']
  obtain ⟨v, hv⟩ := lang.span_eq_cons ['c']
  rw [afterSpan?, hu, hv, after?_cons_of_ne (Ne.symm hc), after?_cons_of_ne (Ne.symm hc)]
  rfl

theorem breakOnSpan?_cons_of_none {c : Char} {t : Text} (h : lang.afterSpan? (c :: t) = none) :
    lang.breakOnSpan? (c :: t) =
      (lang.breakOnSpan? t).map fun parts => (c :: parts.1, parts.2) := by
  rw [breakOnSpan?, h]

/-- A text without angle bracket holds no span. -/
theorem breakOnSpan?_append {a : Text} (ha : '<' ∉ a) (t : Text) :
    lang.breakOnSpan? (a ++ t) =
      (lang.breakOnSpan? t).map fun parts => (a ++ parts.1, parts.2) := by
  induction a with
  | nil => rw [List.nil_append]; exact Option.map_id_apply.symm
  | cons c a ih =>
    rw [List.mem_cons, not_or] at ha
    rw [List.cons_append, breakOnSpan?_cons_of_none lang (lang.afterSpan?_of_ne (Ne.symm ha.1) _),
      ih ha.2, Option.map_map]
    rfl

theorem breakOnSpan?_eq_none {a : Text} (ha : '<' ∉ a) : lang.breakOnSpan? a = none := by
  rw [← List.append_nil a, breakOnSpan?_append lang ha]
  rfl

/-- Neither class is taken for the other. -/
theorem after?_spanTag_of_ne {a b : Bool} (h : a ≠ b) (x y : Text) :
    after? (spanTag a ++ x) (spanTag b ++ y) = none := by
  have hlong : spanTag true = "<span class=\"c".toList ++ ['1', '"', '>'] := by decide
  have hshort : spanTag false = "<span class=\"c".toList ++ ['"', '>'] := by decide
  cases a with
  | true =>
    cases b with
    | true => exact absurd rfl h
    | false =>
      rw [hlong, hshort, List.append_assoc, List.append_assoc, after?_append_append]
      exact after?_cons_of_ne (by decide) _ _
  | false =>
    cases b with
    | true =>
      rw [hlong, hshort, List.append_assoc, List.append_assoc, after?_append_append]
      exact after?_cons_of_ne (by decide) _ _
    | false => exact absurd rfl h

theorem span_spanClass (long : Bool) :
    lang.span (spanClass long) = spanTag long ++ (lang.mark ++ "</span>".toList) := by
  unfold span spanTag
  rw [List.append_assoc _ lang.mark]

/-- Both classes are found. -/
theorem afterSpan?_span (long : Bool) (t : Text) :
    lang.afterSpan? (lang.span (spanClass long) ++ t) = some t := by
  show (after? (lang.span (spanClass true)) _).or (after? (lang.span (spanClass false)) _) = some t
  cases long with
  | true => rw [after?_append, Option.some_or]
  | false =>
    have hother :
        after? (lang.span (spanClass true)) (lang.span (spanClass false) ++ t) = none := by
      rw [span_spanClass, span_spanClass, List.append_assoc]
      exact after?_spanTag_of_ne (by decide) _ _
    rw [hother, after?_append, Option.none_or]

theorem breakOnSpan?_span (long : Bool) (t : Text) :
    lang.breakOnSpan? (lang.span (spanClass long) ++ t) = some ([], t) := by
  obtain ⟨u, hu⟩ := lang.span_eq_cons (spanClass long)
  have h := lang.afterSpan?_span long t
  rw [hu, List.cons_append] at h ⊢
  rw [breakOnSpan?, h]

theorem cut_of_none {body : Text} (h : lang.breakOnSpan? body = none) : lang.cut body = [body] := by
  unfold cut
  split
  · rfl
  · next hs => rw [h] at hs; cases hs

theorem cut_of_some {body before after : Text} (h : lang.breakOnSpan? body = some (before, after)) :
    lang.cut body = dropEndWhile isLineFeed before :: lang.cut (after.dropWhile isLineFeed) := by
  rw [cut]
  split
  · next hn => rw [h] at hn; cases hn
  · next b a hs => rw [h] at hs; cases hs; rfl

/-! ## Plain symbols -/

theorem plain_mark_iff : Markup.Plain lang.mark ↔ Markup.Plain lang.symbol := by
  have hword : Markup.Plain "DIVIDER".toList := by decide
  unfold Markup.Plain mark
  rw [List.forall_mem_append]
  exact and_iff_left hword

theorem markSpan_eq_span (h : Markup.Plain lang.symbol) (long : Bool) :
    lang.markSpan long = lang.span (spanClass long) := by
  unfold markSpan
  rw [Markup.escape_eq_self (lang.plain_mark_iff.2 h), span_spanClass, List.append_assoc]

theorem markUp_cons_dropWhile (long : Nat → Bool) (p : Text) (ps : List Text) :
    (lang.markUp long (p :: ps)).dropWhile isLineFeed =
      lang.markUp long (p.dropWhile isLineFeed :: ps) := by
  cases ps with
  | nil => exact Markup.escape_dropWhile p
  | cons q ps =>
    rw [markUp, markUp, List.append_assoc, List.append_assoc, List.dropWhile_append,
      ← Markup.escape_dropWhile]
    by_cases h : ((Markup.escape p).dropWhile isLineFeed).isEmpty
    · -- a piece of line feeds only: the span behind it stops the dropping
      rw [if_pos h, List.isEmpty_iff.1 h]
      rfl
    · rw [if_neg h]

/-- **Cutting.** The pieces come back escaped, without line feeds where they met a mark. -/
theorem cut_markUp (hplain : Markup.Plain lang.symbol) (long : Nat → Bool) {ps : List Text}
    (hps : ps ≠ []) : lang.cut (lang.markUp long ps) = (trimSeams ps).map Markup.escape := by
  obtain ⟨p, ps, rfl⟩ := List.exists_cons_of_ne_nil hps
  clear hps
  induction ps generalizing p long with
  | nil =>
    rw [Text.trimSeams_singleton]
    exact lang.cut_of_none (lang.breakOnSpan?_eq_none (Markup.not_mem_escape (Or.inl rfl) p))
  | cons q ps ih =>
    have hfound : lang.breakOnSpan? (lang.markUp long (p :: q :: ps)) =
        some (Markup.escape p, lang.markUp (fun n => long (n + 1)) (q :: ps)) := by
      rw [markUp, List.append_assoc,
        breakOnSpan?_append lang (Markup.not_mem_escape (Or.inl rfl) p),
        lang.markSpan_eq_span hplain, breakOnSpan?_span, Option.map_some, List.append_nil]
    rw [lang.cut_of_some hfound, markUp_cons_dropWhile, ih, Text.trimSeams_cons_cons, List.map_cons,
      Markup.escape_dropEndWhile]

/-! ## Symbols that need escaping -/

/-- The text that is looked for ends in a bracket where the longer escaped text still goes on. -/
theorem after?_eq_none_of_length {p e : Text} (he : '<' ∉ e) (hlen : p.length < e.length)
    (x y : Text) : after? (p ++ '<' :: x) (e ++ y) = none := by
  induction p generalizing e with
  | nil =>
    obtain ⟨c, e, rfl⟩ := List.exists_cons_of_length_pos hlen
    rw [List.mem_cons, not_or] at he
    exact after?_cons_of_ne he.1 _ _
  | cons a p ih =>
    obtain ⟨c, e, rfl⟩ := List.exists_cons_of_length_pos (Nat.zero_lt_of_lt hlen)
    rw [List.mem_cons, not_or] at he
    rw [List.length_cons, List.length_cons, Nat.add_lt_add_iff_right] at hlen
    rw [List.cons_append, List.cons_append, after?]
    by_cases h : a = c
    · rw [if_pos h, ih he.2 hlen]
    · rw [if_neg h]

theorem afterSpan?_markSpan (h : ¬ Markup.Plain lang.symbol) (long : Bool) (t : Text) :
    lang.afterSpan? (lang.markSpan long ++ t) = none := by
  have hlonger : lang.mark.length < (Markup.escape lang.mark).length :=
    Markup.length_lt_escape fun hp => h (lang.plain_mark_iff.1 hp)
  have hspan : ∀ other, after? (lang.span (spanClass other)) (lang.markSpan long ++ t) = none := by
    intro other
    unfold markSpan
    rw [span_spanClass, List.append_assoc, List.append_assoc]
    by_cases ho : other = long
    · rw [ho, after?_append_append]
      exact after?_eq_none_of_length (Markup.not_mem_escape (Or.inl rfl) _) hlonger _ _
    · exact after?_spanTag_of_ne ho _ _
  show (after? (lang.span (spanClass true)) _).or (after? (lang.span (spanClass false)) _) = none
  rw [hspan, hspan, Option.none_or]

theorem afterSpan?_slash (t : Text) : lang.afterSpan? ('<' :: '/' :: t) = none := by
  obtain ⟨u, hu⟩ := lang.span_eq_cons ['c', '1']
  obtain ⟨v, hv⟩ := lang.span_eq_cons ['c']
  rw [afterSpan?, hu, hv, after?, if_pos rfl, after?_cons_of_ne (by decide), after?, if_pos rfl,
    after?_cons_of_ne (by decide), Option.none_or]

theorem markSpan_append (long : Bool) (t : Text) :
    ∃ u, lang.markSpan long ++ t = '<' :: (u ++ '<' :: '/' :: ("span>".toList ++ t)) ∧ '<' ∉ u := by
  have htag : ∃ u, spanTag long = '<' :: u ∧ '<' ∉ u := by
    cases long with
    | true => exact ⟨"span class=\"c1\">".toList, by decide, by decide⟩
    | false => exact ⟨"span class=\"c\">".toList, by decide, by decide⟩
  have hclose : "</span>".toList = '<' :: '/' :: "span>".toList := by decide
  obtain ⟨u, hu, hmem⟩ := htag
  refine ⟨u ++ Markup.escape lang.mark, ?_, ?_⟩
  · unfold markSpan
    rw [hu, hclose, List.append_assoc]
    simp only [List.cons_append, List.append_assoc]
  · rw [List.mem_append, not_or]
    exact ⟨hmem, Markup.not_mem_escape (Or.inl rfl) _⟩

/-- No mark is found in a span around an escaped mark, nor across its closing tag. -/
theorem breakOnSpan?_markSpan (h : ¬ Markup.Plain lang.symbol) (long : Bool) {t : Text}
    (ht : lang.breakOnSpan? t = none) : lang.breakOnSpan? (lang.markSpan long ++ t) = none := by
  have hnone := lang.afterSpan?_markSpan h long t
  obtain ⟨u, hu, hmem⟩ := lang.markSpan_append long t
  have hslash : '<' ∉ '/' :: "span>".toList := by decide
  rw [hu] at hnone ⊢
  rw [lang.breakOnSpan?_cons_of_none hnone, lang.breakOnSpan?_append hmem,
    lang.breakOnSpan?_cons_of_none (lang.afterSpan?_slash _), ← List.cons_append,
    lang.breakOnSpan?_append hslash, ht]
  rfl

/-- **No cutting.** Markup of a symbol that needs escaping is one piece. -/
theorem cut_markUp_of_not_plain (h : ¬ Markup.Plain lang.symbol) (long : Nat → Bool)
    (ps : List Text) : lang.cut (lang.markUp long ps) = [lang.markUp long ps] := by
  apply lang.cut_of_none
  fun_induction markUp lang long ps with
  | case1 long => rfl
  | case2 long t => exact lang.breakOnSpan?_eq_none (Markup.not_mem_escape (Or.inl rfl) t)
  | case3 long t u ts ih =>
    rw [List.append_assoc, lang.breakOnSpan?_append (Markup.not_mem_escape (Or.inl rfl) t),
      lang.breakOnSpan?_markSpan h _ ih]
    rfl

end Language

end Marginalia
