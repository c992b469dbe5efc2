import Marginalia.Proofs.Faithful

/-!
# Cutting any output

The output of a highlighter is cut whatever it is. A `Division` writes a body as texts with seams
between them, a seam being a highlighted mark with line feeds around it.

1. The search finds the first span around the mark: none is complete before it
   (`breakOnSpan?_eq_some_iff`).
2. Every body has a division at its first spans (`exists_divides`), and the texts of any such
   division are the ones that cutting gives (`cut_eq_parts`). How the line feeds between two spans
   are shared by the seams is free, and changes no text.
3. So the fragments are the texts of the division, and whether the body came in its wrapper makes no
   difference (`splitHighlighted_division`).
-/

namespace Marginalia

open Marginalia.Language (isLineFeed spanClass)
open Text (after? dropEndWhile feeds)

/-- A highlighted mark with line feeds around it. -/
structure Seam where
  /-- The number of line feeds in front of the span. -/
  front : Nat
  /-- Whether the span has the class `c1` and not `c`. -/
  long : Bool
  /-- The number of line feeds behind the span. -/
  back : Nat

/-- Texts with a seam between each two of them. -/
structure Division where
  first : Text
  rest : List (Seam × Text)

namespace Division

/-- The texts of a division, in order. -/
def parts (d : Division) : List Text := d.first :: d.rest.map (·.2)

/-- The seams of a division, each with the text in front of it. -/
def fronts (d : Division) : List (Text × Seam) := d.parts.zip (d.rest.map (·.1))

/-- A division written out. -/
def text (lang : Language) (d : Division) : Text :=
  d.first ++ d.rest.flatMap fun p =>
    feeds p.1.front ++ (lang.span (spanClass p.1.long) ++ (feeds p.1.back ++ p.2))

end Division

namespace Language

/-- A span around the mark stands in `t`. -/
def HasSpan (lang : Language) (t : Text) : Prop := ∃ long, lang.span (spanClass long) <:+: t

instance (lang : Language) (t : Text) : Decidable (lang.HasSpan t) :=
  inferInstanceAs (Decidable (∃ long, lang.span (spanClass long) <:+: t))

/-- A division of `body` at its first spans. -/
structure Divides (lang : Language) (body : Text) (d : Division) : Prop where
  text_eq : d.text lang = body
  not_hasSpan : ∀ part ∈ d.parts, ¬ lang.HasSpan part
  /-- No text but the first starts with a line feed. -/
  head_ne : ∀ part ∈ d.parts.tail, part.head? ≠ some '\n'
  /-- No text but the last ends with a line feed. -/
  last_ne : ∀ part ∈ d.parts.dropLast, part.getLast? ≠ some '\n'
  /-- Behind a text, no span is complete before the one of the seam. -/
  first_span : ∀ p ∈ d.fronts,
    ¬ lang.HasSpan (p.1 ++ feeds p.2.front ++ lang.span (spanClass p.2.long)).dropLast

variable {lang : Language}

/-! ## The first span -/

theorem HasSpan.of_infix {s t : Text} (h : lang.HasSpan s) (hst : s <:+: t) : lang.HasSpan t :=
  h.imp fun _ hs => hs.trans hst

theorem hasSpan_cons_iff {c : Char} {t : Text} :
    lang.HasSpan (c :: t) ↔ (∃ long, lang.span (spanClass long) <+: c :: t) ∨ lang.HasSpan t := by
  unfold HasSpan
  rw [← exists_or]
  exact exists_congr fun long => List.infix_cons_iff

theorem afterSpan?_eq_some_iff {t r : Text} :
    lang.afterSpan? t = some r ↔ ∃ long, t = lang.span (spanClass long) ++ r := by
  constructor
  · intro h
    unfold afterSpan? at h
    rw [Option.or_eq_some_iff] at h
    rcases h with h | ⟨-, h⟩
    · exact ⟨true, Text.after?_eq_some_iff.1 h⟩
    · exact ⟨false, Text.after?_eq_some_iff.1 h⟩
  · rintro ⟨long, rfl⟩
    exact lang.afterSpan?_span long r

theorem afterSpan?_eq_none_iff {t : Text} :
    lang.afterSpan? t = none ↔ ¬ ∃ long, lang.span (spanClass long) <+: t := by
  rw [Option.eq_none_iff_forall_ne_some]
  constructor
  · rintro h ⟨long, r, rfl⟩
    exact h r (lang.afterSpan?_span long r)
  · intro h r hr
    obtain ⟨long, rfl⟩ := afterSpan?_eq_some_iff.1 hr
    exact h ⟨long, List.prefix_append _ _⟩

/-- The search fails exactly on the texts without a span. -/
theorem breakOnSpan?_eq_none_iff {t : Text} : lang.breakOnSpan? t = none ↔ ¬ lang.HasSpan t := by
  induction t with
  | nil =>
    refine iff_of_true rfl ?_
    rintro ⟨long, h⟩
    exact span_ne_nil lang _ (List.infix_nil.1 h)
  | cons c t ih =>
    rw [hasSpan_cons_iff, not_or, ← afterSpan?_eq_none_iff, ← ih]
    cases h : lang.afterSpan? (c :: t) with
    | none => rw [breakOnSpan?_cons_of_none lang h]; simp
    | some r => rw [breakOnSpan?, h]; simp

theorem length_span_le (lang : Language) (a b : Bool) :
    (lang.span (spanClass a)).length ≤ (lang.span (spanClass b)).length + 1 := by
  have hclass : ∀ x, 1 ≤ (spanClass x).length ∧ (spanClass x).length ≤ 2 := by decide
  have ha := hclass a
  have hb := hclass b
  unfold span
  simp only [List.length_append]
  omega

/-- The span that is one character longer is not the other one with a character behind it. -/
theorem span_ne_dropLast_span (a b : Bool) :
    lang.span (spanClass a) ≠ (lang.span (spanClass b)).dropLast := by
  have hend : ∀ long, ∃ u, lang.span (spanClass long) = u ++ ['n', '>'] := by
    intro long
    refine ⟨spanTag long ++ (lang.mark ++ "</spa".toList), ?_⟩
    rw [span_spanClass, List.append_assoc, List.append_assoc]
    rfl
  obtain ⟨u, hu⟩ := hend a
  obtain ⟨v, hv⟩ := hend b
  intro h
  have hlast := congrArg List.getLast? h
  rw [hu, hv] at hlast
  simp at hlast

/-- No span is complete before the end of a span. -/
theorem not_hasSpan_dropLast_span (long : Bool) :
    ¬ lang.HasSpan (lang.span (spanClass long)).dropLast := by
  rintro ⟨other, h⟩
  refine span_ne_dropLast_span other long (h.eq_of_length ?_)
  have hlen := h.length_le
  have hle := lang.length_span_le long other
  have hpos := List.length_pos_iff.2 (span_ne_nil lang (spanClass long))
  rw [List.length_dropLast] at hlen ⊢
  omega

/-- No span is complete before the one that is found. -/
theorem exists_of_breakOnSpan? {t before after : Text}
    (h : lang.breakOnSpan? t = some (before, after)) :
    ∃ long, t = before ++ (lang.span (spanClass long) ++ after) ∧
      ¬ lang.HasSpan (before ++ lang.span (spanClass long)).dropLast := by
  induction t generalizing before with
  | nil => cases h
  | cons c t ih =>
    cases hc : lang.afterSpan? (c :: t) with
    | some r =>
      rw [breakOnSpan?, hc] at h
      cases h
      obtain ⟨long, ht⟩ := afterSpan?_eq_some_iff.1 hc
      exact ⟨long, ht, not_hasSpan_dropLast_span long⟩
    | none =>
      rw [breakOnSpan?_cons_of_none lang hc, Option.map_eq_some_iff] at h
      obtain ⟨⟨b, a⟩, hba, he⟩ := h
      cases he
      obtain ⟨long, rfl, hfirst⟩ := ih hba
      refine ⟨long, rfl, ?_⟩
      rw [List.cons_append, List.dropLast_cons_of_ne_nil
        (List.append_ne_nil_of_right_ne_nil _ (span_ne_nil lang _)), hasSpan_cons_iff, not_or]
      refine ⟨?_, hfirst⟩
      rintro ⟨other, hother⟩
      refine afterSpan?_eq_none_iff.1 hc ⟨other, hother.trans ?_⟩
      rw [List.cons_prefix_cons, ← List.append_assoc]
      exact ⟨rfl, (List.dropLast_prefix _).trans (List.prefix_append _ _)⟩

/-- What opens before a span is complete before it, since it is longer by one at the most. -/
theorem afterSpan?_cons_of_first {c : Char} {before : Text} {long : Bool}
    (h : ¬ lang.HasSpan (c :: before ++ lang.span (spanClass long)).dropLast) (after : Text) :
    lang.afterSpan? (c :: before ++ (lang.span (spanClass long) ++ after)) = none := by
  rw [afterSpan?_eq_none_iff]
  rintro ⟨other, hother⟩
  cases before with
  | nil =>
    -- the second character would be the one that opens a span
    obtain ⟨u, hu⟩ := lang.span_eq_cons (spanClass other)
    obtain ⟨v, hv⟩ := lang.span_eq_cons (spanClass long)
    rw [hu, hv, List.singleton_append, List.cons_append, List.cons_prefix_cons,
      List.cons_prefix_cons] at hother
    exact absurd hother.2.1 (by decide)
  | cons d before =>
    refine h ⟨other, List.IsPrefix.isInfix (List.prefix_of_prefix_length_le hother ?_ ?_)⟩
    · rw [← List.append_assoc]
      exact (List.dropLast_prefix _).trans (List.prefix_append _ _)
    · have hle := lang.length_span_le other long
      rw [List.length_dropLast, List.length_append, List.length_cons, List.length_cons]
      omega

/-- A span is found if none is complete before it. -/
theorem breakOnSpan?_of_first {before : Text} {long : Bool}
    (h : ¬ lang.HasSpan (before ++ lang.span (spanClass long)).dropLast) (after : Text) :
    lang.breakOnSpan? (before ++ (lang.span (spanClass long) ++ after)) = some (before, after) := by
  induction before with
  | nil => exact lang.breakOnSpan?_span long after
  | cons c before ih =>
    have hnone := afterSpan?_cons_of_first h after
    rw [List.cons_append] at h hnone
    rw [List.dropLast_cons_of_ne_nil (List.append_ne_nil_of_right_ne_nil _ (span_ne_nil lang _)),
      hasSpan_cons_iff, not_or] at h
    rw [List.cons_append, breakOnSpan?_cons_of_none lang hnone, ih h.2]
    rfl

/-- **The first span.** What the search finds is a span, and none is complete before it. -/
theorem breakOnSpan?_eq_some_iff {t before after : Text} :
    lang.breakOnSpan? t = some (before, after) ↔
      ∃ long, t = before ++ (lang.span (spanClass long) ++ after) ∧
        ¬ lang.HasSpan (before ++ lang.span (spanClass long)).dropLast := by
  constructor
  · exact exists_of_breakOnSpan?
  · rintro ⟨long, rfl, h⟩
    exact breakOnSpan?_of_first h after

/-- A span with line feeds in front is cut off with them. -/
theorem cut_feeds_span (n : Nat) (long : Bool) (t : Text) :
    lang.cut (feeds n ++ (lang.span (spanClass long) ++ t)) =
      [] :: lang.cut (t.dropWhile isLineFeed) := by
  have hfound : lang.breakOnSpan? (feeds n ++ (lang.span (spanClass long) ++ t)) =
      some (feeds n, t) := by
    rw [lang.breakOnSpan?_append (Text.not_mem_feeds (by decide) n), breakOnSpan?_span,
      Option.map_some, List.append_nil]
  have hfeeds : dropEndWhile isLineFeed (feeds n) = [] :=
    Text.dropEndWhile_append_feeds (t := []) (by simp) n
  rw [lang.cut_of_some hfound, hfeeds]

end Language

/-! ## Divisions -/

namespace Division

variable {lang : Language}

theorem text_nil (t : Text) : text lang ⟨t, []⟩ = t := List.append_nil t

theorem text_cons (t u : Text) (s : Seam) (rest : List (Seam × Text)) :
    text lang ⟨t, (s, u) :: rest⟩ =
      t ++ (feeds s.front ++ (lang.span (spanClass s.long) ++
        (feeds s.back ++ text lang ⟨u, rest⟩))) := by
  simp only [text, List.flatMap_cons, List.append_assoc]

theorem length_parts (d : Division) : d.parts.length = d.rest.length + 1 := by
  rw [parts, List.length_cons, List.length_map]

end Division

namespace Language

variable {lang : Language}

theorem divides_nil_iff {body t : Text} :
    lang.Divides body ⟨t, []⟩ ↔ t = body ∧ ¬ lang.HasSpan t := by
  constructor
  · rintro ⟨htext, hspan, -, -, -⟩
    rw [Division.text_nil] at htext
    exact ⟨htext, hspan t List.mem_cons_self⟩
  · rintro ⟨rfl, hspan⟩
    refine ⟨Division.text_nil t, ?_, ?_, ?_, ?_⟩ <;> simp [Division.parts, Division.fronts, hspan]

/-- A division is one of what stands behind its first seam. -/
theorem divides_cons_iff {body t u : Text} {s : Seam} {rest : List (Seam × Text)} :
    lang.Divides body ⟨t, (s, u) :: rest⟩ ↔
      Division.text lang ⟨t, (s, u) :: rest⟩ = body ∧ ¬ lang.HasSpan t ∧ u.head? ≠ some '\n' ∧
        t.getLast? ≠ some '\n' ∧
        ¬ lang.HasSpan (t ++ feeds s.front ++ lang.span (spanClass s.long)).dropLast ∧
        lang.Divides (Division.text lang ⟨u, rest⟩) ⟨u, rest⟩ := by
  constructor
  · rintro ⟨htext, hspan, hhead, hlast, hfirst⟩
    obtain ⟨hspan, hspans⟩ := List.forall_mem_cons.1 hspan
    obtain ⟨hhead, hheads⟩ := List.forall_mem_cons.1 hhead
    obtain ⟨hlast, hlasts⟩ := List.forall_mem_cons.1 hlast
    obtain ⟨hfirst, hfirsts⟩ := List.forall_mem_cons.1 hfirst
    exact ⟨htext, hspan, hhead, hlast, hfirst, rfl, hspans, hheads, hlasts, hfirsts⟩
  · rintro ⟨htext, hspan, hhead, hlast, hfirst, hrest⟩
    refine ⟨htext, ?_, ?_, ?_, ?_⟩
    · exact List.forall_mem_cons.2 ⟨hspan, hrest.not_hasSpan⟩
    · exact List.forall_mem_cons.2 ⟨hhead, hrest.head_ne⟩
    · exact List.forall_mem_cons.2 ⟨hlast, hrest.last_ne⟩
    · exact List.forall_mem_cons.2 ⟨hfirst, hrest.first_span⟩

/-- Line feeds in front of the first span behind a seam are dropped with the seam. -/
theorem cut_dropWhile_text {u : Text} (hu : u.head? ≠ some '\n') (rest : List (Seam × Text)) :
    lang.cut ((Division.text lang ⟨u, rest⟩).dropWhile isLineFeed) =
      lang.cut (Division.text lang ⟨u, rest⟩) := by
  cases u with
  | cons c u =>
    have hhead : (Division.text lang ⟨c :: u, rest⟩).head? ≠ some '\n' := hu
    rw [Text.dropWhile_eq_self hhead]
  | nil =>
    cases rest with
    | nil => rfl
    | cons p rest =>
      obtain ⟨s, v⟩ := p
      rw [Division.text_cons, List.nil_append, cut_feeds_span, Text.dropWhile_feeds_append]
      exact cut_feeds_span 0 s.long _

/-- **One division.** Cutting gives the texts of any division at the first spans. -/
theorem cut_eq_parts {body : Text} {d : Division} (h : lang.Divides body d) :
    lang.cut body = d.parts := by
  obtain ⟨t, rest⟩ := d
  induction rest generalizing body t with
  | nil =>
    obtain ⟨rfl, hspan⟩ := divides_nil_iff.1 h
    exact lang.cut_of_none (breakOnSpan?_eq_none_iff.2 hspan)
  | cons p rest ih =>
    obtain ⟨s, u⟩ := p
    obtain ⟨rfl, -, hhead, hlast, hfirst, hrest⟩ := divides_cons_iff.1 h
    have hfound := breakOnSpan?_of_first hfirst (feeds s.back ++ Division.text lang ⟨u, rest⟩)
    rw [List.append_assoc, ← Division.text_cons] at hfound
    rw [lang.cut_of_some hfound, Text.dropEndWhile_append_feeds hlast, Text.dropWhile_feeds_append,
      cut_dropWhile_text hhead, ih u hrest]
    rfl

/-- Every body is divided at its first spans. -/
theorem exists_divides (lang : Language) (body : Text) : ∃ d, lang.Divides body d := by
  fun_induction lang.cut body with
  | case1 body hnone =>
    exact ⟨⟨body, []⟩, divides_nil_iff.2 ⟨rfl, breakOnSpan?_eq_none_iff.1 hnone⟩⟩
  | case2 body before after hsome ih =>
    obtain ⟨⟨u, rest⟩, hrest⟩ := ih
    obtain ⟨long, rfl, hfirst⟩ := breakOnSpan?_eq_some_iff.1 hsome
    obtain ⟨front, hfront⟩ := Text.exists_append_feeds before
    obtain ⟨back, hback⟩ := Text.exists_feeds_append after
    refine ⟨⟨dropEndWhile isLineFeed before, (⟨front, long, back⟩, u) :: rest⟩,
      divides_cons_iff.2 ⟨?_, ?_, ?_, ?_, ?_, ?_⟩⟩
    · rw [Division.text_cons, hrest.text_eq, ← hback, ← List.append_assoc, ← hfront]
    · intro hspan
      refine hfirst (hspan.of_infix (List.IsPrefix.isInfix ?_))
      rw [List.dropLast_append_of_ne_nil (span_ne_nil lang _)]
      exact (List.rdropWhile_prefix isLineFeed before).trans (List.prefix_append _ _)
    · have hhead := Text.head?_dropWhile_ne after
      rw [← hrest.text_eq] at hhead
      cases u with
      | nil => simp
      | cons c u => exact hhead
    · exact Text.getLast?_dropEndWhile_ne before
    · rwa [← hfront]
    · rwa [hrest.text_eq]

end Language

/-! ## Any wrapper -/

namespace Fragment

theorem dropEnding_of_not_suffix {ending t : Text}
    (h : ¬ ending <:+ dropEndWhile (fun c => c = '\r' || c = '\n') t) :
    dropEnding ending t = t := by
  rw [← List.reverse_prefix, ← Text.after?_eq_none_iff] at h
  unfold dropEnding
  simp only [h]

/-- Code without a wrapper is left alone. -/
theorem unwrap_eq_self {b : Text} (hopening : ¬ opening <+: b) (hempty : ¬ emptySpan <+: b)
    (hclosing : ¬ closing <:+ dropEndWhile (fun c => c = '\r' || c = '\n') b) : unwrap b = b := by
  rw [← Text.after?_eq_none_iff] at hopening hempty
  rw [unwrap, dropFront_of_none hopening, dropFront_of_none hempty,
    dropEnding_of_not_suffix hclosing]

/-- The closing does not complete an empty span. -/
theorem after?_emptySpan_append_closing {b : Text} (h : ¬ emptySpan <+: b) (t : Text) :
    after? emptySpan (b ++ (closing ++ t)) = none := by
  rw [Text.after?_eq_none_iff]
  intro hpre
  rcases List.prefix_or_prefix_of_prefix hpre (List.prefix_append b _) with hb | ⟨q, hq⟩
  · exact h hb
  · -- what is left of the span would start like the closing
    have hstart : ∀ q ∈ emptySpan.tails, q.take 3 <+: closing → q = [] := by decide
    rw [← hq, List.prefix_append_right_inj] at hpre
    have htake : q.take 3 <+: closing := by
      refine List.prefix_of_prefix_length_le ((List.take_prefix 3 q).trans hpre)
        (List.prefix_append _ _) ?_
      exact (List.length_take_le 3 q).trans (by decide)
    have hnil := hstart q ((List.mem_tails q emptySpan).2 ⟨b, hq⟩) htake
    rw [hnil, List.append_nil] at hq
    rw [hq] at h
    exact h List.prefix_rfl

end Fragment

namespace Language

/-- **Any output.** An output without its wrapper is divided at its first spans, in one way as far
as the texts are concerned. They are the fragments if their number is the expected one, which is
never zero. Code that does not look wrapped gives the same answer bare and wrapped. -/
theorem splitHighlighted_division (lang : Language) :
    (∀ output, ∃ d, lang.Divides (Fragment.unwrap output) d ∧
      (∀ d', lang.Divides (Fragment.unwrap output) d' → d'.parts = d.parts) ∧
      ∀ expected, lang.splitHighlighted output expected =
        if d.rest.length + 1 = expected then .ok (d.parts.map Fragment.wrap)
        else .error (.misaligned expected (d.rest.length + 1))) ∧
    ∀ b, ¬ Fragment.opening <+: b → ¬ Fragment.emptySpan <+: b →
      ¬ Fragment.closing <:+ dropEndWhile (fun c => c = '\r' || c = '\n') b →
      ∀ breaks, (∀ c ∈ breaks, c = '\r' ∨ c = '\n') → ∀ expected,
        let answer := lang.splitHighlighted b expected
        lang.splitHighlighted (Fragment.opening ++ b ++ Fragment.closing) expected = answer ∧
          lang.splitHighlighted (Fragment.opening ++ Fragment.emptySpan ++ b ++
            Fragment.closing ++ breaks) expected = answer := by
  constructor
  · intro output
    obtain ⟨d, hd⟩ := lang.exists_divides (Fragment.unwrap output)
    have hcut := cut_eq_parts hd
    refine ⟨d, hd, fun d' hd' => (cut_eq_parts hd').symm.trans hcut, fun expected => ?_⟩
    unfold splitHighlighted
    simp only [hcut, Division.length_parts]
  · intro b hopening hempty hclosing breaks hbreaks expected answer
    have hbare := Fragment.unwrap_eq_self hopening hempty hclosing
    have hwrapped : Fragment.unwrap (Fragment.opening ++ b ++ Fragment.closing) = b := by
      have hnone := Fragment.after?_emptySpan_append_closing hempty []
      have h := Fragment.unwrap_of_none (fun c hc => absurd hc List.not_mem_nil) hnone
      rwa [List.append_nil, ← List.append_assoc] at h
    have hspan : Fragment.unwrap (Fragment.opening ++ Fragment.emptySpan ++ b ++
        Fragment.closing ++ breaks) = b := by
      have h := Fragment.unwrap_emptySpan b hbreaks
      simpa only [List.append_assoc] using h
    have heq : ∀ output, Fragment.unwrap output = b →
        lang.splitHighlighted output expected = answer := by
      intro output h
      show lang.splitHighlighted output expected = lang.splitHighlighted b expected
      unfold splitHighlighted
      rw [h, hbare]
    exact ⟨heq _ hwrapped, heq _ hspan⟩

/-- A symbol whose span overlaps itself, and a bare output with three halves of such spans. -/
theorem splitHighlighted_division_overlap :
    let lang : Language := ⟨"x".toList, "DIVIDER</span><span class=\"c\">".toList, .line⟩
    let half := "<span class=\"c\">DIVIDER</span>".toList
    let b := "a\n".toList ++ half ++ half ++ half ++ "\nb".toList
    lang.splitHighlighted (Fragment.opening ++ Fragment.emptySpan ++ b ++ Fragment.closing ++
        ['\r', '\n']) 2 =
      .ok [Fragment.wrap "a".toList, Fragment.wrap (half ++ "\nb".toList)] := by
  intro lang half b
  have h := splitHighlighted_division lang
  have hopening : ¬ Fragment.opening <+: b := by decide
  have hempty : ¬ Fragment.emptySpan <+: b := by decide
  have hclosing : ¬ Fragment.closing <:+ dropEndWhile (fun c => c = '\r' || c = '\n') b := by
    decide
  obtain ⟨d, hd, hunique, hanswer⟩ := h.1 b
  rw [Fragment.unwrap_eq_self hopening hempty hclosing] at hunique
  have hparts := hunique ⟨"a".toList, [(⟨1, false, 0⟩, half ++ "\nb".toList)]⟩
    ⟨by decide, by decide, by decide, by decide, by decide⟩
  have hlen : d.rest.length + 1 = 2 := by
    rw [← Division.length_parts, ← hparts]
    rfl
  have hbreaks : ∀ c ∈ ['\r', '\n'], c = '\r' ∨ c = '\n' := by simp
  rw [(h.2 b hopening hempty hclosing ['\r', '\n'] hbreaks 2).2, hanswer 2, if_pos hlen, ← hparts]
  rfl

end Language

end Marginalia
