import Marginalia.Proofs.CommentPattern
import Marginalia.Proofs.PatternRemoval
import Marginalia.Proofs.SpanCuts

/-!
# Dividers and their pattern

Highlighted code is cut at its highlighted marks, and the line feeds around a mark go with it. The
same texts stand between the matches of one pattern.

1. What is read from the pattern is known for every symbol (`ofText_dividerPattern`).
2. There is a match where line feeds, or nothing, lead to a mark; it goes on to the end of the line
   feeds behind the mark (`head?_tries_divider`).
3. So a search finds the first mark with the line feeds around it (`findFrom?_divider`), and what is
   cut are the texts between the matches (`cut_drop_eq_split`, `cut_pattern`).
-/

namespace Marginalia

open Marginalia.Language (isLineFeed literalPattern spanClass spanTag)

namespace Pattern

variable {t rest : Text} {ps : List Pattern} {i : Nat}

/-! ## Line feeds and a character that may stand there -/

/-- Line feeds, as many as there are. -/
def feedRun : Pattern := .times (.one (Class.one '\n')) 0 none

/-- A character, if it stands there. -/
def maybe (c : Char) : Pattern := .times (.one (Class.one c)) 0 (some 1)

theorem has_feed (c : Char) : (Class.one '\n').has c = isLineFeed c := by
  rw [Bool.eq_iff_iff, has_one_iff, isLineFeed, decide_eq_true_iff, eq_comm]

theorem run_parts_feed {n : Nat} {done : List (Option Pattern)} :
    (parts (n + 1) done).run (plain i ('\\' :: 'n' :: t)) =
      (parts n (some (.one (Class.one '\n')) :: done)).run (plain (i + 2) t) :=
  run_parts_single (by decide) rfl

/-- A text is its line feeds and what stands behind them. -/
theorem exists_run (hi : i ≤ t.length) :
    ∃ run, t.drop i = run ++ (t.drop i).dropWhile isLineFeed ∧
      (∀ c ∈ run, (Class.one '\n').has c = true) ∧
      ((t.drop i).dropWhile isLineFeed).head?.any (Class.one '\n').has = false ∧
      run.length ≤ t.length + 1 ∧
      i + run.length = t.length - ((t.drop i).dropWhile isLineFeed).length := by
  have hsplit : (t.drop i).takeWhile isLineFeed ++ (t.drop i).dropWhile isLineFeed = t.drop i :=
    List.takeWhile_append_dropWhile
  have hlength := congrArg List.length hsplit
  rw [List.length_append, List.length_drop] at hlength
  refine ⟨_, hsplit.symm, fun c hc => ?_, ?_, by omega, by omega⟩
  · rw [has_feed]
    exact List.mem_takeWhile_imp hc
  · have hbehind := List.head?_dropWhile_not isLineFeed (t.drop i)
    rw [funext has_feed]
    revert hbehind
    cases ((t.drop i).dropWhile isLineFeed).head? <;> simp

/-- Line feeds are passed as a whole. -/
theorem head?_tries_feedRun (hi : i ≤ t.length) : (tries t.toArray feedRun i).head? =
    some (t.length - ((t.drop i).dropWhile isLineFeed).length) := by
  obtain ⟨run, hdrop, hrun, hrest, hn, hplace⟩ := exists_run hi
  rw [feedRun, tries_many, List.size_toArray, head?_repeated_run hdrop hrun hrest hn, hplace]

/-- Line feeds are passed as a whole if no match begins with one. -/
theorem head?_leads_feedRun (hi : i ≤ t.length)
    (hps : ∀ k, (t.drop k).head? = some '\n' → leads t.toArray ps k = []) :
    (leads t.toArray (feedRun :: ps) i).head? =
      (leads t.toArray ps (t.length - ((t.drop i).dropWhile isLineFeed).length)).head? := by
  obtain ⟨run, hdrop, hrun, hrest, hn, hplace⟩ := exists_run hi
  rw [leads, feedRun, tries_many, List.head?_flatMap, List.size_toArray, ← hplace]
  apply findSome?_repeated_run hdrop hrun hrest hn
  intro k hk
  rw [hps, List.head?_nil]
  rw [← List.drop_drop, hdrop, List.head?_drop, List.getElem?_append_left hk,
    List.getElem?_eq_getElem hk]
  have hfeed := has_one_iff.1 (hrun _ (List.getElem_mem hk))
  rw [← hfeed]

/-- A character that may stand there is passed first, and then left out. -/
theorem head?_leads_maybe (c : Char) (ps : List Pattern) (t : Text) (i : Nat) :
    (leads t.toArray (maybe c :: ps) i).head? =
      ((Text.after? [c] (t.drop i)).bind fun _ => (leads t.toArray ps (i + 1)).head?).or
        (leads t.toArray ps i).head? := by
  rw [leads, maybe, tries_maybe, List.head?_flatMap, repeated, List.findSome?_append,
    List.findSome?_singleton]
  congr 1
  cases hdrop : t.drop i with
  | nil =>
    rw [tries_one_of_drop_eq_nil hdrop]
    rfl
  | cons d rest =>
    rw [tries_one_of_drop hdrop]
    by_cases hd : c = d
    · have hstep : ([i + 1].filter fun j => decide (j ≠ i)) = [i + 1] := by simp
      rw [if_pos (has_one_iff.2 hd), hstep, List.flatMap_singleton, repeated,
        List.findSome?_singleton, hd, Text.after?, if_pos rfl]
      rfl
    · rw [if_neg fun h => hd (has_one_iff.1 h), Text.after?_cons_of_ne hd]
      rfl

end Pattern

namespace Language

open Pattern (feedRun maybe literal length_le_literalPattern head?_literalPattern_append)

/-! ## The pattern of a divider -/

/-- What stands in front of the class of a highlighted mark, as far as both classes agree. -/
def spanFront : Text := "<span class=\"c".toList

/-- What stands behind the class of a highlighted mark. -/
def spanBack (lang : Language) : Text := "\">".toList ++ (lang.mark ++ "</span>".toList)

/-- Line feeds, a highlighted mark, and line feeds. -/
def dividerMatcher (lang : Language) : Pattern :=
  .sequence (feedRun :: (literal spanFront ++
    maybe '1' :: (literal lang.spanBack ++ [feedRun])))

/-- What the pattern of a language's divider says, whatever the symbol is. -/
theorem ofText_dividerPattern (lang : Language) :
    Pattern.ofText lang.dividerPattern = .ok lang.dividerMatcher := by
  have hopening : "\\n*<span class=\"c1?\">".toList = '\\' :: 'n' :: '*' ::
      (literalPattern spanFront ++ '1' :: '?' :: "\">".toList) := by decide
  have hassoc (a b u v : Text) : '\\' :: 'n' :: '*' :: (a ++ '1' :: '?' :: b) ++ u ++ v =
      '\\' :: 'n' :: '*' :: (a ++ '1' :: '?' :: (b ++ (u ++ v))) := by simp
  have hback : "\">".toList ++ (literalPattern lang.symbol ++ "DIVIDER</span>\\n*".toList) =
      literalPattern lang.spanBack ++ ['\\', 'n', '*'] := by
    simp only [spanBack, mark, literalPattern, List.flatMap_append, List.append_assoc]
    rfl
  have htext : lang.dividerPattern = '\\' :: 'n' :: '*' :: (literalPattern spanFront ++
      '1' :: '?' :: (literalPattern lang.spanBack ++ ['\\', 'n', '*'])) := by
    unfold dividerPattern
    rw [hopening, hassoc, hback]
  have hlength : lang.dividerPattern.length =
      (literalPattern spanFront).length + (literalPattern lang.spanBack).length + 8 := by
    rw [htext]
    simp only [List.length_cons, List.length_append, List.length_nil]
    omega
  have hfront := length_le_literalPattern spanFront
  have hrest := length_le_literalPattern lang.spanBack
  obtain ⟨n, hn⟩ : ∃ n, 3 * lang.dividerPattern.length + 2 =
      ((n + 1 + 1 + 1 + lang.spanBack.length) + 1 + 1 + spanFront.length) + 1 + 1 :=
    ⟨3 * lang.dividerPattern.length + 2 - (lang.spanBack.length + spanFront.length + 7), by omega⟩
  have hend := head?_literalPattern_append (t := ['\\', 'n', '*']) lang.spanBack (by decide)
  have hhead := head?_literalPattern_append (t := '1' :: '?' :: (literalPattern lang.spanBack ++
    ['\\', 'n', '*'])) spanFront (by simp)
  apply Pattern.ofText_of_run (j := 0 + 2 + 1 + (literalPattern spanFront).length + 1 + 1 +
    (literalPattern lang.spanBack).length + 2 + 1)
  rw [hn, htext, Pattern.run_parts_feed, Pattern.run_parts_repeat (Or.inl rfl) hhead,
    Pattern.run_parts_literal, Pattern.run_parts_char (by decide),
    Pattern.run_parts_repeat (Or.inr rfl) hend, Pattern.run_parts_literal, Pattern.run_parts_feed,
    Pattern.run_parts_repeat (Or.inl rfl) (by decide), Pattern.run_parts_nil]
  simp [dividerMatcher, feedRun, maybe, List.filterMap_map]

/-! ## Matches -/

variable {lang : Language} {t after before : Text} {i : Nat}

/-- A highlighted mark in its parts. -/
theorem afterSpan?_eq (lang : Language) (t : Text) : lang.afterSpan? t =
    (Text.after? spanFront t).bind fun u =>
      ((Text.after? ['1'] u).bind (Text.after? lang.spanBack)).or
        (Text.after? lang.spanBack u) := by
  have hlong : spanTag true = spanFront ++ (['1'] ++ "\">".toList) := by decide
  have hshort : spanTag false = spanFront ++ "\">".toList := by decide
  have htrue : lang.span ['c', '1'] = spanFront ++ (['1'] ++ lang.spanBack) := by
    show lang.span (spanClass true) = _
    rw [span_spanClass, hlong, spanBack, List.append_assoc, List.append_assoc]
  have hfalse : lang.span ['c'] = spanFront ++ lang.spanBack := by
    show lang.span (spanClass false) = _
    rw [span_spanClass, hshort, spanBack, List.append_assoc]
  rw [afterSpan?, htrue, hfalse, Text.after?_append_left, Text.after?_append_left]
  cases Text.after? spanFront t with
  | none => rfl
  | some u => rw [Option.bind_some, Option.bind_some, Option.bind_some, Text.after?_append_left]

/-- The line feeds behind a mark belong to a match. -/
def matchEnd (t after : Text) : Nat := t.length - (after.dropWhile isLineFeed).length

theorem drop_matchEnd (h : after <:+ t) :
    t.drop (matchEnd t after) = after.dropWhile isLineFeed :=
  (List.suffix_iff_eq_drop.1 ((List.dropWhile_suffix _).trans h)).symm

theorem head?_leads_spanBack (lang : Language) (hi : i ≤ t.length) :
    (Pattern.leads t.toArray (literal lang.spanBack ++ [feedRun]) i).head? =
      (Text.after? lang.spanBack (t.drop i)).map (matchEnd t) := by
  rw [Pattern.head?_leads_literal_append _ _ hi]
  cases hafter : Text.after? lang.spanBack (t.drop i) with
  | none => rfl
  | some rest =>
    rw [Option.bind_some, Pattern.leads_singleton,
      Pattern.head?_tries_feedRun (Nat.sub_le _ _), Pattern.drop_of_after? hafter]
    rfl

/-- From a place on, a mark and the line feeds behind it. -/
theorem head?_leads_span (lang : Language) (hi : i ≤ t.length) :
    (Pattern.leads t.toArray
      (literal spanFront ++ maybe '1' :: (literal lang.spanBack ++ [feedRun])) i).head? =
        (lang.afterSpan? (t.drop i)).map (matchEnd t) := by
  rw [Pattern.head?_leads_literal_append _ _ hi, afterSpan?_eq]
  cases hfront : Text.after? spanFront (t.drop i) with
  | none => rfl
  | some u =>
    have hdrop := Pattern.drop_of_after? hfront
    rw [Option.bind_some, Option.bind_some, Pattern.head?_leads_maybe, hdrop,
      head?_leads_spanBack lang (Nat.sub_le _ _), hdrop, Option.map_or]
    congr 1
    cases hone : Text.after? ['1'] u with
    | none => rfl
    | some v =>
      obtain rfl := Text.after?_eq_some_iff.1 hone
      have hlength := congrArg List.length hdrop
      rw [List.length_drop, List.length_append, List.length_singleton] at hlength
      have hplace : t.length - (['1'] ++ v).length + 1 ≤ t.length := by
        rw [List.length_append, List.length_singleton]
        omega
      rw [Option.bind_some, Option.bind_some, head?_leads_spanBack lang hplace,
        Pattern.drop_succ_of_drop hdrop]
      rfl

/-- **Matches of the pattern.** Where line feeds, or nothing, lead to a mark, there is a match, and
it goes on to the end of the line feeds behind the mark. -/
theorem head?_tries_divider (lang : Language) (hi : i ≤ t.length) :
    (Pattern.tries t.toArray lang.dividerMatcher i).head? =
      (lang.afterSpan? ((t.drop i).dropWhile isLineFeed)).map (matchEnd t) := by
  have hfeed : ∀ k, (t.drop k).head? = some '\n' → Pattern.leads t.toArray
      (literal spanFront ++ maybe '1' :: (literal lang.spanBack ++ [feedRun])) k = [] := by
    intro k hk
    obtain ⟨rest, hrest⟩ := List.head?_eq_some_iff.1 hk
    have hlength := congrArg List.length hrest
    rw [List.length_drop, List.length_cons] at hlength
    rw [← List.head?_eq_none_iff, head?_leads_span lang (by omega), hrest,
      lang.afterSpan?_of_ne (by decide)]
    rfl
  have hrest : (t.drop i).dropWhile isLineFeed <:+ t :=
    (List.dropWhile_suffix _).trans (List.drop_suffix i t)
  rw [dividerMatcher, Pattern.tries_sequence, Pattern.head?_leads_feedRun hi hfeed,
    head?_leads_span lang (Nat.sub_le _ _), ← List.suffix_iff_eq_drop.1 hrest]

/-! ## The first match -/

/-- A mark that line feeds lead to is the first one. -/
theorem breakOnSpan?_of_feeds (h : lang.afterSpan? (t.dropWhile isLineFeed) = some after) :
    ∃ n, lang.breakOnSpan? t = some (Text.feeds n, after) := by
  obtain ⟨n, ht⟩ := Text.exists_feeds_append t
  obtain ⟨long, hspan⟩ := afterSpan?_eq_some_iff.1 h
  refine ⟨n, ?_⟩
  rw [ht, lang.breakOnSpan?_append (Text.not_mem_feeds (by decide) n), hspan, breakOnSpan?_span,
    Option.map_some, List.append_nil]

/-- Where line feeds do not lead to a mark, the character stays when the text in front of the mark is
trimmed. -/
theorem dropEndWhile_cons_of_none {c : Char} {rest : Text}
    (hnone : lang.afterSpan? ((c :: rest).dropWhile isLineFeed) = none)
    (hfound : lang.breakOnSpan? rest = some (before, after)) :
    Text.dropEndWhile isLineFeed (c :: before) = c :: Text.dropEndWhile isLineFeed before := by
  obtain ⟨long, rfl, -⟩ := exists_of_breakOnSpan? hfound
  unfold Text.dropEndWhile
  rw [List.reverse_cons, List.dropWhile_append]
  split_ifs with hempty
  · rw [List.isEmpty_iff] at hempty
    have hc : isLineFeed c = false := by
      rw [← Bool.not_eq_true]
      intro hc
      have hall : ∀ d ∈ c :: before, isLineFeed d = true := by
        intro d hd
        rcases List.mem_cons.1 hd with rfl | hd
        · exact hc
        · exact List.dropWhile_eq_nil_iff.1 hempty d (List.mem_reverse.2 hd)
      obtain ⟨u, hu⟩ := lang.span_eq_cons (spanClass long)
      have hhead : (lang.span (spanClass long) ++ after).head? ≠ some '\n' := by
        rw [hu]
        simp
      rw [← List.cons_append, List.dropWhile_append_of_pos hall, Text.dropWhile_eq_self hhead,
        afterSpan?_span] at hnone
      cases hnone
    rw [hempty, List.dropWhile_cons_of_neg (by simp [hc])]
    rfl
  · rw [List.reverse_append]
    rfl

/-- **The first match** takes the line feeds around the first mark. -/
theorem findFrom?_divider (lang : Language) (hi : i ≤ t.length) :
    lang.dividerMatcher.findFrom? t i = (lang.breakOnSpan? (t.drop i)).map fun parts =>
      (i + (Text.dropEndWhile isLineFeed parts.1).length, matchEnd t parts.2) := by
  have hmatch := head?_tries_divider lang hi
  generalize hdrop : t.drop i = body at hmatch ⊢
  induction body generalizing i with
  | nil =>
    have hend := List.drop_eq_nil_iff.1 hdrop
    have hnone : Pattern.tries t.toArray lang.dividerMatcher i = [] :=
      List.head?_eq_none_iff.1 hmatch
    rw [Pattern.findFrom?_of_none hnone, Pattern.findFrom?_of_lt _ (by omega)]
    rfl
  | cons c rest ih =>
    cases hspan : lang.afterSpan? ((c :: rest).dropWhile isLineFeed) with
    | some after =>
      obtain ⟨n, hfirst⟩ := breakOnSpan?_of_feeds hspan
      have hfeeds : Text.dropEndWhile isLineFeed (Text.feeds n) = [] :=
        Text.dropEndWhile_append_feeds (t := []) (by simp) n
      rw [hspan] at hmatch
      rw [Pattern.findFrom?_of_match hi hmatch, hfirst, Option.map_some, hfeeds]
      rfl
    | none =>
      have hhere : lang.afterSpan? (c :: rest) = none := by
        by_cases hc : c = '\n'
        · exact lang.afterSpan?_of_ne (by rw [hc]; decide) rest
        · rw [List.dropWhile_cons_of_neg (by simp [isLineFeed, hc])] at hspan
          exact hspan
      have hlength := congrArg List.length hdrop
      rw [List.length_drop, List.length_cons] at hlength
      have hrest := Pattern.drop_succ_of_drop hdrop
      have hi' : i + 1 ≤ t.length := by omega
      rw [hspan] at hmatch
      rw [Pattern.findFrom?_of_none (List.head?_eq_none_iff.1 hmatch),
        ih hi' hrest (hrest ▸ head?_tries_divider lang hi'), lang.breakOnSpan?_cons_of_none hhere]
      cases hfound : lang.breakOnSpan? rest with
      | none => rfl
      | some parts =>
        obtain ⟨before, after⟩ := parts
        rw [Option.map_some, Option.map_some, Option.map_some,
          dropEndWhile_cons_of_none hspan hfound, List.length_cons, Nat.add_assoc, Nat.add_comm 1]

/-- The first match holds the first mark, and begins where the text in front of it is trimmed. -/
theorem exists_of_findFrom? {start stop : Nat} (hi : i ≤ t.length)
    (h : lang.dividerMatcher.findFrom? t i = some (start, stop)) :
    ∃ before after, lang.breakOnSpan? (t.drop i) = some (before, after) ∧ start < stop ∧
      (t.take start).drop i = Text.dropEndWhile isLineFeed before ∧
      t.drop stop = after.dropWhile isLineFeed := by
  rw [findFrom?_divider lang hi, Option.map_eq_some_iff] at h
  obtain ⟨⟨before, after⟩, hfound, heq⟩ := h
  obtain ⟨rfl, rfl⟩ := Prod.mk.inj heq
  obtain ⟨long, htext, -⟩ := exists_of_breakOnSpan? hfound
  obtain ⟨n, hbefore⟩ := Text.exists_append_feeds before
  have hafter : after <:+ t := by
    refine List.IsSuffix.trans ?_ (List.drop_suffix i t)
    rw [htext, ← List.append_assoc]
    exact List.suffix_append _ _
  refine ⟨before, after, hfound, ?_, ?_, drop_matchEnd hafter⟩
  · have hlength := congrArg List.length htext
    have hspan := List.length_pos_iff.2 (span_ne_nil lang (spanClass long))
    have htrim := congrArg List.length hbefore
    have hfeeds := (List.dropWhile_suffix isLineFeed (l := after)).length_le
    rw [List.length_drop, List.length_append, List.length_append] at hlength
    rw [List.length_append] at htrim
    show i + (Text.dropEndWhile isLineFeed before).length <
      t.length - (after.dropWhile isLineFeed).length
    omega
  · rw [List.drop_take, Nat.add_sub_cancel_left, htext]
    nth_rewrite 2 [hbefore]
    rw [List.append_assoc, List.take_left]

/-! ## Cutting -/

/-- From a place on, what is cut are the texts between the matches. -/
theorem cut_drop_eq_split (lang : Language) (hi : i ≤ t.length) :
    lang.cut (t.drop i) = lang.dividerMatcher.split t i := by
  have hfind := findFrom?_divider lang hi
  generalize hdrop : t.drop i = body at hfind ⊢
  fun_induction lang.cut body generalizing i with
  | case1 body hnone =>
    rw [hnone] at hfind
    rw [Pattern.split_of_none hfind, hdrop]
  | case2 body before after hsome ih =>
    rw [hsome, Option.map_some] at hfind
    obtain ⟨before', after', hsome', hlt, hfront, hstop⟩ := exists_of_findFrom? hi hfind
    rw [hdrop, hsome] at hsome'
    cases hsome'
    have hle : matchEnd t after ≤ t.length := Nat.sub_le _ _
    rw [Pattern.split_of_some hfind hlt, hfront,
      ih hle hstop (hstop ▸ findFrom?_divider lang hle)]

/-- **Highlighted code is cut at its pattern.** The pattern of a divider can be read and has no match
without characters, and the texts between its matches are what is cut, whatever the symbol is. -/
theorem cut_pattern (lang : Language) : ∃ pattern,
    Pattern.ofText lang.dividerPattern = .ok pattern ∧
      (∀ body i start stop, pattern.findFrom? body i = some (start, stop) → start < stop) ∧
      ∀ body, lang.cut body = pattern.split body 0 := by
  refine ⟨_, lang.ofText_dividerPattern, fun body i start stop h => ?_,
    fun body => lang.cut_drop_eq_split (Nat.zero_le body.length)⟩
  have hplace := Pattern.le_of_findFrom? h
  obtain ⟨before, after, -, hlt, -⟩ := exists_of_findFrom? (hplace.1.trans hplace.2) h
  exact hlt

end Language

end Marginalia
