import Marginalia.Proofs.LineEndings
import Marginalia.Proofs.PatternSearch
import Marginalia.Proofs.PatternText

/-!
# Comment lines and their patterns

A line is marked if only blanks stand before the comment symbol. The symbol may itself begin with
blanks, or be empty, so there may be several places for it; the last one counts.

1. `afterSymbol?` finds it: what it answers comes after the most blanks
   (`exists_opens_of_afterSymbol?`, `afterSymbol?_of_longest`).
2. A literal text leads past itself (`leads_literal`), and blanks lead to each place among them, the
   last one first, so that the first match after blanks is what `afterSymbol?` finds
   (`findSome?_repeated_blank`).
3. So the patterns of a language find what the rules for its lines say (`find?_matcher`,
   `occursIn_filter`, `comment_rules`).
-/

namespace Marginalia

namespace Language

/-! ## The place of the symbol -/

/-- `line` is `w`, which is blank, then the symbol, then `rest`. -/
def Opens (symbol line w rest : Text) : Prop :=
  Text.allBlank w = true ∧ line = w ++ (symbol ++ rest)

/-- No more blanks than `w` can stand before the symbol. -/
def Longest (symbol line w : Text) : Prop :=
  ∀ w' rest', Opens symbol line w' rest' → w'.length ≤ w.length

variable {symbol line w rest : Text} {c : Char}

theorem opens_nil_iff : Opens symbol line [] rest ↔ Text.after? symbol line = some rest := by
  rw [Text.after?_eq_some_iff]
  exact ⟨fun h => h.2, fun h => ⟨rfl, h⟩⟩

theorem opens_cons_iff {b : Char} :
    Opens symbol (c :: line) (b :: w) rest ↔
      b = c ∧ isBlank c = true ∧ Opens symbol line w rest := by
  unfold Opens Text.allBlank
  rw [List.all_cons, Bool.and_eq_true, List.cons_append, List.cons.injEq]
  constructor
  · rintro ⟨⟨hb, hw⟩, rfl, hline⟩
    exact ⟨rfl, hb, hw, hline⟩
  · rintro ⟨rfl, hb, hw, hline⟩
    exact ⟨⟨hb, hw⟩, rfl, hline⟩

/-- The blanks in front of a line determine what follows the symbol. -/
theorem Opens.unique {w' rest' : Text} (h : Opens symbol line w rest)
    (h' : Opens symbol line w' rest') (hlength : w.length = w'.length) : rest = rest' := by
  have heq := h.2.symm.trans h'.2
  obtain ⟨-, hparts⟩ := List.append_inj heq hlength
  exact List.append_cancel_left hparts

theorem afterSymbol?_eq_none_iff :
    afterSymbol? symbol line = none ↔ ∀ w rest, ¬ Opens symbol line w rest := by
  induction line with
  | nil =>
    rw [afterSymbol?, Option.eq_none_iff_forall_ne_some]
    constructor
    · intro h w rest hopens
      obtain ⟨rfl, -⟩ := List.append_eq_nil_iff.1 hopens.2.symm
      exact h rest (opens_nil_iff.1 hopens)
    · intro h rest hrest
      exact h [] rest (opens_nil_iff.2 hrest)
  | cons c line ih =>
    rw [afterSymbol?]
    constructor
    · intro h w rest hopens
      cases w with
      | nil =>
        rw [opens_nil_iff.1 hopens, Option.or_some] at h
        split_ifs at h
      | cons b w =>
        obtain ⟨-, hblank, hopens⟩ := opens_cons_iff.1 hopens
        rw [if_pos hblank, Option.or_eq_none_iff] at h
        exact ih.1 h.1 w rest hopens
    · intro h
      have hhere : Text.after? symbol (c :: line) = none := by
        rw [Option.eq_none_iff_forall_ne_some]
        intro rest hrest
        exact h [] rest (opens_nil_iff.2 hrest)
      split_ifs with hblank
      · rw [Option.or_eq_none_iff]
        exact ⟨ih.2 fun w rest hopens => h (c :: w) rest (opens_cons_iff.2 ⟨rfl, hblank, hopens⟩),
          hhere⟩
      · exact hhere

theorem exists_opens_of_afterSymbol? (h : afterSymbol? symbol line = some rest) :
    ∃ w, Opens symbol line w rest ∧ Longest symbol line w := by
  induction line with
  | nil =>
    refine ⟨[], opens_nil_iff.2 h, fun w' rest' hopens => ?_⟩
    obtain ⟨rfl, -⟩ := List.append_eq_nil_iff.1 hopens.2.symm
    exact Nat.le_refl _
  | cons c line ih =>
    rw [afterSymbol?] at h
    -- the symbol stands here only if it does not stand after a further blank
    have hfront (hnone : isBlank c = true → afterSymbol? symbol line = none)
        (hhere : Text.after? symbol (c :: line) = some rest) :
        ∃ w, Opens symbol (c :: line) w rest ∧ Longest symbol (c :: line) w := by
      refine ⟨[], opens_nil_iff.2 hhere, fun w' rest' hopens => ?_⟩
      cases w' with
      | nil => exact Nat.le_refl _
      | cons b w' =>
        obtain ⟨-, hblank, hopens⟩ := opens_cons_iff.1 hopens
        exact absurd hopens (afterSymbol?_eq_none_iff.1 (hnone hblank) w' rest')
    split_ifs at h with hblank
    · rw [Option.or_eq_some_iff] at h
      rcases h with h | ⟨hnone, hhere⟩
      · obtain ⟨w, hopens, hlongest⟩ := ih h
        refine ⟨c :: w, opens_cons_iff.2 ⟨rfl, hblank, hopens⟩, fun w' rest' hopens' => ?_⟩
        cases w' with
        | nil => exact Nat.zero_le _
        | cons b w' =>
          exact Nat.succ_le_succ (hlongest w' rest' (opens_cons_iff.1 hopens').2.2)
      · exact hfront (fun _ => hnone) hhere
    · exact hfront (fun hyes => absurd hyes hblank) h

/-- The last place of the symbol is the one that counts. -/
theorem afterSymbol?_of_longest (h : Opens symbol line w rest) (hlongest : Longest symbol line w) :
    afterSymbol? symbol line = some rest := by
  cases hafter : afterSymbol? symbol line with
  | none => exact absurd h (afterSymbol?_eq_none_iff.1 hafter w rest)
  | some rest' =>
    obtain ⟨w', hopens', hlongest'⟩ := exists_opens_of_afterSymbol? hafter
    have hlength : w'.length = w.length :=
      Nat.le_antisymm (hlongest w' rest' hopens') (hlongest' w rest h)
    rw [hopens'.unique h hlength]

theorem marks_iff {lang : Language} :
    lang.marks line = true ↔ ∃ w rest, Opens lang.symbol line w rest := by
  unfold marks
  rw [← Option.ne_none_iff_isSome, ne_eq, afterSymbol?_eq_none_iff]
  push Not
  rfl

/-- A symbol that begins with no blank can only stand after all blanks. -/
theorem isSome_afterSymbol?_of_first (hc : isBlank c = false) :
    (afterSymbol? (c :: symbol) line).isSome =
      (c :: symbol).isPrefixOf (line.dropWhile isBlank) := by
  induction line with
  | nil => rfl
  | cons d line ih =>
    rw [afterSymbol?]
    split_ifs with hblank
    · have hnone : Text.after? (c :: symbol) (d :: line) = none := by
        refine Text.after?_cons_of_ne ?_ _ _
        rintro rfl
        rw [hblank] at hc
        cases hc
      rw [hnone, Option.or_none, ih, List.dropWhile_cons_of_pos hblank]
    · rw [List.dropWhile_cons_of_neg hblank, Bool.eq_iff_iff, List.isPrefixOf_iff_prefix,
        ← Option.ne_none_iff_isSome, ne_eq, Text.after?_eq_none_iff, not_not]

/-- A line is spared if it begins like an interpreter line, or with an interpolation after
blanks. -/
theorem isSpared_iff : isSpared line = true ↔
    ['#', '!', '/'] <+: line ∨ ∃ w, Text.allBlank w = true ∧ w ++ ['#', '\x7b'] <+: line := by
  unfold isSpared
  rw [Bool.or_eq_true, List.isPrefixOf_iff_prefix, ← isSome_afterSymbol?_of_first (by decide),
    ← Option.ne_none_iff_isSome, ne_eq, afterSymbol?_eq_none_iff]
  push Not
  unfold Opens
  refine or_congr_right ⟨?_, ?_⟩
  · rintro ⟨w, rest, hw, rfl⟩
    exact ⟨w, hw, rest, List.append_assoc _ _ _⟩
  · rintro ⟨w, hw, rest, rfl⟩
    exact ⟨w, rest, hw, List.append_assoc _ _ _⟩

end Language

namespace Pattern

open Marginalia.Language (afterSymbol? dropBlank)

/-! ## Literal texts and blanks -/

variable {text : Array Char} {ps : List Pattern} {line symbol rest : Text} {i n : Nat}

/-- A literal text leads past itself, and nowhere if it does not stand there. -/
theorem leads_literal (s : Text) (line : Text) (i : Nat) : leads line.toArray (literal s) i =
    if s <+: line.drop i then [i + s.length] else [] := by
  induction s generalizing i with
  | nil =>
    rw [if_pos (List.nil_prefix)]
    rfl
  | cons a s ih =>
    show (tries line.toArray (.one (Class.one a)) i).flatMap (leads line.toArray (literal s)) = _
    cases hdrop : line.drop i with
    | nil =>
      rw [tries_one_of_drop_eq_nil hdrop, if_neg (by simp)]
      rfl
    | cons b rest =>
      rw [tries_one_of_drop hdrop]
      by_cases hab : a = b
      · rw [if_pos (has_one_iff.2 hab), List.flatMap_singleton, ih, drop_succ_of_drop hdrop,
          List.length_cons, Nat.add_assoc, Nat.add_comm 1]
        simp only [List.cons_prefix_cons, hab, true_and]
      · rw [if_neg fun h => hab (has_one_iff.1 h),
          if_neg fun h => hab (List.cons_prefix_cons.1 h).1]
        rfl

/-- A match goes past a blank, if there is one. -/
theorem head?_tries_maybeBlank (h : line.drop i = rest) (hi : i ≤ line.length) :
    (tries line.toArray maybeBlank i).head? = some (line.length - (dropBlank rest).length) := by
  have hlength : line.length = i + rest.length := by
    rw [← h, List.length_drop]
    omega
  rw [maybeBlank, head?_tries_maybe h]
  cases rest with
  | nil => simp [dropBlank, hlength]
  | cons c rest =>
    rw [List.length_cons] at hlength
    rw [List.head?_cons, Option.any_some, dropBlank]
    show some (if isBlank c = true then i + 1 else i) = _
    split_ifs
    · rw [hlength, Nat.add_comm rest.length, ← Nat.add_assoc, Nat.add_sub_cancel]
    · rw [hlength, List.length_cons, Nat.add_sub_cancel]

/-! ## After blanks -/

/-- **The first match after blanks is the one after the most blanks.** If from every place there is
what is found after a symbol there, then from the places among blanks it is what is found after the
symbol that counts. -/
theorem findSome?_repeated_blank {β : Type} {f : Nat → Option β} {found : Text → β}
    (hf : ∀ i ≤ line.length, f i = (Text.after? symbol (line.drop i)).map found)
    (hi : i ≤ line.length) (hn : line.length ≤ i + n) :
    (repeated (tries line.toArray (.one (.kind .blank))) n i).findSome? f =
      (afterSymbol? symbol (line.drop i)).map found := by
  induction n generalizing i with
  | zero =>
    obtain rfl : i = line.length := by omega
    have hhere := hf line.length (Nat.le_refl _)
    unfold repeated
    rw [List.findSome?_singleton, hhere, List.drop_length]
    rfl
  | succ n ih =>
    unfold repeated
    rw [List.findSome?_append, List.findSome?_singleton, hf i hi]
    cases hdrop : line.drop i with
    | nil =>
      rw [tries_one_of_drop_eq_nil hdrop]
      rfl
    | cons c rest =>
      have hlength := congrArg List.length hdrop
      rw [List.length_drop, List.length_cons] at hlength
      rw [tries_one_of_drop hdrop, afterSymbol?]
      show Option.or (List.findSome? f (List.flatMap _ (List.filter _
        (if isBlank c = true then [i + 1] else [])))) _ = _
      split_ifs with hc
      · have hstep : ([i + 1].filter fun j => decide (j ≠ i)) = [i + 1] := by simp
        rw [hstep, List.flatMap_singleton, ih (by omega) (by omega), drop_succ_of_drop hdrop]
        cases afterSymbol? symbol rest <;> rfl
      · rfl

/-- Blanks and then patterns that begin with a symbol. -/
theorem head?_leads_blanks {found : Text → Nat}
    (hf : ∀ i ≤ line.length, (leads line.toArray ps i).head? =
      (Text.after? symbol (line.drop i)).map found) :
    (leads line.toArray (blanks :: ps) 0).head? = (afterSymbol? symbol line).map found := by
  rw [leads, blanks, tries_many, List.head?_flatMap]
  exact findSome?_repeated_blank hf (Nat.zero_le _) (by simp)

/-- Behind a literal text comes what the line ends with. -/
theorem drop_of_after? (h : Text.after? symbol (line.drop i) = some rest) :
    line.drop (line.length - rest.length) = rest :=
  (List.suffix_iff_eq_drop.1 ((Text.suffix_of_after? h).trans (List.drop_suffix i line))).symm

/-- Patterns behind a literal text match where the text ends. -/
theorem head?_leads_literal_append (symbol : Text) (ps : List Pattern) (hi : i ≤ line.length) :
    (leads line.toArray (literal symbol ++ ps) i).head? =
      (Text.after? symbol (line.drop i)).bind fun rest =>
        (leads line.toArray ps (line.length - rest.length)).head? := by
  rw [leads_append, leads_literal]
  cases hafter : Text.after? symbol (line.drop i) with
  | none =>
    rw [if_neg (Text.after?_eq_none_iff.1 hafter)]
    rfl
  | some rest =>
    have hdrop := Text.after?_eq_some_iff.1 hafter
    have hlength := congrArg List.length hdrop
    rw [List.length_drop, List.length_append] at hlength
    have hplace : i + symbol.length = line.length - rest.length := by omega
    rw [if_pos ⟨rest, hdrop.symm⟩, List.flatMap_singleton, hplace, Option.bind_some]

theorem head?_leads_literal (symbol : Text) (hi : i ≤ line.length) :
    (leads line.toArray (literal symbol) i).head? =
      (Text.after? symbol (line.drop i)).map fun rest => line.length - rest.length := by
  have h := head?_leads_literal_append symbol [] hi
  rw [List.append_nil] at h
  rw [h]
  cases Text.after? symbol (line.drop i) <;> rfl

/-- The comment symbol and a blank, where the symbol stands. -/
theorem head?_leads_symbol (symbol : Text) (hi : i ≤ line.length) :
    (leads line.toArray (literal symbol ++ [maybeBlank]) i).head? =
      (Text.after? symbol (line.drop i)).map fun rest => line.length - (dropBlank rest).length := by
  rw [head?_leads_literal_append symbol [maybeBlank] hi]
  cases hafter : Text.after? symbol (line.drop i) with
  | none => rfl
  | some rest =>
    rw [Option.bind_some, leads_singleton,
      head?_tries_maybeBlank (drop_of_after? hafter) (Nat.sub_le _ _)]
    rfl

end Pattern

namespace Language

open Pattern (Class blanks literal)

theorem find?_matcher (lang : Language) (line : Text) : lang.matcher.find? line =
    (afterSymbol? lang.symbol line).map fun rest => (0, line.length - (dropBlank rest).length) := by
  unfold matcher
  rw [Pattern.find?_textStart,
    Pattern.head?_leads_blanks fun i hi => Pattern.head?_leads_symbol lang.symbol hi,
    Option.map_map]
  rfl

theorem occursIn_matcher (lang : Language) (line : Text) :
    lang.matcher.occursIn line = lang.marks line := by
  rw [← Pattern.isSome_find?, find?_matcher, Option.isSome_map]
  rfl

theorem occursIn_filter (line : Text) : filter.occursIn line = isSpared line := by
  have hfront : (Pattern.leads line.toArray [.one (Class.one '#'), .one (Class.one '!'),
      .one (.union .none (Class.one '/'))] 0).head?.isSome =
        ['#', '!', '/'].isPrefixOf line := by
    show (Pattern.leads line.toArray (literal ['#', '!', '/']) 0).head?.isSome = _
    rw [Pattern.head?_leads_literal _ (Nat.zero_le _), Option.isSome_map, List.drop_zero,
      Bool.eq_iff_iff, List.isPrefixOf_iff_prefix, ← Option.ne_none_iff_isSome, ne_eq,
      Text.after?_eq_none_iff, not_not]
  have hafter : (Pattern.leads line.toArray (blanks :: literal "#\x7b".toList) 0).head?.isSome =
      ['#', '\x7b'].isPrefixOf (line.dropWhile isBlank) := by
    rw [Pattern.head?_leads_blanks fun i hi => Pattern.head?_leads_literal "#\x7b".toList hi,
      Option.isSome_map]
    exact isSome_afterSymbol?_of_first (by decide)
  unfold filter isSpared
  rw [Pattern.occursIn_either, Pattern.occursIn_textStart, Pattern.occursIn_textStart, hfront,
    hafter]

/-- What is left of a line begins where the match ends. -/
theorem strip_eq_find? (lang : Language) (line : Text) : lang.strip line =
    match lang.matcher.find? line with
    | some (_, stop) => line.drop stop
    | none => line := by
  rw [find?_matcher]
  unfold strip
  cases h : afterSymbol? lang.symbol line with
  | none => rfl
  | some rest =>
    have hsuffix := (dropBlank_suffix rest).trans (afterSymbol?_suffix h)
    exact List.suffix_iff_eq_drop.1 hsuffix

theorem dropBlank_eq (t : Text) :
    dropBlank t = if t.head?.any isBlank = true then t.tail else t := by
  cases t with
  | nil => rfl
  | cons c t => rfl

/-- **Comment lines and their patterns follow the same rules**, whatever the comment symbol is. A
line is marked if it is blanks, the symbol and a rest; what is left of it is the rest after the most
blanks, without one blank at its front, and a line that is not marked is left as it is. A line is a
comment if it is marked, does not begin like an interpreter line, and does not begin with blanks and
an interpolation. The patterns of the language can be read, the first tells the marked lines and
where they are cut, and the second the lines that are spared. -/
theorem comment_rules (lang : Language) :
    (∀ line, lang.marks line = true ↔ ∃ w rest, Opens lang.symbol line w rest) ∧
    (∀ line, lang.marks line = true →
      ∃ w rest, Opens lang.symbol line w rest ∧ Longest lang.symbol line w) ∧
    (∀ line w rest, Opens lang.symbol line w rest → Longest lang.symbol line w →
      lang.strip line = if rest.head?.any isBlank = true then rest.tail else rest) ∧
    (∀ line, (∀ w rest, ¬ Opens lang.symbol line w rest) → lang.strip line = line) ∧
    (∀ line, lang.isComment line = true ↔ (∃ w rest, Opens lang.symbol line w rest) ∧
      ¬ ['#', '!', '/'] <+: line ∧ ∀ w, Text.allBlank w = true → ¬ w ++ ['#', '\x7b'] <+: line) ∧
    (∀ line, ['#', '!', '/'] <+: line → lang.isComment line = false) ∧
    ∃ matcher filter, Pattern.ofText lang.commentPattern = .ok matcher ∧
      Pattern.ofText sparedPattern = .ok filter ∧
      ∀ line, matcher.occursIn line = lang.marks line ∧ filter.occursIn line = isSpared line ∧
        lang.isComment line = (matcher.occursIn line && !filter.occursIn line) ∧
        lang.strip line = match matcher.find? line with
          | some (_, stop) => line.drop stop
          | none => line := by
  have hcomment : ∀ line, lang.isComment line = true ↔
      (∃ w rest, Opens lang.symbol line w rest) ∧
        ¬ ['#', '!', '/'] <+: line ∧
          ∀ w, Text.allBlank w = true → ¬ w ++ ['#', '\x7b'] <+: line := by
    intro line
    unfold isComment
    rw [Bool.and_eq_true, marks_iff, Bool.not_eq_true', ← Bool.not_eq_true, isSpared_iff, not_or]
    push Not
    rfl
  refine ⟨fun line => marks_iff, ?_, ?_, ?_, hcomment, ?_, ?_⟩
  · intro line hmarks
    obtain ⟨rest, hrest⟩ := Option.isSome_iff_exists.1 hmarks
    obtain ⟨w, hopens, hlongest⟩ := exists_opens_of_afterSymbol? hrest
    exact ⟨w, rest, hopens, hlongest⟩
  · intro line w rest hopens hlongest
    rw [strip, afterSymbol?_of_longest hopens hlongest, ← dropBlank_eq]
  · intro line hnone
    rw [strip, afterSymbol?_eq_none_iff.2 hnone]
  · intro line hfront
    rw [← Bool.not_eq_true, hcomment line]
    exact fun h => h.2.1 hfront
  · refine ⟨lang.matcher, filter, ofText_commentPattern lang, ofText_sparedPattern, fun line => ?_⟩
    refine ⟨occursIn_matcher lang line, occursIn_filter line, ?_, strip_eq_find? lang line⟩
    rw [occursIn_matcher, occursIn_filter]
    rfl

/-- A symbol that begins with a blank and has a meaning in patterns. -/
theorem comment_rules_star :
    let lang : Language := ⟨"odd".toList, " *".toList, .line⟩
    lang.marks "   *  x".toList = true ∧
      (∃ w, Opens lang.symbol "   *  x".toList w "  x".toList ∧
        Longest lang.symbol "   *  x".toList w) ∧
      lang.strip "   *  x".toList = " x".toList ∧ lang.strip "*".toList = "*".toList ∧
      lang.isComment "#!/ *".toList = false := by
  intro lang
  obtain ⟨-, hlongest, hstrip, hbare, -, hspared, -⟩ := comment_rules lang
  have hmarks : lang.marks "   *  x".toList = true := by decide
  obtain ⟨w, rest, hopens, hmost⟩ := hlongest _ hmarks
  have hrest : some rest = some "  x".toList := by
    rw [← afterSymbol?_of_longest hopens hmost]
    decide
  obtain rfl := Option.some.inj hrest
  refine ⟨hmarks, ⟨w, hopens, hmost⟩, ?_, ?_, hspared _ ⟨" *".toList, rfl⟩⟩
  · rw [hstrip _ w _ hopens hmost]
    decide
  · exact hbare _ (afterSymbol?_eq_none_iff.1 (by decide))

end Language

end Marginalia
