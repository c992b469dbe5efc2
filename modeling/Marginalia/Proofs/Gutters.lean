import Marginalia.Pattern.Reader
import Marginalia.Proofs.LineEndings
import Marginalia.Proofs.PatternRemoval
import Mathlib.Data.List.Forall2

/-!
# Gutters of comments

The prose of a comment is what is left of its lines without their gutters. The same is left if one
pattern is taken out of the body as a whole, wherever it matches at the start of a line.

1. `afterGutter?` says what follows the gutter of a line, and `dropGutter` keeps that
   (`dropGutter_eq`).
2. At the start of a line the pattern matches exactly the gutter, and nowhere else
   (`head?_tries_gutter`).
3. So taking it out goes line by line: the gutter of a line is taken out, if it has one, and the
   rest of the line stays, even if it looks like another gutter (`removed_line`,
   `removed_lines`).
4. In front of the closer, the last of several lines is emptied if it is blank
   (`dropIndent_intercalate`), so the prose of every body is known line by line (`prose_lines`).
-/

namespace Marginalia

namespace Comment

/-! ## The gutter of a line -/

/-- Characters that may stand in front of the star of a gutter. -/
def isIndent (c : Char) : Bool := c = ' ' || c = '\t'

/-- `line` is `indent`, which is spaces and tabs, then a star, then `rest`. -/
def HasGutter (line indent rest : Text) : Prop :=
  (∀ c ∈ indent, c = ' ' ∨ c = '\t') ∧ line = indent ++ '*' :: rest

/-- What follows the gutter of a line, if it has one. -/
def afterGutter? (line : Text) : Option Text :=
  match line.dropWhile isIndent with
  | '*' :: rest => some (Text.dropFirst ' ' rest)
  | _ => none

variable {line indent rest tail t : Text} {c : Char} {i : Nat}

theorem isIndent_iff : isIndent c = true ↔ c = ' ' ∨ c = '\t' := by
  rw [isIndent, Bool.or_eq_true, decide_eq_true_iff, decide_eq_true_iff]

theorem HasGutter.dropWhile_eq (h : HasGutter line indent rest) :
    line.dropWhile isIndent = '*' :: rest := by
  rw [h.2, List.dropWhile_append_of_pos fun c hc => isIndent_iff.2 (h.1 c hc)]
  rfl

theorem hasGutter_of_dropWhile (h : line.dropWhile isIndent = '*' :: rest) :
    HasGutter line (line.takeWhile isIndent) rest := by
  refine ⟨fun c hc => isIndent_iff.1 (List.mem_takeWhile_imp hc), ?_⟩
  rw [← h, List.takeWhile_append_dropWhile]

theorem afterGutter?_of_dropWhile (h : line.dropWhile isIndent = '*' :: rest) :
    afterGutter? line = some (Text.dropFirst ' ' rest) := by
  unfold afterGutter?
  rw [h]
  rfl

theorem afterGutter?_of_ne (h : (line.dropWhile isIndent).head? ≠ some '*') :
    afterGutter? line = none := by
  unfold afterGutter?
  split
  · next heq =>
    rw [heq] at h
    exact absurd rfl h
  · rfl

theorem afterGutter?_of_hasGutter (h : HasGutter line indent rest) :
    afterGutter? line = some (Text.dropFirst ' ' rest) :=
  afterGutter?_of_dropWhile h.dropWhile_eq

theorem afterGutter?_eq_none (h : ∀ indent rest, ¬ HasGutter line indent rest) :
    afterGutter? line = none := by
  apply afterGutter?_of_ne
  intro hstar
  obtain ⟨rest, hrest⟩ := List.head?_eq_some_iff.1 hstar
  exact h _ _ (hasGutter_of_dropWhile hrest)

theorem dropGutter_eq (line : Text) : dropGutter line = (afterGutter? line).getD line := by
  show (match line.dropWhile isIndent with
    | '*' :: rest => Text.dropFirst ' ' rest
    | _ => line) = _
  unfold afterGutter?
  split
  · rfl
  · rfl

/-- One space is lost, if there is one. -/
theorem dropFirst_iff {out : Text} : out = Text.dropFirst ' ' rest ↔
    rest = ' ' :: out ∨ rest.head? ≠ some ' ' ∧ rest = out := by
  cases rest with
  | nil => simp [Text.dropFirst, eq_comm]
  | cons c rest =>
    rw [Text.dropFirst]
    split_ifs with hc
    · simp [hc, eq_comm]
    · simp [hc, eq_comm]

/-- A gutter is a part of its line that is not empty. -/
theorem exists_of_afterGutter? (h : afterGutter? line = some rest) :
    ∃ front, line = front ++ rest ∧ front ≠ [] := by
  unfold afterGutter? at h
  split at h
  · next more heq =>
    cases h
    obtain ⟨-, hline⟩ := hasGutter_of_dropWhile heq
    obtain ⟨space, hspace⟩ := Text.dropFirst_suffix ' ' more
    refine ⟨line.takeWhile isIndent ++ '*' :: space, ?_, List.append_ne_nil_of_right_ne_nil _
      (List.cons_ne_nil _ _)⟩
    rw [List.append_assoc, List.cons_append, hspace]
    exact hline
  · cases h

/-- What comes after a line is at its end or begins with a line feed. -/
def EndsLine (tail : Text) : Prop := ∀ c ∈ tail.head?, c = '\n'

theorem EndsLine.head?_ne (h : EndsLine tail) (hc : c ≠ '\n') : tail.head? ≠ some c :=
  fun heq => hc (h c heq)

theorem EndsLine.dropWhile_eq (h : EndsLine tail) : tail.dropWhile isIndent = tail := by
  cases tail with
  | nil => rfl
  | cons c tail =>
    obtain rfl : c = '\n' := h c rfl
    rfl

theorem dropFirst_append (h : EndsLine tail) (t : Text) :
    Text.dropFirst ' ' (t ++ tail) = Text.dropFirst ' ' t ++ tail := by
  cases t with
  | nil =>
    cases tail with
    | nil => rfl
    | cons c tail =>
      obtain rfl : c = '\n' := h c rfl
      rfl
  | cons c t =>
    rw [List.cons_append, Text.dropFirst, Text.dropFirst]
    split_ifs
    · rfl
    · rfl

/-- The lines after a line do not count for its gutter. -/
theorem afterGutter?_append (h : EndsLine tail) (line : Text) :
    afterGutter? (line ++ tail) = (afterGutter? line).map (· ++ tail) := by
  cases hfront : line.dropWhile isIndent with
  | nil =>
    have hall : (line ++ tail).dropWhile isIndent = tail := by
      rw [List.dropWhile_append, hfront, List.isEmpty_nil, if_pos rfl, h.dropWhile_eq]
    have hline : afterGutter? line = none := afterGutter?_of_ne (by rw [hfront]; simp)
    rw [hline, afterGutter?_of_ne]
    · rfl
    · rw [hall]
      exact h.head?_ne (by decide)
  | cons c rest =>
    have hall : (line ++ tail).dropWhile isIndent = c :: (rest ++ tail) := by
      rw [List.dropWhile_append, hfront, List.isEmpty_cons, if_neg (by decide), List.cons_append]
    by_cases hc : c = '*'
    · subst hc
      rw [afterGutter?_of_dropWhile hfront, afterGutter?_of_dropWhile hall, dropFirst_append h]
      rfl
    · have hne : some c ≠ some '*' := fun heq => hc (Option.some.inj heq)
      have hline : afterGutter? line = none := afterGutter?_of_ne (by rw [hfront]; exact hne)
      rw [hline, afterGutter?_of_ne (by rw [hall]; exact hne)]
      rfl

/-! ## The pattern of gutters -/

/-- The pattern of a gutter: at the start of a line spaces and tabs, a star, and a space if there
is one. -/
def gutterPattern : Text := "(?m)^[ \\t]*\\* ?".toList

/-- A space or a tab. -/
def indentClass : Pattern.Class :=
  .union (.union .none (Pattern.Class.one ' ')) (Pattern.Class.one '\t')

/-- What the pattern says. -/
def gutterMatcher : Pattern :=
  .sequence [.place (.lineStart false), .times (.one indentClass) 0 none,
    .one (Pattern.Class.one '*'),
    .times (.one (Pattern.Class.one ' ')) 0 (some 1)]

theorem ofText_gutterPattern : Pattern.ofText gutterPattern = .ok gutterMatcher := rfl

end Comment

namespace Pattern

open Comment (isIndent isIndent_iff indentClass gutterMatcher afterGutter?)

variable {t rest : Text} {c : Char} {i : Nat}

/-! ## Where the pattern matches -/

/-- Whether a line starts at a place. -/
def atLineStart (t : Text) (i : Nat) : Bool := i = 0 || t[i - 1]? = some '\n'

theorem tries_lineStart (hi : i ≤ t.length) : tries t.toArray (.place (.lineStart false)) i =
    if atLineStart t i then [i] else [] := by
  rw [tries, ends]
  unfold atLineStart
  by_cases hzero : i = 0
  · subst hzero
    rfl
  · have hbefore : t[i - 1]? ≠ none := by
      rw [ne_eq, List.getElem?_eq_none_iff]
      omega
    have hholds : (Boundary.lineStart false).holds t[i - 1]? t[i]? =
        decide (t[i - 1]? = some '\n') := by
      show (decide (t[i - 1]? = none) || decide (t[i - 1]? = some '\n') || false) = _
      rw [decide_eq_false hbefore, Bool.false_or, Bool.or_false]
    rw [if_neg hzero, List.getElem?_toArray, List.getElem?_toArray, hholds, decide_eq_false hzero,
      Bool.false_or]

theorem has_indentClass (c : Char) : indentClass.has c = isIndent c := by
  rw [Bool.eq_iff_iff, isIndent_iff]
  show ((Class.none.has c || (Class.one ' ').has c) || (Class.one '\t').has c) = true ↔ _
  rw [Bool.or_eq_true, Bool.or_eq_true, has_one_iff, has_one_iff]
  simp [Class.has, eq_comm]

/-- A star, and a space if there is one. -/
def starred : List Pattern := [.one (Class.one '*'), .times (.one (Class.one ' ')) 0 (some 1)]

theorem leads_starred_of_star (h : t.drop i = '*' :: rest) :
    (leads t.toArray starred i).head? = some (t.length - (Text.dropFirst ' ' rest).length) := by
  have hlength := congrArg List.length h
  rw [List.length_drop, List.length_cons] at hlength
  have hstar : tries t.toArray (.one (Class.one '*')) i = [i + 1] := by
    rw [tries_one_of_drop h, if_pos (has_one_iff.2 rfl)]
  rw [starred, leads, hstar, List.flatMap_singleton, leads_singleton,
    head?_tries_maybe (drop_succ_of_drop h)]
  cases rest with
  | nil =>
    rw [List.length_nil] at hlength
    simp [Text.dropFirst]
    omega
  | cons c rest =>
    rw [List.length_cons] at hlength
    rw [Text.dropFirst, List.head?_cons, Option.any_some]
    by_cases hc : c = ' '
    · rw [if_pos hc, if_pos (has_one_iff.2 hc.symm)]
      congr 1
      omega
    · rw [if_neg hc, if_neg fun h => hc (has_one_iff.1 h).symm, List.length_cons]
      congr 1
      omega

theorem leads_starred_of_ne (h : (t.drop i).head? ≠ some '*') :
    leads t.toArray starred i = [] := by
  have hstar : tries t.toArray (.one (Class.one '*')) i = [] := by
    cases hdrop : t.drop i with
    | nil => exact tries_one_of_drop_eq_nil hdrop
    | cons c rest =>
      rw [hdrop] at h
      rw [tries_one_of_drop hdrop, if_neg fun hc => h (congrArg some (has_one_iff.1 hc).symm)]
  rw [starred, leads, hstar]
  rfl

/-- Spaces and tabs are passed as a whole: there is no star among them. -/
theorem head?_tries_gutter_of_run {run behind : Text} (hi : i ≤ t.length)
    (hstart : atLineStart t i = true) (hdrop : t.drop i = run ++ behind)
    (hrun : ∀ c ∈ run, isIndent c = true) (hbehind : behind.head?.any isIndent = false) :
    (tries t.toArray gutterMatcher i).head? =
      (leads t.toArray starred (i + run.length)).head? := by
  have hlength := congrArg List.length hdrop
  rw [List.length_append, List.length_drop] at hlength
  have hnostar : ∀ k < run.length, (t.drop (i + k)).head? ≠ some '*' := by
    intro k hk hstar
    rw [← List.drop_drop, hdrop, List.head?_drop, List.getElem?_append_left hk] at hstar
    have hindent := hrun '*' (List.mem_of_getElem? hstar)
    cases hindent
  unfold gutterMatcher
  rw [tries_sequence, leads, tries_lineStart hi, if_pos hstart, List.flatMap_singleton, leads,
    tries_many, List.head?_flatMap]
  show List.findSome? (fun k => (leads t.toArray starred k).head?) _ = _
  apply findSome?_repeated_run hdrop
  · intro c hc
    rw [has_indentClass]
    exact hrun c hc
  · rw [funext has_indentClass]
    exact hbehind
  · rw [List.size_toArray]
    omega
  · intro k hk
    rw [leads_starred_of_ne (hnostar k hk)]
    rfl

theorem tries_gutter_of_not_start (hi : i ≤ t.length) (h : atLineStart t i = false) :
    tries t.toArray gutterMatcher i = [] := by
  unfold gutterMatcher
  rw [tries_sequence, leads, tries_lineStart hi, h]
  rfl

/-- **The pattern matches the gutters.** At the start of a line the match ends where the rest of
the line begins, if the line has a gutter. -/
theorem head?_tries_gutter (hi : i ≤ t.length) (hstart : atLineStart t i = true) :
    (tries t.toArray gutterMatcher i).head? =
      (afterGutter? (t.drop i)).map fun rest => t.length - rest.length := by
  have hsplit : (t.drop i).takeWhile isIndent ++ (t.drop i).dropWhile isIndent = t.drop i :=
    List.takeWhile_append_dropWhile
  have hbehind := List.head?_dropWhile_not isIndent (t.drop i)
  rw [head?_tries_gutter_of_run hi hstart hsplit.symm (fun c hc => List.mem_takeWhile_imp hc)
    (by revert hbehind; cases ((t.drop i).dropWhile isIndent).head? <;> simp)]
  have hrest : t.drop (i + ((t.drop i).takeWhile isIndent).length) =
      (t.drop i).dropWhile isIndent := by
    have h := @List.drop_left _ ((t.drop i).takeWhile isIndent) ((t.drop i).dropWhile isIndent)
    rw [hsplit, List.drop_drop] at h
    exact h
  by_cases hstar : ((t.drop i).dropWhile isIndent).head? = some '*'
  · obtain ⟨rest, hcut⟩ := List.head?_eq_some_iff.1 hstar
    rw [Comment.afterGutter?_of_dropWhile hcut, leads_starred_of_star (hrest.trans hcut)]
    rfl
  · rw [Comment.afterGutter?_of_ne hstar, leads_starred_of_ne (by rw [hrest]; exact hstar)]
    rfl

theorem tries_gutter_of_none (hi : i ≤ t.length) (h : afterGutter? (t.drop i) = none) :
    tries t.toArray gutterMatcher i = [] := by
  cases hstart : atLineStart t i with
  | false => exact tries_gutter_of_not_start hi hstart
  | true =>
    rw [← List.head?_eq_none_iff, head?_tries_gutter hi hstart, h]
    rfl

/-! ## Line by line -/

variable {line tail : Text}

/-- No line starts directly behind a part of a line. -/
theorem atLineStart_of_drop {front : Text} (h : t.drop i = front ++ rest) (hfeed : '\n' ∉ front)
    (hne : front ≠ []) : atLineStart t (i + front.length) = false := by
  have hpos := List.length_pos_iff.2 hne
  have hlast : t[i + front.length - 1]? = front[front.length - 1]? := by
    rw [Nat.add_sub_assoc hpos, ← List.getElem?_drop, h, List.getElem?_append_left (by omega)]
  unfold atLineStart
  rw [hlast, decide_eq_false (by omega), Bool.false_or, decide_eq_false_iff_not]
  exact fun hmem => hfeed (List.mem_of_getElem? hmem)

theorem atLineStart_succ (h : t.drop i = c :: rest) :
    atLineStart t (i + 1) = decide (c = '\n') := by
  have hc : t[i]? = some c := by rw [← List.head?_drop, h, List.head?_cons]
  unfold atLineStart
  rw [Nat.add_sub_cancel, hc, decide_eq_false (Nat.succ_ne_zero i), Bool.false_or]
  simp only [Option.some.injEq]

theorem drop_add_of_drop {front : Text} (h : t.drop i = front ++ rest) :
    t.drop (i + front.length) = rest := by
  rw [← List.drop_drop, h, List.drop_left]

theorem le_length_of_drop (h : t.drop i = c :: rest) : i ≤ t.length := by
  have hlength := congrArg List.length h
  rw [List.length_drop, List.length_cons] at hlength
  omega

/-- Inside of a line everything stays. -/
theorem removed_inside (hdrop : t.drop i = line ++ tail) (hfeed : '\n' ∉ line)
    (hstart : atLineStart t i = false) :
    gutterMatcher.removed t i = line ++ gutterMatcher.removed t (i + line.length) := by
  induction line generalizing i with
  | nil => rfl
  | cons c line ih =>
    have hnext : atLineStart t (i + 1) = false := by
      rw [atLineStart_succ hdrop, decide_eq_false fun h => hfeed (List.mem_cons.2 (Or.inl h.symm))]
    rw [removed_of_none hdrop (tries_gutter_of_not_start (le_length_of_drop hdrop) hstart),
      ih (drop_succ_of_drop hdrop) (fun h => hfeed (List.mem_cons_of_mem c h)) hnext,
      List.length_cons, Nat.add_assoc, Nat.add_comm 1]
    rfl

/-- **A line loses its gutter and nothing else.** What follows the gutter is inside of the line, so
it stays even if it looks like another one. -/
theorem removed_line (hi : i ≤ t.length) (hdrop : t.drop i = line ++ tail)
    (htail : Comment.EndsLine tail) (hfeed : '\n' ∉ line) (hstart : atLineStart t i = true) :
    gutterMatcher.removed t i =
      Comment.dropGutter line ++ gutterMatcher.removed t (i + line.length) := by
  have hafter := Comment.afterGutter?_append htail line
  rw [Comment.dropGutter_eq]
  cases hline : afterGutter? line with
  | none =>
    rw [Option.getD_none]
    cases line with
    | nil => rfl
    | cons c line =>
      have hnone : tries t.toArray gutterMatcher i = [] := by
        apply tries_gutter_of_none hi
        rw [hdrop, hafter, hline]
        rfl
      have hnext : atLineStart t (i + 1) = false := by
        rw [atLineStart_succ hdrop,
          decide_eq_false fun h => hfeed (List.mem_cons.2 (Or.inl h.symm))]
      rw [removed_of_none hdrop hnone, removed_inside (drop_succ_of_drop hdrop)
        (fun h => hfeed (List.mem_cons_of_mem c h)) hnext, List.length_cons, Nat.add_assoc,
        Nat.add_comm 1]
      rfl
  | some rest =>
    obtain ⟨front, rfl, hfront⟩ := Comment.exists_of_afterGutter? hline
    rw [List.append_assoc] at hdrop
    have hlength := congrArg List.length hdrop
    rw [List.length_drop, List.length_append] at hlength
    have hpos := List.length_pos_iff.2 hfront
    have hmatch : (tries t.toArray gutterMatcher i).head? = some (i + front.length) := by
      rw [head?_tries_gutter hi hstart, hdrop, ← List.append_assoc, hafter, hline]
      show some (t.length - (rest ++ tail).length) = _
      congr 1
      omega
    rw [removed_of_match hi hmatch (by omega), Option.getD_some,
      removed_inside (drop_add_of_drop hdrop) (fun h => hfeed (List.mem_append_right _ h))
        (atLineStart_of_drop hdrop (fun h => hfeed (List.mem_append_left _ h)) hfront),
      List.length_append, Nat.add_assoc]

/-- **All lines lose their gutters.** -/
theorem removed_lines {ls : List Text} (hi : i ≤ t.length) (hne : ls ≠ [])
    (hfeed : ∀ l ∈ ls, '\n' ∉ l) (hdrop : t.drop i = ['\n'].intercalate ls)
    (hstart : atLineStart t i = true) :
    gutterMatcher.removed t i = ['\n'].intercalate (ls.map Comment.dropGutter) := by
  induction ls generalizing i with
  | nil => exact absurd rfl hne
  | cons l ls ih =>
    have hl := hfeed l List.mem_cons_self
    cases ls with
    | nil =>
      have hdrop' : t.drop i = l ++ [] := by
        rw [hdrop]
        simp
      have hend := drop_add_of_drop hdrop'
      have hlength := congrArg List.length hdrop'
      rw [List.length_drop, List.append_nil] at hlength
      rw [removed_line hi hdrop' (fun c hc => by cases hc) hl hstart, removed_of_drop_eq_nil hend
        (tries_gutter_of_none (by omega) (by rw [hend]; rfl))]
      simp
    | cons m ls =>
      rw [List.intercalate_cons_cons] at hdrop
      rw [List.append_assoc, List.singleton_append] at hdrop
      have hend := drop_add_of_drop hdrop
      have hplace := le_length_of_drop hend
      have hnone : tries t.toArray gutterMatcher (i + l.length) = [] :=
        tries_gutter_of_none hplace (by rw [hend]; rfl)
      have hlength := congrArg List.length hend
      rw [List.length_drop, List.length_cons] at hlength
      rw [removed_line hi hdrop (fun c hc => (Option.some.inj hc).symm) hl hstart,
        removed_of_none hend hnone,
        ih (by omega) (List.cons_ne_nil m ls) (fun l hl => hfeed l (List.mem_cons_of_mem _ hl))
          (drop_succ_of_drop hend) (by rw [atLineStart_succ hend, decide_eq_true rfl]),
        List.map_cons, List.map_cons, List.map_cons, List.intercalate_cons_cons, List.append_assoc,
        List.singleton_append]

end Pattern

namespace Comment

/-! ## Prose -/

/-- `t` without what stands behind its last line feed, if that is blank. -/
def dropIndent (t : Text) : Text :=
  if '\n' ∈ t ∧ Text.allBlank (t.reverse.takeWhile (· ≠ '\n')) = true then
    Text.dropEndWhile (· ≠ '\n') t
  else t

variable {t last : Text} {ls : List Text}

theorem intercalate_concat (l : Text) (ls : List Text) (last : Text) :
    ['\n'].intercalate (l :: ls ++ [last]) = ['\n'].intercalate (l :: ls) ++ '\n' :: last := by
  induction ls generalizing l with
  | nil => simp [List.intercalate_cons_cons]
  | cons m ls ih =>
    rw [List.cons_append, List.cons_append, List.intercalate_cons_cons, List.intercalate_cons_cons,
      ← List.cons_append, ih, List.append_assoc, List.append_assoc, List.append_assoc]

theorem dropIndent_append_feed (front : Text) (hfeed : '\n' ∉ last) :
    dropIndent (front ++ '\n' :: last) =
      front ++ '\n' :: if Text.allBlank last then [] else last := by
  have hreverse : (front ++ '\n' :: last).reverse = last.reverse ++ '\n' :: front.reverse := by
    simp
  have hrun : ∀ c ∈ last.reverse, decide (c ≠ '\n') = true := fun c hc =>
    decide_eq_true fun heq => hfeed (heq ▸ List.mem_reverse.1 hc)
  have hlast : (front ++ '\n' :: last).reverse.takeWhile (· ≠ '\n') = last.reverse := by
    rw [hreverse, List.takeWhile_append_of_pos hrun, List.takeWhile_cons_of_neg (by simp),
      List.append_nil]
  have hfront : Text.dropEndWhile (· ≠ '\n') (front ++ '\n' :: last) = front ++ ['\n'] := by
    rw [Text.dropEndWhile, hreverse, List.dropWhile_append_of_pos hrun,
      List.dropWhile_cons_of_neg (by simp), List.reverse_cons, List.reverse_reverse]
  have hblank : Text.allBlank last.reverse = Text.allBlank last := List.all_reverse
  rw [dropIndent, hlast, hfront, hblank]
  cases Text.allBlank last with
  | true => rw [if_pos ⟨by simp, rfl⟩, if_pos rfl]
  | false => rw [if_neg (by simp), if_neg (by decide)]

/-- Behind the last line feed is the last of several lines. -/
theorem dropIndent_intercalate (hfeed : ∀ l ∈ ls, '\n' ∉ l) :
    dropIndent (['\n'].intercalate ls) = ['\n'].intercalate (emptyLast ls) := by
  cases ls with
  | nil => rfl
  | cons l ls =>
    rcases List.eq_nil_or_concat ls with rfl | ⟨ls, last, rfl⟩
    · have hl : '\n' ∉ ['\n'].intercalate [l] := by
        simpa using hfeed l List.mem_cons_self
      rw [dropIndent, if_neg fun h => hl h.1]
      rfl
    · rw [List.concat_eq_append] at hfeed ⊢
      rw [← List.cons_append, emptyLast_concat, intercalate_concat, intercalate_concat,
        dropIndent_append_feed _ (hfeed last (by simp))]

theorem not_mem_of_mem_emptyLast {l : Text} (hfeed : ∀ l ∈ ls, '\n' ∉ l) (h : l ∈ emptyLast ls) :
    '\n' ∉ l := by
  rcases mem_emptyLast h with rfl | hl
  · exact List.not_mem_nil
  · exact hfeed l hl

theorem emptyLast_ne_nil (h : ls ≠ []) : emptyLast ls ≠ [] := by
  cases ls with
  | nil => exact absurd rfl h
  | cons l ls =>
    rcases List.eq_nil_or_concat ls with rfl | ⟨ls, last, rfl⟩
    · exact h
    · rw [List.concat_eq_append, ← List.cons_append, emptyLast_concat]
      simp

/-- The prose is what is left of the body if its gutters are taken out as a whole. -/
theorem prose_eq_removed (body : Text) :
    prose body = gutterMatcher.removed (dropIndent (Text.dropFirst ' ' body)) 0 := by
  have hfeed : ∀ l ∈ (Text.dropFirst ' ' body).splitOn '\n', '\n' ∉ l :=
    fun l hl => Text.not_mem_of_mem_splitOn hl
  have hbody : ['\n'].intercalate ((Text.dropFirst ' ' body).splitOn '\n') =
      Text.dropFirst ' ' body :=
    List.intercalate_splitOn '\n'
  have hcut := dropIndent_intercalate hfeed
  rw [hbody] at hcut
  rw [hcut, Pattern.removed_lines (Nat.zero_le _) (emptyLast_ne_nil (List.splitOn_ne_nil _ _))
    (fun l hl => not_mem_of_mem_emptyLast hfeed hl) (List.drop_zero) rfl]
  rfl

/-- The lines of a body are those of its prose. -/
theorem splitOn_prose (body : Text) : (prose body).splitOn '\n' =
    (emptyLast ((Text.dropFirst ' ' body).splitOn '\n')).map dropGutter := by
  have hne := emptyLast_ne_nil (List.splitOn_ne_nil '\n' (Text.dropFirst ' ' body))
  apply List.splitOn_intercalate
  · intro out hout
    obtain ⟨line, hline, rfl⟩ := List.mem_map.1 hout
    have hfeed := not_mem_of_mem_emptyLast (fun l hl => Text.not_mem_of_mem_splitOn hl) hline
    exact fun h => hfeed ((dropGutter_suffix line).subset h)
  · simpa using hne

/-- `out` is `line` without its gutter and one space behind it, if the line has a gutter. -/
def Stripped (line out : Text) : Prop :=
  (∃ indent rest, HasGutter line indent rest ∧
    (rest = ' ' :: out ∨ rest.head? ≠ some ' ' ∧ rest = out)) ∨
  (∀ indent rest, ¬ HasGutter line indent rest) ∧ out = line

theorem stripped_dropGutter (line : Text) : Stripped line (dropGutter line) := by
  rw [dropGutter_eq]
  by_cases h : ∃ indent rest, HasGutter line indent rest
  · obtain ⟨indent, rest, hgutter⟩ := h
    rw [afterGutter?_of_hasGutter hgutter]
    exact Or.inl ⟨indent, rest, hgutter, dropFirst_iff.1 rfl⟩
  · push Not at h
    rw [afterGutter?_eq_none h]
    exact Or.inr ⟨h, rfl⟩

/-- Only one text is left of a line. -/
theorem Stripped.eq_dropGutter {line out : Text} (h : Stripped line out) :
    out = dropGutter line := by
  rw [dropGutter_eq]
  rcases h with ⟨indent, rest, hgutter, hout⟩ | ⟨hnone, rfl⟩
  · rw [afterGutter?_of_hasGutter hgutter]
    exact dropFirst_iff.2 hout
  · rw [afterGutter?_eq_none hnone]
    rfl

theorem emptyLast_eq (ls : List Text) : emptyLast ls =
    if 1 < ls.length ∧ (ls.getLast?.any Text.allBlank) = true then ls.dropLast ++ [[]] else ls := by
  cases ls with
  | nil => rfl
  | cons l ls =>
    rcases List.eq_nil_or_concat ls with rfl | ⟨ls, last, rfl⟩
    · rfl
    · rw [List.concat_eq_append, ← List.cons_append, emptyLast_concat, List.getLast?_concat,
        List.dropLast_concat, Option.any_some]
      cases Text.allBlank last <;> simp

theorem length_emptyLast (ls : List Text) : (emptyLast ls).length = ls.length := by
  rw [emptyLast_eq]
  split_ifs with h
  · rw [List.length_append, List.length_dropLast, List.length_singleton]
    omega
  · rfl

/-- A space in front of a body does not change how many lines it has. -/
theorem length_splitOn_dropFirst (t : Text) :
    ((Text.dropFirst ' ' t).splitOn '\n').length = (t.splitOn '\n').length := by
  cases t with
  | nil => rfl
  | cons c t =>
    rw [Text.dropFirst]
    split_ifs with hc
    · subst hc
      rw [List.splitOn_cons_eq_if_modifyHead, if_neg (by decide), List.length_modifyHead]
    · rfl

/-- **Gutters are taken out line by line, and each once.** One space at the front of a body does not
count. Of several lines the last is emptied if it is blank. Then a line that is spaces and tabs, a
star and a rest leaves the rest, without one space at its front, and every other line is left as it
is; nothing else can be left of a line. So the prose has as many lines as the body. The pattern of
gutters can be read, and taking it out of the body as a whole leaves the same prose. -/
theorem prose_lines (body : Text) :
    let given := (Text.dropFirst ' ' body).splitOn '\n'
    let lines := if 1 < given.length ∧ (given.getLast?.any Text.allBlank) = true then
      given.dropLast ++ [[]] else given
    (∃ shown, List.Forall₂ Stripped lines shown ∧ prose body = ['\n'].intercalate shown ∧
      (prose body).splitOn '\n' = shown) ∧
    (∀ line, ∃! out, Stripped line out) ∧
    ((prose body).splitOn '\n').length = (body.splitOn '\n').length ∧
    ∃ gutter, Pattern.ofText gutterPattern = .ok gutter ∧
      prose body = gutter.removed (dropIndent (Text.dropFirst ' ' body)) 0 := by
  intro given lines
  have hlines : emptyLast given = lines := emptyLast_eq given
  refine ⟨⟨lines.map dropGutter, ?_, ?_, ?_⟩, ?_, ?_, gutterMatcher, ofText_gutterPattern,
    prose_eq_removed body⟩
  · rw [List.forall₂_map_right_iff, List.forall₂_same]
    exact fun line _ => stripped_dropGutter line
  · rw [← hlines]
    rfl
  · rw [splitOn_prose, ← hlines]
  · exact fun line => ⟨dropGutter line, stripped_dropGutter line, fun out h => h.eq_dropGutter⟩
  · rw [splitOn_prose, List.length_map, length_emptyLast, length_splitOn_dropFirst]

/-- What looks like a second gutter stays, and so does a star behind other characters. -/
example : prose " * * a\n\t**b\n c *\n *\n \t".toList = "* a\n*b\n c *\n\n".toList := by decide

end Comment

end Marginalia
