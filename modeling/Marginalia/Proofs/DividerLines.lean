import Marginalia.Proofs.DividerRoundTrip
import Marginalia.Proofs.LineBlocks

/-!
# Dividers among lines

A divider is a line of its own, with the line feed of the line before it. Where no other line is the
mark, the places of the divider in joined code are those at which it was put.

1. The divider stands at the end of a line exactly if the next line is the mark, so it is passed
   over line by line (`breakOn?_divider_append_feed`, `breakOn?_divider_unlines_append`).
2. So joined groups of lines are cut into these groups (`pieces_divider_intercalate`), even where a
   group is empty or has empty lines at its ends.
3. If the mark reads as a comment, no line of code is the mark, and taking the dividers out of the
   joined code of a source leaves its code lines (`remove_divider_joinCode`).
-/

namespace Marginalia

namespace Text

/-- `t` without `pattern`, wherever it stands, from the left and without overlap. -/
def remove (pattern t : Text) : Text := (pieces pattern t).flatten

theorem flatten_map_unlines (groups : List (List Text)) :
    (groups.map unlines).flatten = unlines groups.flatten := by
  induction groups with
  | nil => rfl
  | cons g groups ih => rw [List.map_cons, List.flatten_cons, ih, List.flatten_cons, unlines_append]

/-- A text of lines starts with the line `m` only if its first line is `m`. -/
theorem eq_of_prefix_append_feed {m l t : Text} (hm : '\n' ∉ m) (hl : '\n' ∉ l)
    (h : m ++ ['\n'] <+: l ++ '\n' :: t) : m = l := by
  obtain ⟨r, hr⟩ := h
  have hsplit := congrArg (List.splitOn '\n') hr
  rw [List.append_assoc, List.singleton_append, List.splitOn_append_cons_self,
    List.splitOn_append_cons_self, List.splitOn_eq_singleton hm,
    List.splitOn_eq_singleton hl] at hsplit
  exact (List.cons.inj hsplit).1

end Text

namespace Language

open Text (breakOn? pieces tally unlines)

variable {lang : Language}

theorem divider_eq_cons (lang : Language) : lang.divider = '\n' :: (lang.mark ++ ['\n']) := rfl

theorem divider_ne_nil (lang : Language) : lang.divider ≠ [] := List.cons_ne_nil _ _

/-! ## Passing over lines -/

/-- No divider stands at the end of a line that the mark does not follow. -/
theorem breakOn?_divider_append_feed {l t : Text} (hl : '\n' ∉ l)
    (ht : ¬ lang.mark ++ ['\n'] <+: t) :
    breakOn? lang.divider (l ++ '\n' :: t) =
      (breakOn? lang.divider t).map fun parts => (l ++ '\n' :: parts.1, parts.2) := by
  rw [divider_eq_cons]
  induction l with
  | nil =>
    have hnone : Text.after? ('\n' :: (lang.mark ++ ['\n'])) ('\n' :: t) = none := by
      rw [Text.after?, if_pos rfl, Text.after?_eq_none_iff]
      exact ht
    rw [List.nil_append, Text.breakOn?_cons_of_none hnone]
    rfl
  | cons c l ih =>
    rw [List.mem_cons, not_or] at hl
    rw [List.cons_append, Text.breakOn?_cons_of_none (Text.after?_cons_of_ne hl.1 _ _), ih hl.2,
      Option.map_map]
    rfl

section Lines

variable {ls : List Text} (hfeed : '\n' ∉ lang.symbol) (hls : ∀ l ∈ ls, '\n' ∉ l)
  (hmark : lang.mark ∉ ls)

include hfeed hls hmark

/-- Lines start with the mark only if one of them is the mark. -/
theorem not_prefix_unlines_append {t : Text} (ht : ¬ lang.mark ++ ['\n'] <+: t) :
    ¬ lang.mark ++ ['\n'] <+: unlines ls ++ t := by
  cases ls with
  | nil => exact ht
  | cons l ls =>
    rw [List.forall_mem_cons] at hls
    rw [Text.unlines_cons, List.append_assoc, List.cons_append]
    intro h
    apply hmark
    rw [Text.eq_of_prefix_append_feed (not_mem_mark hfeed) hls.1 h]
    exact List.mem_cons_self

/-- Lines that are not the mark are passed over. -/
theorem breakOn?_divider_unlines_append {t : Text} (ht : ¬ lang.mark ++ ['\n'] <+: t) :
    breakOn? lang.divider (unlines ls ++ t) =
      (breakOn? lang.divider t).map fun parts => (unlines ls ++ parts.1, parts.2) := by
  induction ls with
  | nil =>
    rw [Text.unlines_nil, List.nil_append]
    exact Option.map_id_apply.symm
  | cons l ls ih =>
    rw [List.forall_mem_cons] at hls
    rw [List.mem_cons, not_or] at hmark
    have hrest := not_prefix_unlines_append hfeed hls.2 hmark.2 ht
    rw [Text.unlines_cons, List.append_assoc, List.cons_append,
      breakOn?_divider_append_feed hls.1 hrest, ih hls.2 hmark.2, Option.map_map]
    simp only [Function.comp_def, List.append_assoc, List.cons_append]

/-- The first divider behind lines is the one that was put there. -/
theorem breakOn?_divider_unlines_divider (t : Text) :
    breakOn? lang.divider (unlines ls ++ (lang.divider ++ t)) = some (unlines ls, t) := by
  have hfront : ¬ lang.mark ++ ['\n'] <+: lang.divider ++ t := by
    rw [divider_eq_cons, List.cons_append]
    intro h
    exact lang.mark_ne_nil
      (Text.eq_of_prefix_append_feed (not_mem_mark hfeed) List.not_mem_nil h)
  rw [breakOn?_divider_unlines_append hfeed hls hmark hfront,
    Text.breakOn?_append lang.divider_ne_nil, Option.map_some, List.append_nil]

theorem breakOn?_divider_unlines : breakOn? lang.divider (unlines ls) = none := by
  have hnil : ¬ lang.mark ++ ['\n'] <+: [] := by simp
  have h := breakOn?_divider_unlines_append hfeed hls hmark hnil
  rwa [List.append_nil, Text.breakOn?_nil lang.divider_ne_nil, Option.map_none] at h

end Lines

/-! ## Joined lines -/

/-- **Cutting at dividers.** Joined groups of lines are cut into these groups. -/
theorem pieces_divider_intercalate (hfeed : '\n' ∉ lang.symbol) {groups : List (List Text)}
    (hne : groups ≠ []) (hlines : ∀ group ∈ groups, ∀ l ∈ group, '\n' ∉ l)
    (hmark : ∀ group ∈ groups, lang.mark ∉ group) :
    pieces lang.divider (lang.divider.intercalate (groups.map unlines)) = groups.map unlines := by
  induction groups with
  | nil => exact absurd rfl hne
  | cons g groups ih =>
    rw [List.forall_mem_cons] at hlines hmark
    cases groups with
    | nil =>
      rw [List.map_singleton, List.intercalate_singleton]
      exact Text.pieces_of_none (breakOn?_divider_unlines hfeed hlines.1 hmark.1)
    | cons g' groups =>
      have hrest := ih (List.cons_ne_nil _ _) hlines.2 hmark.2
      rw [List.map_cons] at hrest
      rw [List.map_cons, List.map_cons, List.intercalate_cons_cons, List.append_assoc,
        Text.pieces_of_some lang.divider_ne_nil
          (breakOn?_divider_unlines_divider hfeed hlines.1 hmark.1 _), hrest]

/-- **No false dividers.** If the mark reads as a comment, cutting the joined code of a source at
the dividers gives the code of its sections. So taking the dividers out leaves the code lines of the
source, and there is one divider less than there are sections. -/
theorem remove_divider_joinCode (lang : Language) (source : Text) (hfeed : '\n' ∉ lang.symbol)
    (hmark : lang.isComment lang.mark = true) :
    let sections := lineSections lang source
    let joined := lang.joinCode sections
    pieces lang.divider joined = sections.map (·.code) ∧
      Text.remove lang.divider joined =
        unlines (source.lines.filter fun line => !lang.isComment line) ∧
      tally lang.divider joined + 1 = sections.length := by
  intro sections joined
  obtain ⟨groups, hcodes, hlines⟩ := exists_codeGroups lang source
  have hmem : ∀ group ∈ groups, ∀ l ∈ group, l ∈ source.lines ∧ lang.isComment l = false := by
    intro group hgroup l hl
    have hflat : l ∈ groups.flatten := List.mem_flatten_of_mem hgroup hl
    rw [hlines, List.mem_filter, Bool.not_eq_true'] at hflat
    exact hflat
  have hne : groups ≠ [] := by
    rintro rfl
    exact lineSections_ne_nil lang source (List.map_eq_nil_iff.1 hcodes)
  have hpieces : pieces lang.divider joined = sections.map (·.code) := by
    show pieces lang.divider (lang.divider.intercalate (sections.map (·.code))) = _
    rw [hcodes]
    refine pieces_divider_intercalate hfeed hne (fun group hgroup l hl => ?_)
      fun group hgroup hl => ?_
    · exact Text.not_mem_of_mem_lines (hmem group hgroup l hl).1
    · -- a code line is no comment, and the mark is one
      rw [(hmem group hgroup lang.mark hl).2] at hmark
      cases hmark
  refine ⟨hpieces, ?_, ?_⟩
  · rw [Text.remove, hpieces, hcodes, ← hlines, Text.flatten_map_unlines]
  · rw [← Text.length_pieces, hpieces, List.length_map]

/-- Code with the mark in a line, behind a blank line and before a comment, and a last section
without code. -/
theorem remove_divider_joinCode_marks :
    let hash : Language := ⟨"python".toList, ['#'], .line⟩
    let source := "a #DIVIDER\n\n# one\n\nx#DIVIDER\n#two".toList
    let sections := lineSections hash source
    '\n' ∉ hash.symbol ∧ hash.isComment hash.mark = true ∧
      Text.remove hash.divider (hash.joinCode sections) =
        "a #DIVIDER\n\n\nx#DIVIDER\n".toList ∧
      tally hash.divider (hash.joinCode sections) + 1 = 3 := by
  intro hash source sections
  have hfeed : '\n' ∉ hash.symbol := by decide
  have hmark : hash.isComment hash.mark = true := by decide
  have h := remove_divider_joinCode hash source hfeed hmark
  refine ⟨hfeed, hmark, ?_, ?_⟩
  · rw [h.2.1]
    decide
  · rw [h.2.2]
    decide

end Language

end Marginalia
