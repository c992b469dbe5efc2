import Marginalia.Proofs.Faithful
import Mathlib.Algebra.Ring.Nat

/-!
# Dividers there and back

The code of all sections is joined with dividers, highlighted, and cut again. The mark of a divider
stands on a line of its own, so marks in the joined code are those of the dividers and those of the
sections, and nothing else (`tally_joinCode`). `splitHighlighted_highlight` tells what comes back
from a faithful highlighter: one fragment for each section if no section holds the mark, and the
number of fragments found otherwise.
-/

namespace Marginalia.Language

open Text (pieces tally padSeams trimSeams trimFeeds)

variable {lang : Language}

/-! ## Joined code -/

theorem mark_ne_nil (lang : Language) : lang.mark ≠ [] :=
  List.append_ne_nil_of_right_ne_nil _ (by decide)

theorem not_mem_mark (h : '\n' ∉ lang.symbol) : '\n' ∉ lang.mark := by
  unfold mark
  rw [List.mem_append, not_or]
  exact ⟨h, by decide⟩

theorem intercalate_divider (c d : Text) (cs : List Text) :
    lang.divider.intercalate (c :: d :: cs) =
      c ++ '\n' :: (lang.mark ++ '\n' :: lang.divider.intercalate (d :: cs)) := by
  rw [List.intercalate_cons_cons, divider, List.append_assoc, List.append_assoc, List.cons_append,
    List.singleton_append]

/-- Codes without the mark are the pieces of the joined code, with the line feeds of the dividers
at their seams. -/
theorem pieces_intercalate (hfeed : '\n' ∉ lang.symbol) {cs : List Text} (hne : cs ≠ [])
    (h : ∀ c ∈ cs, ¬ lang.mark <:+: c) :
    pieces lang.mark (lang.divider.intercalate cs) = padSeams cs := by
  obtain ⟨c, cs, rfl⟩ := List.exists_cons_of_ne_nil hne
  clear hne
  induction cs generalizing c with
  | nil =>
    rw [List.intercalate_singleton, Text.padSeams_singleton]
    exact Text.pieces_of_not_infix (h c List.mem_cons_self)
  | cons d cs ih =>
    rw [List.forall_mem_cons] at h
    have hnil : ¬ lang.mark <:+: [] := by rw [List.infix_nil]; exact lang.mark_ne_nil
    have hfront := Text.pieces_append_feed_of_not_infix lang.mark_ne_nil (not_mem_mark hfeed) hnil
      (lang.divider.intercalate (d :: cs))
    rw [List.nil_append] at hfront
    rw [intercalate_divider,
      Text.pieces_append_feed_of_not_infix lang.mark_ne_nil (not_mem_mark hfeed) h.1,
      Text.pieces_append lang.mark_ne_nil, hfront, ih d h.2, Text.padSeams_cons_cons]
    rfl

/-- Every divider adds one mark to those of the codes. -/
theorem tally_intercalate (hfeed : '\n' ∉ lang.symbol) {cs : List Text} (hne : cs ≠ []) :
    tally lang.mark (lang.divider.intercalate cs) + 1 =
      cs.length + (cs.map (tally lang.mark)).sum := by
  obtain ⟨c, cs, rfl⟩ := List.exists_cons_of_ne_nil hne
  clear hne
  induction cs generalizing c with
  | nil =>
    rw [List.intercalate_singleton, List.map_singleton, List.sum_singleton, List.length_singleton]
    omega
  | cons d cs ih =>
    have hmark := not_mem_mark hfeed
    have hnil : tally lang.mark [] = 0 := (Text.tally_eq_zero_iff lang.mark_ne_nil []).2
      (by rw [List.infix_nil]; exact lang.mark_ne_nil)
    have hfront := Text.tally_append_feed lang.mark_ne_nil hmark []
      (lang.divider.intercalate (d :: cs))
    rw [List.nil_append] at hfront
    have := ih d
    rw [intercalate_divider, Text.tally_append_feed lang.mark_ne_nil hmark,
      Text.tally_append lang.mark_ne_nil, hfront, hnil, List.map_cons, List.sum_cons,
      List.length_cons]
    omega

/-- The marks in the joined code are those of the dividers and those of the sections. -/
theorem tally_joinCode (hfeed : '\n' ∉ lang.symbol) {sections : List Section}
    (hne : sections ≠ []) :
    tally lang.mark (lang.joinCode sections) + 1 =
      sections.length + (sections.map fun s => tally lang.mark s.code).sum := by
  have hcodes : sections.map (·.code) ≠ [] := by simpa using hne
  have h := tally_intercalate hfeed hcodes
  rwa [List.length_map, List.map_map] at h

theorem sum_tally_eq_zero_iff (sections : List Section) :
    (sections.map fun s => tally lang.mark s.code).sum = 0 ↔
      ∀ s ∈ sections, ¬ lang.mark <:+: s.code := by
  rw [List.sum_eq_zero_iff_forall_eq_nat, List.forall_mem_map]
  exact forall₂_congr fun s _ => Text.tally_eq_zero_iff lang.mark_ne_nil s.code

/-! ## The way back -/

/-- The answer for highlighted code, whatever code it is. -/
theorem splitHighlighted_eq (hplain : Markup.Plain lang.symbol) (m : Manner) (code : Text)
    (expected : Nat) :
    lang.splitHighlighted (m.highlight lang code) expected =
      if tally lang.mark code + 1 = expected then
        .ok ((trimSeams (pieces lang.mark code)).map fun t => Fragment.wrap (Markup.escape t))
      else .error (.misaligned expected (tally lang.mark code + 1)) := by
  have hcut : lang.cut (Fragment.unwrap (m.highlight lang code)) =
      (trimSeams (pieces lang.mark code)).map Markup.escape := by
    rw [lang.unwrap_highlight, lang.cut_markUp hplain _ (Text.pieces_ne_nil _ _)]
  have hlen : (lang.cut (Fragment.unwrap (m.highlight lang code))).length =
      tally lang.mark code + 1 := by
    rw [hcut, List.length_map, Text.length_trimSeams, Text.length_pieces]
  simp only [splitHighlighted, hlen]
  rw [hcut, List.map_map]
  rfl

theorem splitHighlighted_eq_of_not_plain (hplain : ¬ Markup.Plain lang.symbol) (m : Manner)
    (code : Text) (expected : Nat) :
    lang.splitHighlighted (m.highlight lang code) expected =
      if expected = 1 then .ok [Fragment.wrap (lang.markUp m.long (pieces lang.mark code))]
      else .error (.misaligned expected 1) := by
  simp only [splitHighlighted, lang.unwrap_highlight, lang.cut_markUp_of_not_plain hplain,
    List.length_singleton, List.map_singleton, eq_comm]

/-- Without marks in the sections, the pieces of the joined code are their codes. -/
theorem map_trimSeams_joinCode (hfeed : '\n' ∉ lang.symbol) {sections : List Section}
    (hne : sections ≠ []) (h : ∀ s ∈ sections, ¬ lang.mark <:+: s.code) (f : Text → Text) :
    (trimSeams (pieces lang.mark (lang.joinCode sections))).map f =
      sections.mapIdx fun i s => f (trimFeeds (0 < i) (i + 1 < sections.length) s.code) := by
  have hcodes : ∀ c ∈ sections.map (·.code), ¬ lang.mark <:+: c := List.forall_mem_map.2 h
  unfold joinCode
  rw [pieces_intercalate hfeed (by simpa using hne) hcodes, Text.trimSeams_padSeams, eq_comm,
    List.mapIdx_eq_iff]
  intro i
  unfold trimSeams
  rw [List.length_map, List.getElem?_map, List.getElem?_mapIdx, List.getElem?_map, Option.map_map,
    Option.map_map]
  rfl

/-- Sections without the mark come back one by one. -/
theorem splitHighlighted_of_not_infix (hplain : Markup.Plain lang.symbol)
    (hfeed : '\n' ∉ lang.symbol) (m : Manner) {sections : List Section} (hne : sections ≠ [])
    (h : ∀ s ∈ sections, ¬ lang.mark <:+: s.code) :
    lang.splitHighlighted (m.highlight lang (lang.joinCode sections)) sections.length =
      .ok (sections.mapIdx fun i s =>
        Fragment.wrap (Markup.escape (trimFeeds (0 < i) (i + 1 < sections.length) s.code))) := by
  have htally := tally_joinCode hfeed hne
  have hsum := (sum_tally_eq_zero_iff sections).2 h
  rw [splitHighlighted_eq hplain, if_pos (by omega), map_trimSeams_joinCode hfeed hne h]

/-- Marks in the sections are fragments too many. -/
theorem splitHighlighted_of_infix (hplain : Markup.Plain lang.symbol)
    (hfeed : '\n' ∉ lang.symbol) (m : Manner) {sections : List Section}
    (h : ∃ s ∈ sections, lang.mark <:+: s.code) :
    lang.splitHighlighted (m.highlight lang (lang.joinCode sections)) sections.length =
      .error (.misaligned sections.length
        (sections.length + (sections.map fun s => tally lang.mark s.code).sum)) := by
  obtain ⟨s, hs, hmark⟩ := h
  have htally := tally_joinCode hfeed (List.ne_nil_of_mem hs)
  have hsum : (sections.map fun s => tally lang.mark s.code).sum ≠ 0 :=
    fun h => (sum_tally_eq_zero_iff sections).1 h s hs hmark
  rw [splitHighlighted_eq hplain, if_neg (by omega), htally]

/-- **There and back.** If the symbol is plain, highlighted sections come back one by one exactly
when none of them holds the mark, and else every mark too many is counted. If it is not, a single
section comes back as it is, and several are never told apart. -/
theorem splitHighlighted_highlight (lang : Language) (m : Manner) (sections : List Section)
    (hfeed : '\n' ∉ lang.symbol) (hne : sections ≠ []) :
    let n := sections.length
    let code := lang.joinCode sections
    let answer := lang.splitHighlighted (m.highlight lang code) n
    (Markup.Plain lang.symbol →
      ((∃ fragments, answer = .ok fragments) ↔ ∀ s ∈ sections, ¬ lang.mark <:+: s.code) ∧
      ((∀ s ∈ sections, ¬ lang.mark <:+: s.code) →
        answer = .ok (sections.mapIdx fun i s =>
          Fragment.wrap (Markup.escape (trimFeeds (0 < i) (i + 1 < n) s.code)))) ∧
      ((∃ s ∈ sections, lang.mark <:+: s.code) →
        answer = .error (.misaligned n
          (n + (sections.map fun s => tally lang.mark s.code).sum)))) ∧
    (¬ Markup.Plain lang.symbol →
      answer = if n = 1 then .ok [Fragment.wrap (lang.markUp m.long (pieces lang.mark code))]
        else .error (.misaligned n 1)) := by
  intro n code answer
  refine ⟨fun hplain => ⟨⟨?_, fun h => ?_⟩, ?_, ?_⟩, fun hplain => ?_⟩
  · rintro ⟨fragments, hfragments⟩ s hs hmark
    have herror := splitHighlighted_of_infix hplain hfeed m ⟨s, hs, hmark⟩
    cases hfragments.symm.trans herror
  · exact ⟨_, splitHighlighted_of_not_infix hplain hfeed m hne h⟩
  · exact splitHighlighted_of_not_infix hplain hfeed m hne
  · exact splitHighlighted_of_infix hplain hfeed m
  · exact splitHighlighted_eq_of_not_plain hplain m code n

/-- Sections that meet in line feeds only, marks in a section, and a symbol that needs escaping. -/
theorem splitHighlighted_highlight_cases :
    let hash : Language := ⟨"python".toList, ['#'], .line⟩
    let angle : Language := ⟨"markup".toList, "<!".toList, .line⟩
    let m : Manner := ⟨fun n => n = 0, true, ['\r', '\n'], by simp⟩
    let apart : List Section :=
      [⟨[], "a < b\n\n".toList⟩, ⟨[], "\n".toList⟩, ⟨[], "\nc & d\n".toList⟩]
    let marked : List Section := [⟨[], "#DIVIDER\n#DIVIDER\n".toList⟩, ⟨[], "e\n".toList⟩]
    hash.splitHighlighted (m.highlight hash (hash.joinCode apart)) 3 =
        .ok [Fragment.wrap "a &lt; b".toList, Fragment.wrap [],
          Fragment.wrap "c &amp; d\n".toList] ∧
      hash.splitHighlighted (m.highlight hash (hash.joinCode marked)) 2 = .error (.misaligned 2 4) ∧
      angle.splitHighlighted (m.highlight angle (angle.joinCode apart)) 3 =
        .error (.misaligned 3 1) := by
  intro hash angle m apart marked
  have hapart := splitHighlighted_highlight hash m apart (by decide) (by decide)
  have hmarked := splitHighlighted_highlight hash m marked (by decide) (by decide)
  have hangle := splitHighlighted_highlight angle m apart (by decide) (by decide)
  have htally : (marked.map fun s => tally hash.mark s.code).sum = 2 := by decide +kernel
  rw [htally] at hmarked
  exact ⟨(hapart.1 (by decide)).2.1 (by decide), (hmarked.1 (by decide)).2.2 (by decide),
    hangle.2 (by decide)⟩

end Marginalia.Language
