import Marginalia.Section.Blocks
import Marginalia.Proofs.Fallbacks
import Marginalia.Proofs.LineBlocks

/-!
# From lines to fragments and back

A source of a line language is cut into sections, and their code goes through a faithful
highlighter. The lines that can be read off the fragments are compared with those of the source.

1. The code of the sections is made of the code lines. So a section holds the mark exactly if one
   of its lines does, and comments do not matter (`not_infix_code_iff`).
2. Sections without the mark keep their prose and code (`highlightSections_of_not_infix`), and the
   fragment of each shows the filled lines of its code (`Fragment.shownLines_wrap_escape`).
3. Nothing is lost at a divider and nothing is made up (`shownLines_highlightSections`).
-/

namespace Marginalia

open Text (filledLines trimFeeds unlines)

/-- A highlighter whose output for `lang` is always that of a faithful one. -/
def Highlighter.Faithful (highlight : Highlighter) (lang : Language) : Prop :=
  ∀ code, ∃ m : Manner, (highlight lang.name code).2 = .ok (m.highlight lang code)

/-- The lines of a fragment, as a reader of the page sees them, without the empty ones. -/
def Fragment.shownLines (fragment : Text) : List Text :=
  filledLines (Markup.unescape (Fragment.unwrap fragment))

/-! ## Code lines -/

section CodeLines

variable (lang : Language) (source : Text)

/-- Code holds the mark exactly if one of its lines does. -/
theorem not_infix_code_iff (hfeed : '\n' ∉ lang.symbol) :
    (∀ s ∈ lineSections lang source, ¬ lang.mark <:+: s.code) ↔
      ∀ line ∈ source.lines, lang.isComment line = false → ¬ lang.mark <:+: line := by
  obtain ⟨groups, hcodes, hlines⟩ := exists_codeGroups lang source
  have hgroup : ∀ group ∈ groups,
      (¬ lang.mark <:+: unlines group ↔ ∀ line ∈ group, ¬ lang.mark <:+: line) := by
    intro group _
    rw [Text.infix_unlines_iff lang.mark_ne_nil (Language.not_mem_mark hfeed)]
    simp only [not_exists, not_and]
  have hmap : (∀ s ∈ lineSections lang source, ¬ lang.mark <:+: s.code) ↔
      ∀ code ∈ (lineSections lang source).map (·.code), ¬ lang.mark <:+: code := by
    rw [List.forall_mem_map]
  rw [hmap, hcodes, List.forall_mem_map, forall₂_congr hgroup, ← List.forall_mem_flatten, hlines]
  simp only [List.mem_filter, Bool.not_eq_true', and_imp]

/-- The filled lines of all code are the filled code lines. -/
theorem flatMap_filledLines_code :
    (lineSections lang source).flatMap (fun s => filledLines s.code) =
      source.lines.filter fun line => !lang.isComment line && line ≠ [] := by
  obtain ⟨groups, hcodes, hlines⟩ := exists_codeGroups lang source
  have hgroup : ∀ group ∈ groups, filledLines (unlines group) = group.filter (· ≠ []) := by
    intro group hmem
    apply Text.filledLines_unlines
    intro line hline
    have : line ∈ groups.flatten := List.mem_flatten_of_mem hmem hline
    rw [hlines] at this
    exact Text.not_mem_of_mem_lines (List.mem_of_mem_filter this)
  calc (lineSections lang source).flatMap (fun s => filledLines s.code)
      = ((lineSections lang source).map (·.code)).flatMap filledLines :=
        (List.flatMap_map _ _ _).symm
    _ = groups.flatMap fun group => filledLines (unlines group) := by
        rw [hcodes, List.flatMap_map]
    _ = (groups.map (List.filter (· ≠ []))).flatten := by
        rw [List.flatMap_def, List.map_congr_left hgroup]
    _ = (source.lines.filter fun line => !lang.isComment line).filter (· ≠ []) := by
        rw [← List.filter_flatten, hlines]
    _ = source.lines.filter fun line => !lang.isComment line && line ≠ [] := by
        rw [List.filter_filter]
        exact List.filter_congr fun line _ => Bool.and_comm _ _

end CodeLines

/-! ## Fragments -/

/-- A fragment shows the filled lines of its code, whatever line feeds its ends lost. -/
theorem Fragment.shownLines_wrap_escape (front back : Bool) (code : Text) :
    Fragment.shownLines (Fragment.wrap (Markup.escape (trimFeeds front back code))) =
      filledLines code := by
  unfold Fragment.shownLines
  rw [Fragment.unwrap_wrap_escape, Markup.unescape_escape, Text.filledLines_trimFeeds]

section Highlighted

variable {highlight : Highlighter} {lang : Language} {sections : List Section}

/-- The answer for sections is the answer for their fragments. -/
theorem highlightSections_eq (hfaithful : highlight.Faithful lang) (render : Renderer)
    (sections : List Section) :
    ∃ m : Manner, (highlightSections highlight render lang sections).2 =
      (lang.splitHighlighted (m.highlight lang (lang.joinCode sections)) sections.length).map
        fun fragments => ⟨sections.zipWith (Section.highlighted render) fragments,
          fallbacksFrom render 0 sections⟩ := by
  obtain ⟨m, hm⟩ := hfaithful (lang.joinCode sections)
  exact ⟨m, highlightSections_of_ok hm⟩

theorem highlightSections_of_infix (hfaithful : highlight.Faithful lang)
    (hplain : Markup.Plain lang.symbol) (hfeed : '\n' ∉ lang.symbol) (render : Renderer)
    (h : ∃ s ∈ sections, lang.mark <:+: s.code) :
    ∃ fault, (highlightSections highlight render lang sections).2 = .error fault := by
  obtain ⟨m, hm⟩ := highlightSections_eq hfaithful render sections
  rw [hm, Language.splitHighlighted_of_infix hplain hfeed m h]
  exact ⟨_, rfl⟩

/-- Sections without the mark keep their prose and code, and each shows its own lines. -/
theorem highlightSections_of_not_infix (hfaithful : highlight.Faithful lang)
    (hplain : Markup.Plain lang.symbol) (hfeed : '\n' ∉ lang.symbol) (render : Renderer)
    (hne : sections ≠ []) (h : ∀ s ∈ sections, ¬ lang.mark <:+: s.code) :
    ∃ file, (highlightSections highlight render lang sections).2 = .ok file ∧
      file.sections.map (fun s => Section.mk s.docs s.code) = sections ∧
      file.sections.map (fun s => Fragment.shownLines s.codeMarkup) =
        sections.map fun s => filledLines s.code := by
  obtain ⟨m, hm⟩ := highlightSections_eq hfaithful render sections
  rw [hm, Language.splitHighlighted_of_not_infix hplain hfeed m hne h]
  refine ⟨_, rfl, ?_, ?_⟩
  · dsimp only
    rw [map_zipWith_highlighted render _ id (fun _ _ => rfl) List.length_mapIdx, List.map_id]
  · apply List.ext_getElem
    · simp
    · intro i _ _
      simp [Section.highlighted, Fragment.shownLines_wrap_escape]

end Highlighted

/-- **Fidelity.** Highlighting a source of a line language succeeds exactly if no code line holds
the mark. Then each fragment shows the filled lines of its section, and all fragments together show
the filled code lines of the source. -/
theorem shownLines_highlightSections (highlight : Highlighter) (render : Renderer)
    (lang : Language) (source : Text) (hstyle : lang.style = .line) (hfeed : '\n' ∉ lang.symbol)
    (hplain : Markup.Plain lang.symbol) (hfaithful : highlight.Faithful lang) :
    let sections := parseSections lang source
    let answer := (highlightSections highlight render lang sections).2
    ((∃ file, answer = .ok file) ↔
      ∀ line ∈ source.lines, lang.isComment line = false → ¬ lang.mark <:+: line) ∧
    ∀ file, answer = .ok file →
      file.sections.map (fun s => Section.mk s.docs s.code) = sections ∧
      (file.sections.map (fun s => Fragment.shownLines s.codeMarkup) =
        sections.map fun s => filledLines s.code) ∧
      file.sections.flatMap (fun s => Fragment.shownLines s.codeMarkup) =
        source.lines.filter fun line => !lang.isComment line && line ≠ [] := by
  intro sections answer
  have hsections : sections = lineSections lang source := by
    show parseSections lang source = _
    rw [parseSections, hstyle]
  have hne : sections ≠ [] := hsections ▸ lineSections_ne_nil lang source
  have hmarks := not_infix_code_iff lang source hfeed
  rw [← hsections] at hmarks
  by_cases h : ∀ s ∈ sections, ¬ lang.mark <:+: s.code
  · obtain ⟨file, hfile, hkept, hshown⟩ :=
      highlightSections_of_not_infix hfaithful hplain hfeed render hne h
    refine ⟨⟨fun _ => hmarks.1 h, fun _ => ⟨file, hfile⟩⟩, fun other hother => ?_⟩
    cases hfile.symm.trans hother
    refine ⟨hkept, hshown, ?_⟩
    rw [List.flatMap_def, hshown, ← List.flatMap_def, hsections, flatMap_filledLines_code]
  · obtain ⟨fault, hfault⟩ :=
      highlightSections_of_infix hfaithful hplain hfeed render (by simpa using h)
    have hnone : ∀ file, answer ≠ .ok file := by
      intro file hfile
      cases hfile.symm.trans hfault
    refine ⟨⟨?_, fun hlines => absurd (hmarks.2 hlines) h⟩, fun file hfile => ?_⟩
    · rintro ⟨file, hfile⟩
      exact absurd hfile (hnone file)
    · exact absurd hfile (hnone file)

/-- A mark in a comment is harmless, and the same mark behind code is not. -/
theorem shownLines_highlightSections_cases :
    let hash : Language := ⟨"python".toList, ['#'], .line⟩
    let m : Manner := ⟨fun _ => true, true, ['\n'], by simp⟩
    let highlight : Highlighter := fun _ code => ([], .ok (m.highlight hash code))
    let render : Renderer := fun _ => .error "no renderer".toList
    let source := "# one #DIVIDER\n\na < b\n\n#two\n\nc\n".toList
    let marked := "# one\na #DIVIDER\n".toList
    (∃ file,
      (highlightSections highlight render hash (parseSections hash source)).2 = .ok file ∧
      file.sections.flatMap (fun s => Fragment.shownLines s.codeMarkup) =
        ["a < b".toList, "c".toList]) ∧
    ¬ ∃ file, (highlightSections highlight render hash (parseSections hash marked)).2 =
      .ok file := by
  intro hash m highlight render source marked
  have hsource := shownLines_highlightSections highlight render hash source rfl (by decide)
    (by decide) fun _ => ⟨m, rfl⟩
  have hmarked := shownLines_highlightSections highlight render hash marked rfl (by decide)
    (by decide) fun _ => ⟨m, rfl⟩
  obtain ⟨file, hfile⟩ := hsource.1.2 (by decide)
  refine ⟨⟨file, hfile, ?_⟩, ?_⟩
  · rw [(hsource.2 file hfile).2.2]
    decide
  · rw [hmarked.1]
    decide

end Marginalia
