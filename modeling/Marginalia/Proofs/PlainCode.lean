import Marginalia.Section.Blocks
import Marginalia.Proofs.BlockScan
import Marginalia.Proofs.PrintedLines

/-!
# Code of sections

No documentation is left in the code of a section: taken for a source of its own, the code is one
section without prose.

1. Lines that are no comments make up one section (`lineSections_of_code`), and the code of a
   section of marked lines consists of such lines.
2. A text without opener is one section (`blockSections_of_not_infix`), and the code of a section of
   comment blocks is a stretch between comments (`map_code_sections_cons`), which holds no opener
   (`not_infix_of_mem_code`).
-/

namespace Marginalia

open Comment (opener)
open Text (Ended)

/-! ## Lines without comments -/

/-- Whole lines of code are one section. -/
theorem lineSections_of_code {lang : Language} {source : Text} (hended : Ended source)
    (hcode : ∀ l ∈ source.lines, lang.isComment l = false) :
    lineSections lang source = [⟨[], source⟩] := by
  have hlines : source.lines.map (SourceLine.classify lang) = source.lines.map .code :=
    List.map_congr_left fun l hl => Language.classify_of_code (hcode l hl)
  rw [lineSections, hlines]
  show (source.lines.map SourceLine.code).foldr SourceLine.addTo [⟨[], []⟩] = _
  rw [SourceLine.foldr_code_of_nil, Text.unlines_lines hended, List.append_nil]

/-! ## Text without comments -/

theorem blockSections_of_not_infix {source : Text} (h : ¬ opener <:+: source) :
    blockSections source = [⟨[], source⟩] := by
  unfold blockSections
  rw [Scan.ofText_of_none (Text.breakOn?_eq_none_iff.2 h)]
  rfl

namespace Scan

/-- Prose does not tell where code goes. -/
theorem map_code_sections_cons (lead : Text) (k : Comment) (code : Text)
    (more : List (Comment × Text)) :
    (sections lead ((k, code) :: more)).map (·.code) =
      if lead = [] then (sections code more).map (·.code)
      else lead :: (sections code more).map (·.code) := by
  have hdocs : ((sections code more).modifyHead (·.addDocs k.docs)).map (·.code) =
      (sections code more).map (·.code) := by
    cases sections code more with
    | nil => rfl
    | cons s ss => rfl
  rw [sections_cons]
  split_ifs
  · exact hdocs
  · rw [List.map_cons, hdocs]

/-- The code of the sections is code of the source, and that holds no opener. -/
theorem not_infix_of_mem_code {lead : Text} {comments : List (Comment × Text)}
    (hlead : ¬ opener <:+: lead) (hfit : Fitting comments) :
    ∀ c ∈ (sections lead comments).map (·.code), ¬ opener <:+: c := by
  induction comments generalizing lead with
  | nil => exact List.forall_mem_singleton.2 hlead
  | cons p more ih =>
    obtain ⟨-, hcode, hmore⟩ := hfit
    rw [map_code_sections_cons]
    split_ifs
    · exact ih hcode hmore
    · exact List.forall_mem_cons.2 ⟨hlead, ih hcode hmore⟩

end Scan

theorem not_infix_code_blockSections {source : Text} {s : Section} (hs : s ∈ blockSections source) :
    ¬ opener <:+: s.code :=
  Scan.not_infix_of_mem_code (Scan.ofText_of source).lead (Scan.ofText_of source).comments s.code
    (List.mem_map_of_mem hs)

/-- **Only code is left.** In either style the code of a section is a source with one section, which
has no prose and the same code. -/
theorem parseSections_code (lang : Language) (source : Text) :
    ∀ s ∈ parseSections lang source, parseSections lang s.code = [⟨[], s.code⟩] := by
  intro s hs
  unfold parseSections at hs ⊢
  cases hstyle : lang.style with
  | line =>
    rw [hstyle] at hs
    have hwell := wellFormed_lineSections lang source
    exact lineSections_of_code (hwell.code_ended s hs) (hwell.isComment_code s hs)
  | block =>
    rw [hstyle] at hs
    exact blockSections_of_not_infix (not_infix_code_blockSections hs)

/-- Code with a blank line and a carriage return, and code around a slash and a star. -/
theorem parseSections_code_cases :
    let hash : Language := ⟨"python".toList, ['#'], .line⟩
    let slashes : Language := ⟨"javascript".toList, ['/', '/'], .block⟩
    let s : Section := ⟨"one\n".toList, "x\n\n#!/y\r\n".toList⟩
    let t : Section := ⟨"two".toList, "/".toList⟩
    (s ∈ parseSections hash "# one\nx\n\n#!/y\r\n# two".toList ∧
      parseSections hash s.code = [⟨[], s.code⟩]) ∧
      t ∈ parseSections slashes "*//*two*//".toList ∧
      parseSections slashes t.code = [⟨[], t.code⟩] := by
  intro hash slashes s t
  have hs : s ∈ parseSections hash "# one\nx\n\n#!/y\r\n# two".toList := by decide
  have ht : t ∈ parseSections slashes "*//*two*//".toList := by decide +kernel
  exact ⟨⟨hs, parseSections_code hash _ s hs⟩, ht, parseSections_code slashes _ t ht⟩

end Marginalia
