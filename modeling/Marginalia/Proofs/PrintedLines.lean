import Marginalia.Proofs.LineBlocks

/-!
# Printed sections

Sections of marked lines can be printed: each line of prose stands behind the comment symbol and a
blank, with a carriage return and a line feed at its end, and code stands as it is.

1. A printed line of prose is a comment and says that line, whatever the line looks like
   (`isComment_printed`, `said_printed`).
2. The lines of a print are those of its sections (`lines_printSections`), and lines fall into the
   sections that they were taken from (`sections_sourceLines`).
3. So the sections of a print are the printed ones, and the sections of any source can be printed
   (`lineSections_printSections`).
-/

namespace Marginalia

namespace Text

/-! ## Texts of whole lines -/

/-- A text that is empty or ends in a line feed. -/
def Ended (t : Text) : Prop := t = [] ∨ t.getLast? = some '\n'

instance : DecidablePred Ended := fun _ => inferInstanceAs (Decidable (_ ∨ _))

theorem splitOn_unlines {ls : List Text} (h : ∀ l ∈ ls, '\n' ∉ l) :
    (unlines ls).splitOn '\n' = ls ++ [[]] := by
  induction ls with
  | nil => rfl
  | cons l ls ih =>
    rw [List.forall_mem_cons] at h
    rw [unlines_cons, List.splitOn_append_cons_self, ih h.2, List.splitOn_eq_singleton h.1]
    rfl

theorem lines_unlines {ls : List Text} (h : ∀ l ∈ ls, '\n' ∉ l) : lines (unlines ls) = ls := by
  rw [lines_eq, splitOn_unlines h, List.getLast?_concat, if_pos rfl, List.dropLast_concat]

theorem ended_unlines (ls : List Text) : Ended (unlines ls) := by
  induction ls using List.reverseRecOn with
  | nil => exact Or.inl rfl
  | append_singleton ls l _ =>
    right
    rw [unlines_append, unlines_cons, unlines_nil, ← List.append_assoc, List.getLast?_concat]

/-- Line feeds behind all pieces are line feeds between them and one at the end. -/
theorem unlines_eq_intercalate {ls : List Text} (h : ls ≠ []) :
    unlines ls = ['\n'].intercalate ls ++ ['\n'] := by
  induction ls with
  | nil => exact absurd rfl h
  | cons l ls ih =>
    cases ls with
    | nil => simp
    | cons m ls =>
      rw [unlines_cons, ih (List.cons_ne_nil m ls), List.intercalate_cons_cons]
      simp

theorem unlines_lines {t : Text} (h : Ended t) : unlines (lines t) = t := by
  rcases h with rfl | h
  · rfl
  · obtain ⟨u, rfl⟩ := List.getLast?_eq_some_iff.1 h
    rw [lines, if_neg (List.append_ne_nil_of_right_ne_nil u (List.cons_ne_nil _ _)),
      dropFinal_concat, if_pos rfl, unlines_eq_intercalate (List.splitOn_ne_nil _ u),
      List.intercalate_splitOn]

theorem lines_ne_nil {t : Text} (h : t ≠ []) : lines t ≠ [] := by
  unfold lines
  rw [if_neg h]
  exact List.splitOn_ne_nil _ _

end Text

open Text (Ended unlines)

/-! ## Printing -/

/-- A line of prose as a line of source. -/
def Language.printLine (lang : Language) (l : Text) : Text :=
  lang.symbol ++ ' ' :: l ++ ['\r', '\n']

/-- The source text of sections. -/
def Language.printSections (lang : Language) (ss : List Section) : Text :=
  ss.flatMap fun s => s.docs.lines.flatMap lang.printLine ++ s.code

/-- Sections that stand in the order of a source of marked lines. -/
structure Section.WellFormed (lang : Language) (ss : List Section) : Prop where
  ne_nil : ss ≠ []
  docs_ended : ∀ s ∈ ss, Ended s.docs
  code_ended : ∀ s ∈ ss, Ended s.code
  isComment_code : ∀ s ∈ ss, ∀ l ∈ s.code.lines, lang.isComment l = false
  code_ne_nil : ∀ s ∈ ss.dropLast, s.code ≠ []
  docs_ne_nil : ∀ s ∈ ss.tail, s.docs ≠ []

/-- Symbols behind which every line of prose can be printed. -/
structure Language.Printable (lang : Language) : Prop where
  head : ∃ c ∈ lang.symbol.head?, isBlank c = false
  not_feed : '\n' ∉ lang.symbol
  not_interpolation : ¬ ['#', '\x7b'] <+: lang.symbol
  not_interpreter : ¬ ['#', '!', '/'] <+: lang.symbol

/-! ## Printed lines of prose -/

namespace Language

variable {lang : Language}

/-- A printed line without its line feed. -/
def printed (lang : Language) (l : Text) : Text := lang.symbol ++ ' ' :: (l ++ ['\r'])

theorem not_mem_printed (hp : lang.Printable) {l : Text} (hl : '\n' ∉ l) :
    '\n' ∉ lang.printed l := by
  simp [printed, hp.not_feed, hl]

theorem unlines_printed (ls : List Text) :
    unlines (ls.map lang.printed) = ls.flatMap lang.printLine := by
  unfold unlines
  rw [List.flatMap_map]
  refine congrArg (List.flatMap · ls) ?_
  funext l
  simp [printed, printLine]

theorem afterSymbol?_printed (hp : lang.Printable) (l : Text) :
    afterSymbol? lang.symbol (lang.printed l) = some (' ' :: (l ++ ['\r'])) := by
  obtain ⟨c, hc, hblank⟩ := hp.head
  obtain ⟨rest, hrest⟩ := List.head?_eq_some_iff.1 hc
  have hline : lang.printed l = c :: (rest ++ ' ' :: (l ++ ['\r'])) := by
    rw [printed, hrest, List.cons_append]
  rw [hline, afterSymbol?, if_neg (by rw [hblank]; exact Bool.false_ne_true), ← hline]
  exact Text.after?_append _ _

/-- Behind the symbol nothing makes a line one that only looks like a comment. -/
theorem isSpared_printed (hp : lang.Printable) (l : Text) : isSpared (lang.printed l) = false := by
  obtain ⟨c, hc, hblank⟩ := hp.head
  obtain ⟨rest, hrest⟩ := List.head?_eq_some_iff.1 hc
  have hfront : (lang.printed l).dropWhile isBlank = lang.printed l := by
    rw [printed, hrest, List.cons_append, List.dropWhile_cons,
      if_neg (by rw [hblank]; exact Bool.false_ne_true)]
  rw [isSpared, hfront, Bool.or_eq_false_iff]
  constructor
  · rw [← Bool.not_eq_true, List.isPrefixOf_iff_prefix]
    intro h
    exact hp.not_interpreter (Text.prefix_of_prefix_append_cons (by decide) h)
  · rw [← Bool.not_eq_true, List.isPrefixOf_iff_prefix]
    intro h
    exact hp.not_interpolation (Text.prefix_of_prefix_append_cons (by decide) h)

theorem isComment_printed (hp : lang.Printable) (l : Text) :
    lang.isComment (lang.printed l) = true := by
  rw [isComment, marks, afterSymbol?_printed hp, isSpared_printed hp]
  rfl

/-- The blank and the carriage return are what reading a comment takes off. -/
theorem said_printed (hp : lang.Printable) (l : Text) : lang.said (lang.printed l) = l := by
  rw [said, strip, afterSymbol?_printed hp]
  show Text.dropFinal '\r' (l ++ ['\r']) = l
  rw [Text.dropFinal_concat, if_pos rfl]

end Language

/-! ## Lines and their sections -/

/-- The lines of a section. -/
def Section.sourceLines (s : Section) : List SourceLine :=
  s.docs.lines.map .prose ++ s.code.lines.map .code

namespace SourceLine

theorem foldr_prose (ls : List Text) (s : Section) (rest : List Section) :
    (ls.map prose).foldr addTo (s :: rest) = s.addDocs (unlines ls) :: rest := by
  induction ls with
  | nil => rfl
  | cons l ls ih =>
    rw [List.map_cons, List.foldr_cons, ih, addTo]
    simp [Section.addDocs]

/-- Code joins a section without prose. -/
theorem foldr_code_of_nil (ls : List Text) (code : Text) (rest : List Section) :
    (ls.map SourceLine.code).foldr addTo (⟨[], code⟩ :: rest) =
      ⟨[], unlines ls ++ code⟩ :: rest := by
  induction ls with
  | nil => rfl
  | cons l ls ih =>
    rw [List.map_cons, List.foldr_cons, ih, addTo_code_of_nil l rfl]
    simp [Section.addCode]

/-- Code in front of a section with prose is a section of its own. -/
theorem foldr_code_of_ne_nil {ls : List Text} (hls : ls ≠ []) {s : Section} (hs : s.docs ≠ [])
    (rest : List Section) :
    (ls.map SourceLine.code).foldr addTo (s :: rest) = ⟨[], unlines ls⟩ :: s :: rest := by
  rw [← List.dropLast_concat_getLast hls, List.map_append, List.foldr_append, List.map_singleton,
    List.foldr_cons, List.foldr_nil, addTo_code_of_ne_nil _ hs, foldr_code_of_nil,
    Text.unlines_append]
  simp

/-- Lines fall into the sections that they were taken from. -/
theorem sections_sourceLines {ss : List Section} (hne : ss ≠ [])
    (hdocs : ∀ s ∈ ss, Ended s.docs) (hcode : ∀ s ∈ ss, Ended s.code)
    (hchain : ss.IsChain Follows) : sections (ss.flatMap Section.sourceLines) = ss := by
  induction ss with
  | nil => exact absurd rfl hne
  | cons s ss ih =>
    rw [List.forall_mem_cons] at hdocs hcode
    have hfold : sections ((s :: ss).flatMap Section.sourceLines) =
        (s.docs.lines.map prose).foldr addTo
          ((s.code.lines.map code).foldr addTo (sections (ss.flatMap Section.sourceLines))) := by
      rw [List.flatMap_cons, Section.sourceLines, sections, List.foldr_append, List.foldr_append]
      rfl
    rw [hfold]
    cases ss with
    | nil =>
      show (s.docs.lines.map prose).foldr addTo
        ((s.code.lines.map code).foldr addTo [⟨[], []⟩]) = [s]
      rw [foldr_code_of_nil, foldr_prose, Section.addDocs, Text.unlines_lines hdocs.1,
        Text.unlines_lines hcode.1, List.append_nil, List.append_nil]
    | cons t ss =>
      rw [List.isChain_cons_cons] at hchain
      rw [ih (List.cons_ne_nil t ss) hdocs.2 hcode.2 hchain.2,
        foldr_code_of_ne_nil (Text.lines_ne_nil hchain.1.1) hchain.1.2, foldr_prose,
        Section.addDocs, Text.unlines_lines hdocs.1, Text.unlines_lines hcode.1, List.append_nil]

end SourceLine

/-! ## Well-formed lists of sections -/

namespace Section.WellFormed

open SourceLine (Follows)

variable {lang : Language} {ss : List Section}

theorem isChain (h : WellFormed lang ss) : ss.IsChain Follows := by
  obtain ⟨-, -, -, -, hcode, hdocs⟩ := h
  induction ss with
  | nil => exact List.isChain_nil
  | cons s ss ih =>
    cases ss with
    | nil => exact List.isChain_singleton s
    | cons t ss =>
      rw [List.dropLast_cons_cons, List.forall_mem_cons] at hcode
      rw [List.tail_cons, List.forall_mem_cons] at hdocs
      exact List.isChain_cons_cons.2 ⟨⟨hcode.1, hdocs.1⟩, ih hcode.2 hdocs.2⟩

/-- The lines of a print: prose as comments, and code. -/
theorem lines_printSections (hp : lang.Printable) (h : WellFormed lang ss) :
    (lang.printSections ss).lines =
      ss.flatMap fun s => s.docs.lines.map lang.printed ++ s.code.lines := by
  have hprint : lang.printSections ss =
      unlines (ss.flatMap fun s => s.docs.lines.map lang.printed ++ s.code.lines) := by
    rw [Language.printSections, unlines, List.flatMap_assoc]
    refine List.flatMap_congr fun s hs => ?_
    rw [← unlines, Text.unlines_append, Language.unlines_printed,
      Text.unlines_lines (h.code_ended s hs)]
  rw [hprint]
  apply Text.lines_unlines
  intro l hl
  obtain ⟨s, hs, hl⟩ := List.mem_flatMap.1 hl
  rcases List.mem_append.1 hl with hl | hl
  · obtain ⟨d, hd, rfl⟩ := List.mem_map.1 hl
    exact Language.not_mem_printed hp (Text.not_mem_of_mem_lines hd)
  · exact Text.not_mem_of_mem_lines hl

/-- Reading a print gives the sections back. -/
theorem lineSections_eq (hp : lang.Printable) (h : WellFormed lang ss) :
    lineSections lang (lang.printSections ss) = ss := by
  have hlines : (ss.flatMap fun s => s.docs.lines.map lang.printed ++ s.code.lines).map
      (SourceLine.classify lang) = ss.flatMap Section.sourceLines := by
    rw [List.map_flatMap]
    refine List.flatMap_congr fun s hs => ?_
    rw [List.map_append, List.map_map, Section.sourceLines]
    refine congrArg₂ _ (List.map_congr_left fun d _ => ?_) (List.map_congr_left fun l hl => ?_)
    · show SourceLine.classify lang (lang.printed d) = _
      rw [Language.classify_of_comment (Language.isComment_printed hp d),
        Language.said_printed hp]
    · exact Language.classify_of_code (h.isComment_code s hs l hl)
  rw [lineSections, lines_printSections hp h, hlines]
  exact SourceLine.sections_sourceLines h.ne_nil h.docs_ended h.code_ended h.isChain

end Section.WellFormed

/-- The sections of a source have whole lines, and their code has no comment. -/
theorem wellFormed_lineSections (lang : Language) (source : Text) :
    Section.WellFormed lang (lineSections lang source) := by
  have hchain : (lineSections lang source).IsChain SourceLine.Follows :=
    SourceLine.isChain_sections _
  -- each section is a block of lines, or the empty section of an empty source
  have hblock : ∀ s ∈ lineSections lang source, ∃ block, s = lang.blockSection block ∧
      ∀ l ∈ block, '\n' ∉ l := by
    intro s hs
    rw [Language.lineSections_eq_map] at hs
    by_cases h : source.lines = []
    · rw [if_pos h, List.mem_singleton] at hs
      exact ⟨[], hs, fun l hl => absurd hl List.not_mem_nil⟩
    · rw [if_neg h] at hs
      obtain ⟨block, hmem, rfl⟩ := List.mem_map.1 hs
      refine ⟨block, rfl, fun l hl => Text.not_mem_of_mem_lines (t := source) ?_⟩
      rw [← List.flatten_splitBy lang.keeps source.lines]
      exact List.mem_flatten_of_mem hmem hl
  refine ⟨SourceLine.sections_ne_nil _, fun s hs => ?_, fun s hs => ?_, fun s hs l hl => ?_,
    fun s hs => ?_, fun s hs => ?_⟩
  · obtain ⟨block, rfl, -⟩ := hblock s hs
    exact Text.ended_unlines _
  · obtain ⟨block, rfl, -⟩ := hblock s hs
    exact Text.ended_unlines _
  · obtain ⟨block, rfl, hfeed⟩ := hblock s hs
    rw [Language.blockSection,
      Text.lines_unlines fun l hl => hfeed l (List.mem_of_mem_filter hl), List.mem_filter,
      Bool.not_eq_true'] at hl
    exact hl.2
  · obtain ⟨_, hcode, _⟩ := Runs.exists_of_mem_dropLast hchain hs
    exact hcode
  · obtain ⟨_, _, hdocs⟩ := Runs.exists_of_mem_tail hchain hs
    exact hdocs

/-- **Printing undoes reading.** A well-formed list of sections is read back from its print; every
source has a well-formed list; so these lists are all that sources have, and printing and reading
again changes nothing. -/
theorem lineSections_printSections (lang : Language) (hp : lang.Printable) :
    (∀ ss, Section.WellFormed lang ss → lineSections lang (lang.printSections ss) = ss) ∧
      (∀ source, Section.WellFormed lang (lineSections lang source)) ∧
      (∀ ss, (∃ source, lineSections lang source = ss) ↔ Section.WellFormed lang ss) ∧
      ∀ source, lineSections lang (lang.printSections (lineSections lang source)) =
        lineSections lang source := by
  have hread : ∀ ss, Section.WellFormed lang ss →
      lineSections lang (lang.printSections ss) = ss :=
    fun ss h => h.lineSections_eq hp
  have hsound := wellFormed_lineSections lang
  refine ⟨hread, hsound, fun ss => ⟨?_, fun h => ⟨_, hread ss h⟩⟩,
    fun source => hread _ (hsound source)⟩
  rintro ⟨source, rfl⟩
  exact hsound source

/-- Prose that looks like a comment, an interpreter line or an interpolation, and prose that ends in
a carriage return. -/
theorem lineSections_printSections_hash :
    let hash : Language := ⟨"python".toList, ['#'], .line⟩
    let ss : List Section :=
      [⟨"# one\n#!/bin/sh\n".toList, "a\n".toList⟩, ⟨"#\x7bb\x7d\n\r\n".toList, "c\n".toList⟩]
    hash.Printable ∧ Section.WellFormed hash ss ∧
      lineSections hash (hash.printSections ss) = ss := by
  intro hash ss
  have hp : hash.Printable := ⟨⟨'#', rfl, by decide⟩, by decide, by decide, by decide⟩
  have hss : Section.WellFormed hash ss :=
    ⟨by decide, by decide, by decide, by decide, by decide, by decide⟩
  exact ⟨hp, hss, (lineSections_printSections hash hp).1 ss hss⟩

end Marginalia
