import Marginalia.Section.Lines
import Marginalia.Proofs.LineFeeds
import Marginalia.Proofs.Runs

/-!
# Blocks of lines

The lines of a source are cut before each comment that directly follows code. Within a block all
comments stand before all code (`exists_append_of_mem_lineBlocks`), and each block is a section
(`lineSections_eq_map`). So there is one section more than places where a comment follows code, of
two neighbours the first has code and the second has prose (`isChain_sections`), and the code of all
sections is made of the code lines, group by group (`exists_codeGroups`).
-/

namespace Marginalia

namespace SourceLine

/-! ## One line more -/

theorem sections_cons (x : SourceLine) (ls : List SourceLine) :
    sections (x :: ls) = addTo x (sections ls) := rfl

theorem addTo_code_of_nil (text : Text) {s : Section} (hs : s.docs = []) (rest : List Section) :
    addTo (.code text) (s :: rest) = s.addCode (text ++ ['\n']) :: rest := if_pos hs

theorem addTo_code_of_ne_nil (text : Text) {s : Section} (hs : s.docs ≠ []) (rest : List Section) :
    addTo (.code text) (s :: rest) = ⟨[], text ++ ['\n']⟩ :: s :: rest := if_neg hs

theorem addTo_ne_nil (x : SourceLine) (ss : List Section) : addTo x ss ≠ [] := by
  unfold addTo
  split
  · exact List.cons_ne_nil _ _
  · exact List.cons_ne_nil _ _
  · split_ifs <;> exact List.cons_ne_nil _ _
  · exact List.cons_ne_nil _ _

theorem sections_ne_nil (ls : List SourceLine) : sections ls ≠ [] := by
  cases ls with
  | nil => exact List.cons_ne_nil _ _
  | cons x ls => exact addTo_ne_nil x (sections ls)

/-- Sections that follow one another: the first ends in code and the second starts with prose. -/
def Follows (s t : Section) : Prop := s.code ≠ [] ∧ t.docs ≠ []

/-- A line in front leaves the sections in such a row. -/
theorem isChain_addTo (x : SourceLine) {ss : List Section} (h : ss.IsChain Follows) :
    (addTo x ss).IsChain Follows := by
  cases x with
  | prose text =>
    cases ss with
    | nil => exact List.isChain_singleton _
    | cons s rest =>
      rw [addTo, List.isChain_cons]
      rw [List.isChain_cons] at h
      exact ⟨fun t ht => h.1 t ht, h.2⟩
  | code text =>
    cases ss with
    | nil => exact List.isChain_singleton _
    | cons s rest =>
      by_cases hs : s.docs = []
      · rw [addTo_code_of_nil text hs, List.isChain_cons]
        rw [List.isChain_cons] at h
        refine ⟨fun t ht => ⟨?_, (h.1 t ht).2⟩, h.2⟩
        exact List.append_ne_nil_of_right_ne_nil _ (h.1 t ht).1
      · rw [addTo_code_of_ne_nil text hs, List.isChain_cons_cons]
        exact ⟨⟨List.append_ne_nil_of_right_ne_nil _ (List.cons_ne_nil _ _), hs⟩, h⟩

theorem isChain_sections (ls : List SourceLine) : (sections ls).IsChain Follows := by
  induction ls with
  | nil => exact List.isChain_singleton _
  | cons x ls ih => exact isChain_addTo x ih

/-- The first section has no prose exactly if the first line is code. -/
theorem docs_head_sections (x : SourceLine) (ls : List SourceLine) {s : Section}
    {rest : List Section} (h : sections (x :: ls) = s :: rest) :
    s.docs = [] ↔ ∃ text, x = .code text := by
  obtain ⟨t, ts, ht⟩ := List.exists_cons_of_ne_nil (sections_ne_nil ls)
  rw [sections_cons, ht] at h
  cases x with
  | prose text =>
    cases h
    simp [Section.addDocs]
  | code text =>
    by_cases hd : t.docs = []
    · rw [addTo_code_of_nil text hd] at h
      cases h
      exact ⟨fun _ => ⟨text, rfl⟩, fun _ => hd⟩
    · rw [addTo_code_of_ne_nil text hd] at h
      cases h
      exact ⟨fun _ => ⟨text, rfl⟩, fun _ => rfl⟩

end SourceLine

namespace Language

variable (lang : Language)

/-! ## Blocks -/

/-- Two lines stay together unless a comment follows code. -/
def keeps (a b : Text) : Bool := lang.isComment a || !lang.isComment b

/-- The lines cut before each comment that directly follows code. -/
def lineBlocks (ls : List Text) : List (List Text) := ls.splitBy lang.keeps

/-- What a comment line says, without one carriage return at its end. -/
def said (line : Text) : Text := Text.dropFinal '\r' (lang.strip line)

/-- The section of a block of lines. -/
def blockSection (block : List Text) : Section :=
  ⟨Text.unlines ((block.filter lang.isComment).map lang.said),
    Text.unlines (block.filter fun line => !lang.isComment line)⟩

variable {lang}

theorem blockSection_cons_comment {a : Text} (ha : lang.isComment a = true) (block : List Text) :
    lang.blockSection (a :: block) =
      (lang.blockSection block).addDocs (lang.said a ++ ['\n']) := by
  unfold blockSection Section.addDocs
  rw [List.filter_cons_of_pos ha, List.filter_cons_of_neg (by simp [ha]), List.map_cons,
    Text.unlines_cons, List.append_assoc, List.singleton_append]

theorem blockSection_cons_code {a : Text} (ha : lang.isComment a = false) (block : List Text) :
    lang.blockSection (a :: block) = (lang.blockSection block).addCode (a ++ ['\n']) := by
  unfold blockSection Section.addCode
  rw [List.filter_cons_of_neg (by simp [ha]), List.filter_cons_of_pos (by simp [ha]),
    Text.unlines_cons, List.append_assoc, List.singleton_append]

theorem blockSection_singleton_code {a : Text} (ha : lang.isComment a = false) :
    lang.blockSection [a] = ⟨[], a ++ ['\n']⟩ := by
  rw [blockSection_cons_code ha]
  exact congrArg (Section.mk []) (List.append_nil _)

theorem classify_of_comment {a : Text} (ha : lang.isComment a = true) :
    SourceLine.classify lang a = .prose (lang.said a) := if_pos ha

theorem classify_of_code {a : Text} (ha : lang.isComment a = false) :
    SourceLine.classify lang a = .code a := if_neg (Bool.eq_false_iff.1 ha)

/-- **One section a block.** -/
theorem sections_classify (a : Text) (ls : List Text) :
    SourceLine.sections ((a :: ls).map (SourceLine.classify lang)) =
      (lang.lineBlocks (a :: ls)).map lang.blockSection := by
  unfold lineBlocks
  induction ls generalizing a with
  | nil =>
    show SourceLine.addTo (SourceLine.classify lang a) [Section.empty] = [lang.blockSection [a]]
    cases ha : lang.isComment a with
    | true => rw [classify_of_comment ha, blockSection_cons_comment ha]; rfl
    | false => rw [classify_of_code ha, blockSection_cons_code ha]; rfl
  | cons b ls ih =>
    obtain ⟨g, gs, hg⟩ := Runs.exists_splitBy_cons lang.keeps b ls
    have hhead := SourceLine.docs_head_sections (SourceLine.classify lang b)
      (ls.map (SourceLine.classify lang)) (by rw [← List.map_cons, ih b, hg, List.map_cons])
    rw [List.map_cons, SourceLine.sections_cons, ih b, Runs.splitBy_cons_cons, hg, List.map_cons]
    cases ha : lang.isComment a with
    | true =>
      rw [classify_of_comment ha, if_pos (by rw [keeps, ha]; rfl), List.modifyHead_cons,
        List.map_cons, blockSection_cons_comment ha]
      rfl
    | false =>
      rw [classify_of_code ha, SourceLine.addTo]
      cases hb : lang.isComment b with
      | true =>
        -- the next block has prose: the line is a block of its own
        rw [classify_of_comment hb] at hhead
        rw [if_neg (fun h => by obtain ⟨_, h⟩ := hhead.1 h; cases h),
          if_neg (by rw [keeps, ha, hb]; exact Bool.false_ne_true), List.map_cons, List.map_cons,
          blockSection_singleton_code ha]
      | false =>
        rw [classify_of_code hb] at hhead
        rw [if_pos (hhead.2 ⟨b, rfl⟩), if_pos (by rw [keeps, hb]; exact Bool.or_true _),
          List.modifyHead_cons, List.map_cons, blockSection_cons_code ha]

theorem lineSections_eq_map (source : Text) :
    lineSections lang source =
      if source.lines = [] then [Section.empty]
      else (lang.lineBlocks source.lines).map lang.blockSection := by
  unfold lineSections
  by_cases h : source.lines = []
  · rw [if_pos h, h]; rfl
  · rw [if_neg h]
    obtain ⟨a, ls, hls⟩ := List.exists_cons_of_ne_nil h
    rw [hls]
    exact sections_classify a ls

/-- Behind code a block goes on with code. -/
theorem isComment_eq_false_of_mem {a : Text} {ls : List Text}
    (hchain : (a :: ls).IsChain fun x y => lang.keeps x y) (ha : lang.isComment a = false) :
    ∀ l ∈ a :: ls, lang.isComment l = false := by
  induction ls generalizing a with
  | nil => rwa [List.forall_mem_singleton]
  | cons b ls ih =>
    rw [List.isChain_cons_cons, keeps, ha, Bool.false_or, Bool.not_eq_true'] at hchain
    rw [List.forall_mem_cons]
    exact ⟨ha, ih hchain.2 hchain.1⟩

/-- In a block all comments stand before all code. -/
theorem exists_append_of_mem_lineBlocks {ls block : List Text} (h : block ∈ lang.lineBlocks ls) :
    ∃ comments codes, block = comments ++ codes ∧ (∀ l ∈ comments, lang.isComment l = true) ∧
      ∀ l ∈ codes, lang.isComment l = false := by
  have hchain := List.isChain_of_mem_splitBy h
  clear h
  induction block with
  | nil => exact ⟨[], [], rfl, by simp, by simp⟩
  | cons a block ih =>
    cases ha : lang.isComment a with
    | false =>
      exact ⟨[], a :: block, rfl, by simp, isComment_eq_false_of_mem hchain ha⟩
    | true =>
      obtain ⟨comments, codes, rfl, hcomments, hcodes⟩ := ih hchain.tail
      exact ⟨a :: comments, codes, rfl, List.forall_mem_cons.2 ⟨ha, hcomments⟩, hcodes⟩

theorem length_lineSections (source : Text) :
    (lineSections lang source).length =
      1 + (source.lines.zip source.lines.tail).countP fun p =>
        !lang.isComment p.1 && lang.isComment p.2 := by
  have hcut : ∀ p : Text × Text,
      (!lang.keeps p.1 p.2) = (!lang.isComment p.1 && lang.isComment p.2) := by
    intro p
    rw [keeps, Bool.not_or, Bool.not_not]
  rw [lineSections_eq_map]
  by_cases h : source.lines = []
  · rw [if_pos h, h]; rfl
  · rw [if_neg h, List.length_map, lineBlocks, Runs.length_splitBy lang.keeps h]
    simp only [hcut]

end Language

theorem lineSections_ne_nil (lang : Language) (source : Text) : lineSections lang source ≠ [] :=
  SourceLine.sections_ne_nil _

/-- The code of the sections consists of the code lines, one group of them for each section. -/
theorem exists_codeGroups (lang : Language) (source : Text) :
    ∃ groups : List (List Text),
      (lineSections lang source).map (·.code) = groups.map Text.unlines ∧
      groups.flatten = source.lines.filter fun line => !lang.isComment line := by
  rw [Language.lineSections_eq_map]
  by_cases h : source.lines = []
  · refine ⟨[[]], ?_, ?_⟩
    · rw [if_pos h]; rfl
    · rw [h]; rfl
  · refine ⟨(lang.lineBlocks source.lines).map (List.filter fun line => !lang.isComment line),
      ?_, ?_⟩
    · rw [if_neg h, List.map_map, List.map_map]; rfl
    · rw [← List.filter_flatten, Language.lineBlocks, List.flatten_splitBy]

/-- **Sections of lines.** The lines are the pieces between line feeds, one section is made of each
block of them, and nothing is lost, doubled or moved. -/
theorem lineSections_eq_blocks (lang : Language) (source : Text) :
    let pieces := source.splitOn '\n'
    let ls := source.lines
    let blocks := lang.lineBlocks ls
    let sections := lineSections lang source
    (ls = if pieces.getLast? = some [] then pieces.dropLast else pieces) ∧
      (sections = if ls = [] then [Section.empty] else blocks.map lang.blockSection) ∧
      blocks.flatten = ls ∧
      (∀ block ∈ blocks, ∃ comments codes, block = comments ++ codes ∧
        (∀ l ∈ comments, lang.isComment l = true) ∧ ∀ l ∈ codes, lang.isComment l = false) ∧
      (sections.length = 1 + (ls.zip ls.tail).countP fun p =>
        !lang.isComment p.1 && lang.isComment p.2) ∧
      (∀ s ∈ sections.dropLast, s.code ≠ []) ∧
      ∀ s ∈ sections.tail, s.docs ≠ [] := by
  intro pieces ls blocks sections
  have hchain : sections.IsChain SourceLine.Follows := SourceLine.isChain_sections _
  refine ⟨Text.lines_eq source, Language.lineSections_eq_map source, List.flatten_splitBy _ _,
    fun block hblock => Language.exists_append_of_mem_lineBlocks hblock,
    Language.length_lineSections source, fun s hs => ?_, fun s hs => ?_⟩
  · obtain ⟨_, hcode, _⟩ := Runs.exists_of_mem_dropLast hchain hs
    exact hcode
  · obtain ⟨_, _, hdocs⟩ := Runs.exists_of_mem_tail hchain hs
    exact hdocs

end Marginalia
