import Marginalia.Proofs.BlockScan
import Marginalia.Proofs.LineFeeds

/-!
# Printed comment blocks

Sections of comment blocks can be printed: the prose of each stands in one comment, every line of it
behind a gutter, and code stands as it is.

1. A printed body holds no closer, and its prose is what was printed, whatever its lines look like
   (`not_infix_printBody`, `prose_printBody`).
2. A print is taken apart at its comments (`of_printBlocks`): code that ends in a slash does not
   move an opener, and prose that ends in a star does not move a closer.
3. Since there is code between any two comments, each section comes back (`sections_ofSections`), so
   reading undoes printing (`blockSections_printBlocks`).
-/

namespace Marginalia

/-! ## Printed prose -/

namespace Comment

/-- A line of prose behind a gutter. -/
def gutter (line : Text) : Text := '*' :: ' ' :: line

/-- Prose as the body of a comment. -/
def printBody (docs : Text) : Text := ['\n'].intercalate ((docs.splitOn '\n').map gutter)

/-- Prose as a comment. -/
def ofDocs (docs : Text) : Comment := ⟨some '*', printBody docs, true, []⟩

theorem dropGutter_gutter (line : Text) : dropGutter (gutter line) = line := by
  simp [gutter, dropGutter, Text.dropFirst]

theorem not_mem_gutter {line : Text} (h : '\n' ∉ line) : '\n' ∉ gutter line := by
  simp [gutter, h]

/-- Only a blank last line is emptied. -/
theorem emptyLast_of_not_blank {ls : List Text} (h : ∀ l ∈ ls, Text.allBlank l = false) :
    emptyLast ls = ls := by
  fun_induction emptyLast ls with
  | case1 => rfl
  | case2 line => rfl
  | case3 line last =>
    rw [if_neg (by simp [h last])]
  | case4 line lines _ _ ih =>
    rw [List.forall_mem_cons] at h
    rw [ih h.2]

theorem printBody_eq_cons (docs : Text) : ∃ t, printBody docs = '*' :: t := by
  obtain ⟨l, ls, hl⟩ := List.exists_cons_of_ne_nil (List.splitOn_ne_nil '\n' docs)
  rw [printBody, hl, List.map_cons]
  cases ls with
  | nil => exact ⟨_, rfl⟩
  | cons m ls => exact ⟨_, rfl⟩

/-- **Prose.** Reading takes off what printing put in front of each line. -/
theorem prose_printBody (docs : Text) : prose (printBody docs) = docs := by
  obtain ⟨t, ht⟩ := printBody_eq_cons docs
  have hfront : Text.dropFirst ' ' (printBody docs) = printBody docs := by
    rw [ht, Text.dropFirst, if_neg (by decide)]
  have hlines : (printBody docs).splitOn '\n' = (docs.splitOn '\n').map gutter := by
    apply List.splitOn_intercalate
    · intro l hl
      obtain ⟨line, hline, rfl⟩ := List.mem_map.1 hl
      exact not_mem_gutter (Text.not_mem_of_mem_splitOn hline)
    · simp [List.splitOn_ne_nil]
  have hid : dropGutter ∘ gutter = id := funext dropGutter_gutter
  have hblank : ∀ l ∈ (docs.splitOn '\n').map gutter, Text.allBlank l = false :=
    List.forall_mem_map.2 fun line _ => by simp [gutter, Text.allBlank, isBlank]
  rw [prose, hfront, hlines, emptyLast_of_not_blank hblank, List.map_map, hid, List.map_id,
    List.intercalate_splitOn]

/-- A closer in a printed body stands in one of its lines, behind the gutter. -/
theorem not_infix_printBody {docs : Text} (h : ¬ closer <:+: docs) :
    ¬ closer <:+: printBody docs := by
  have hne : closer ≠ [] := List.cons_ne_nil _ _
  have hfeed : '\n' ∉ closer := by decide
  rw [printBody, Text.infix_intercalate_feed_iff hne hfeed]
  rintro ⟨l, hl, hcloser⟩
  obtain ⟨line, hline, rfl⟩ := List.mem_map.1 hl
  have hnone : ¬ closer <:+: line := by
    intro hl
    have hdocs : ['\n'].intercalate (docs.splitOn '\n') = docs := List.intercalate_splitOn '\n'
    apply h
    rw [← hdocs, Text.infix_intercalate_feed_iff hne hfeed]
    exact ⟨line, hline, hl⟩
  rw [gutter, List.infix_cons_iff, List.infix_cons_iff] at hcloser
  rcases hcloser with hstar | hspace | hl
  · simp [closer] at hstar
  · simp [closer] at hspace
  · exact hnone hl

end Comment

/-! ## Printing -/

/-- A section as source text: its prose in one comment, and its code. -/
def Section.printBlock (s : Section) : Text :=
  "/**".toList ++ Comment.printBody s.docs ++ "*/".toList ++ s.code

/-- The source text of sections. -/
def printBlocks (ss : List Section) : Text := ss.flatMap Section.printBlock

/-- Sections that can be printed as comment blocks. -/
structure Section.BlocksPrintable (ss : List Section) : Prop where
  ne_nil : ss ≠ []
  closer_docs : ∀ s ∈ ss, ¬ Comment.closer <:+: s.docs
  opener_code : ∀ s ∈ ss, ¬ Comment.opener <:+: s.code
  feed_code : ∀ s ∈ ss, ¬ ['\n'] <+: s.code
  return_code : ∀ s ∈ ss, ¬ ['\r', '\n'] <+: s.code
  code_ne_nil : ∀ s ∈ ss.dropLast, s.code ≠ []

namespace Scan

open Comment (ofDocs)

/-- The comments of a print, each with the code after it. -/
def ofSections (ss : List Section) : List (Comment × Text) :=
  ss.map fun s => (ofDocs s.docs, s.code)

theorem commentsText_ofSections (ss : List Section) :
    commentsText (ofSections ss) = printBlocks ss := by
  unfold commentsText ofSections printBlocks
  rw [List.flatMap_map]
  refine List.flatMap_congr fun s _ => ?_
  simp [Comment.text, ofDocs, Section.printBlock, Comment.opener, Comment.closer]

/-- What follows a code that starts with no line break starts with none either. -/
theorem firstBreak_append {code : Text} {ss : List Section} (hfeed : ¬ ['\n'] <+: code)
    (hreturn : ¬ ['\r', '\n'] <+: code) :
    Comment.firstBreak (code ++ printBlocks ss) = [] := by
  cases ss with
  | nil =>
    rw [printBlocks, List.flatMap_nil, List.append_nil, Comment.firstBreak, if_neg hreturn,
      if_neg hfeed]
  | cons s ss =>
    -- the next comment starts with a slash, which is in no line break
    have hslash : ∃ t, printBlocks (s :: ss) = '/' :: t := ⟨_, rfl⟩
    obtain ⟨t, ht⟩ := hslash
    rw [ht, Comment.firstBreak,
      if_neg fun h => hreturn (Text.prefix_of_prefix_append_cons (by decide) h),
      if_neg fun h => hfeed (Text.prefix_of_prefix_append_cons (by decide) h)]

/-- The star behind an opener is never that of a closer, since a gutter follows it. -/
theorem firstMarker_inside (docs rest : Text) :
    Comment.firstMarker ((ofDocs docs).inside rest) = some '*' := by
  obtain ⟨t, ht⟩ := Comment.printBody_eq_cons docs
  simp [Comment.firstMarker, Comment.inside, ofDocs, ht, Comment.closer]

theorem fitting_ofSections {ss : List Section} (hdocs : ∀ s ∈ ss, ¬ Comment.closer <:+: s.docs)
    (hopener : ∀ s ∈ ss, ¬ Comment.opener <:+: s.code) (hfeed : ∀ s ∈ ss, ¬ ['\n'] <+: s.code)
    (hreturn : ∀ s ∈ ss, ¬ ['\r', '\n'] <+: s.code) : Fitting (ofSections ss) := by
  induction ss with
  | nil => trivial
  | cons s ss ih =>
    rw [List.forall_mem_cons] at hdocs hopener hfeed hreturn
    have hfits : (ofDocs s.docs).Fits (s.code ++ commentsText (ofSections ss)) := by
      refine ⟨(firstMarker_inside _ _).symm, Comment.not_infix_printBody hdocs.1, fun _ => ?_,
        fun h => ?_⟩
      · rw [commentsText_ofSections]
        exact (firstBreak_append hfeed.1 hreturn.1).symm
      · cases h
    exact ⟨hfits, hopener.1, ih hdocs.2 hopener.2 hfeed.2 hreturn.2⟩

/-- **Taking apart.** A print is taken apart into its comments, with nothing in front of them. -/
theorem of_printBlocks {ss : List Section} (h : Section.BlocksPrintable ss) :
    Of ⟨[], ofSections ss⟩ (printBlocks ss) where
  text := commentsText_ofSections ss
  lead := by simp [Comment.opener]
  comments := fitting_ofSections h.closer_docs h.opener_code h.feed_code h.return_code

/-- Code between any two comments keeps their sections apart. -/
theorem sections_ofSections {ss : List Section} (hne : ss ≠ [])
    (hcode : ∀ s ∈ ss.dropLast, s.code ≠ []) (lead : Text) :
    sections lead (ofSections ss) = if lead = [] then ss else ⟨[], lead⟩ :: ss := by
  have hdocs : ∀ s : Section, (ofDocs s.docs).docs = s.docs := by
    intro s
    rw [Comment.docs, ofDocs, Comment.prose_printBody, List.append_nil]
  induction ss generalizing lead with
  | nil => exact absurd rfl hne
  | cons s ss ih =>
    have hrest : (sections s.code (ofSections ss)).modifyHead (·.addDocs s.docs) = s :: ss := by
      cases ss with
      | nil => simp [ofSections, sections, Section.addDocs]
      | cons t ss =>
        rw [List.dropLast_cons_cons, List.forall_mem_cons] at hcode
        rw [ih (List.cons_ne_nil t ss) hcode.2, if_neg hcode.1, List.modifyHead_cons,
          Section.addDocs, List.append_nil]
    show sections lead ((ofDocs s.docs, s.code) :: ofSections ss) = _
    rw [sections_cons, hdocs, hrest]

end Scan

/-- **Reading undoes printing.** Sections with code between any two of them come back from their
print, whatever their prose looks like, as long as it closes no comment and the code opens none. -/
theorem blockSections_printBlocks (ss : List Section) (h : Section.BlocksPrintable ss) :
    blockSections (printBlocks ss) = ss := by
  have hscan : Scan.ofText (printBlocks ss) = ⟨[], Scan.ofSections ss⟩ :=
    ((Scan.of_iff _ _).1 (Scan.of_printBlocks h)).symm
  unfold blockSections
  rw [hscan]
  show Scan.sections [] (Scan.ofSections ss) = ss
  rw [Scan.sections_ofSections h.ne_nil h.code_ne_nil, if_pos rfl]

/-- Prose that ends in a star or looks like a gutter, code that ends in a slash, a section without
prose, and a last section without anything. -/
theorem blockSections_printBlocks_stars :
    let ss : List Section :=
      [⟨"one*\n  * two\n \n/ **".toList, "a /".toList⟩, ⟨[], "\r/".toList⟩, ⟨[], []⟩]
    Section.BlocksPrintable ss ∧ blockSections (printBlocks ss) = ss := by
  intro ss
  have hss : Section.BlocksPrintable ss :=
    ⟨by decide, by decide, by decide, by decide, by decide, by decide⟩
  exact ⟨hss, blockSections_printBlocks ss hss⟩

end Marginalia
