import Marginalia.Proofs.BlockScan
import Marginalia.Proofs.LineBlocks
import Marginalia.Proofs.Returns

/-!
# Line endings

What becomes of the sections of a source when a carriage return is put in front of each of its line
feeds.

1. Marked lines: a carriage return at the end of a line is blank, so it neither makes nor hides a
   comment (`isComment_concat_return`), and what a comment says does not have it
   (`said_concat_return`). Only code keeps it (`map_withoutReturns_lineSections`).
2. Comment blocks: a comment is read as before, with carriage returns in its body and behind its
   closer (`Fits.withReturns`). The gutters are those of the same lines (`prose_withReturns`), so
   source, prose and code change alike (`blockSections_withReturns`).
-/

namespace Marginalia

/-! ## Marked lines -/

namespace Language

variable {lang : Language} {line : Text}

/-- A carriage return is blank: it may be taken for a blank in front of an empty symbol, and else
stays at the end. -/
theorem afterSymbol?_concat_return {symbol : Text} (hsymbol : '\r' ∉ symbol) (line : Text) :
    afterSymbol? symbol (line ++ ['\r']) = (afterSymbol? symbol line).map (· ++ ['\r']) ∨
      afterSymbol? symbol (line ++ ['\r']) = some [] ∧ afterSymbol? symbol line = some [] := by
  induction line with
  | nil =>
    cases symbol with
    | nil => exact Or.inr ⟨rfl, rfl⟩
    | cons c symbol =>
      rw [List.mem_cons, not_or] at hsymbol
      left
      show (none : Option Text).or (Text.after? (c :: symbol) ['\r']) = none
      rw [Text.after?_cons_of_ne (Ne.symm hsymbol.1)]
      rfl
  | cons c line ih =>
    have hafter := Text.after?_append_cons hsymbol (c :: line) []
    rw [List.cons_append] at hafter
    rw [List.cons_append, afterSymbol?, afterSymbol?]
    by_cases hc : isBlank c = true
    · rw [if_pos hc, if_pos hc, hafter]
      rcases ih with ih | ⟨ih, ih'⟩
      · left
        rw [ih, Option.map_or]
      · right
        rw [ih, ih']
        exact ⟨rfl, rfl⟩
    · rw [if_neg hc, if_neg hc]
      exact Or.inl hafter

theorem isSpared_concat_return (line : Text) : isSpared (line ++ ['\r']) = isSpared line := by
  unfold isSpared
  rw [Text.isPrefixOf_concat (by decide), List.dropWhile_append]
  by_cases h : (line.dropWhile isBlank).isEmpty
  · rw [if_pos h, List.isEmpty_iff.1 h]
    rfl
  · rw [if_neg h, Text.isPrefixOf_concat (by decide)]

theorem isComment_concat_return (hsymbol : '\r' ∉ lang.symbol) (line : Text) :
    lang.isComment (line ++ ['\r']) = lang.isComment line := by
  unfold isComment marks
  rw [isSpared_concat_return]
  rcases afterSymbol?_concat_return hsymbol line with h | ⟨h, h'⟩
  · rw [h, Option.isSome_map]
  · rw [h, h']

theorem dropFinal_dropBlank_concat (t : Text) :
    Text.dropFinal '\r' (dropBlank (t ++ ['\r'])) = dropBlank t := by
  cases t with
  | nil => rfl
  | cons c t =>
    show Text.dropFinal '\r' (if isBlank c then t ++ ['\r'] else c :: t ++ ['\r']) = _
    rw [dropBlank]
    split_ifs
    · rw [Text.dropFinal_concat, if_pos rfl]
    · rw [Text.dropFinal_concat, if_pos rfl]

theorem afterSymbol?_suffix {symbol line rest : Text} (h : afterSymbol? symbol line = some rest) :
    rest <:+ line := by
  induction line with
  | nil => exact Text.suffix_of_after? h
  | cons c line ih =>
    rw [afterSymbol?] at h
    split_ifs at h
    · rw [Option.or_eq_some_iff] at h
      rcases h with h | ⟨-, h⟩
      · exact (ih h).trans (List.suffix_cons c line)
      · exact Text.suffix_of_after? h
    · exact Text.suffix_of_after? h

theorem dropBlank_suffix (t : Text) : dropBlank t <:+ t := by
  cases t with
  | nil => exact List.suffix_refl []
  | cons c t =>
    rw [dropBlank]
    split_ifs
    · exact List.suffix_cons c t
    · exact List.suffix_refl _

theorem strip_suffix (lang : Language) (line : Text) : lang.strip line <:+ line := by
  unfold strip
  cases h : afterSymbol? lang.symbol line with
  | none => exact List.suffix_refl line
  | some rest => exact (dropBlank_suffix rest).trans (afterSymbol?_suffix h)

theorem dropFinal_strip_concat (hsymbol : '\r' ∉ lang.symbol) (line : Text) :
    Text.dropFinal '\r' (lang.strip (line ++ ['\r'])) = lang.strip line := by
  unfold strip
  rcases afterSymbol?_concat_return hsymbol line with h | ⟨h, h'⟩
  · rw [h]
    cases afterSymbol? lang.symbol line with
    | none =>
      show Text.dropFinal '\r' (line ++ ['\r']) = line
      rw [Text.dropFinal_concat, if_pos rfl]
    | some rest => exact dropFinal_dropBlank_concat rest
  · rw [h, h']
    rfl

theorem said_concat_return (hsymbol : '\r' ∉ lang.symbol) (hline : '\r' ∉ line) :
    lang.said (line ++ ['\r']) = lang.said line := by
  have hstrip : '\r' ∉ lang.strip line := fun h => hline ((strip_suffix lang line).subset h)
  unfold said
  rw [dropFinal_strip_concat hsymbol, Text.dropFinal_eq_self hstrip]

end Language

/-- `s` without the carriage returns of its code. -/
def Section.withoutReturns (s : Section) : Section := ⟨s.docs, s.code.withoutReturns⟩

namespace SourceLine

/-- A line without the carriage returns of code. -/
def withoutReturns : SourceLine → SourceLine
  | .prose text => .prose text
  | .code text => .code text.withoutReturns

theorem classify_concat_return {lang : Language} (hsymbol : '\r' ∉ lang.symbol) {line : Text}
    (hline : '\r' ∉ line) :
    (classify lang (line ++ ['\r'])).withoutReturns = (classify lang line).withoutReturns := by
  have hcomment := Language.isComment_concat_return hsymbol line
  cases h : lang.isComment line with
  | true =>
    rw [Language.classify_of_comment h, Language.classify_of_comment (hcomment.trans h),
      Language.said_concat_return hsymbol hline]
  | false =>
    rw [Language.classify_of_code h, Language.classify_of_code (hcomment.trans h), withoutReturns,
      Text.withoutReturns_append, show Text.withoutReturns ['\r'] = [] from rfl, List.append_nil]
    rfl

/-- Carriage returns of code do not tell where it goes. -/
theorem map_withoutReturns_addTo (x : SourceLine) (ss : List Section) :
    (addTo x ss).map Section.withoutReturns =
      addTo x.withoutReturns (ss.map Section.withoutReturns) := by
  have hline : ∀ text : Text,
      Text.withoutReturns (text ++ ['\n']) = text.withoutReturns ++ ['\n'] :=
    fun text => Text.withoutReturns_append text ['\n']
  cases ss with
  | nil =>
    cases x with
    | prose text => rfl
    | code text => exact congrArg (fun code => [Section.mk [] code]) (hline text)
  | cons s rest =>
    cases x with
    | prose text => rfl
    | code text =>
      by_cases hs : s.docs = []
      · have hs' : s.withoutReturns.docs = [] := hs
        rw [addTo_code_of_nil text hs, List.map_cons, List.map_cons, withoutReturns,
          addTo_code_of_nil _ hs', ← hline]
        simp [Section.addCode, Section.withoutReturns, Text.withoutReturns]
      · have hs' : s.withoutReturns.docs ≠ [] := hs
        rw [addTo_code_of_ne_nil text hs, List.map_cons, List.map_cons, withoutReturns,
          addTo_code_of_ne_nil _ hs', ← hline]
        rfl

theorem map_withoutReturns_sections (ls : List SourceLine) :
    (sections ls).map Section.withoutReturns = sections (ls.map withoutReturns) := by
  induction ls with
  | nil => rfl
  | cons x ls ih => rw [sections_cons, map_withoutReturns_addTo, ih, List.map_cons, sections_cons]

end SourceLine

/-- Marked lines with carriage returns have the same sections, but for those in their code. -/
theorem map_withoutReturns_lineSections {lang : Language} (hsymbol : '\r' ∉ lang.symbol)
    {source : Text} (hsource : '\r' ∉ source) :
    (lineSections lang source.withReturns).map Section.withoutReturns =
      (lineSections lang source).map Section.withoutReturns := by
  have hline : ∀ l ∈ source.splitOn '\n', '\r' ∉ l := fun l hl h =>
    hsource (Text.mem_of_mem_splitOn_feed hl h (by decide))
  unfold lineSections
  rw [SourceLine.map_withoutReturns_sections, SourceLine.map_withoutReturns_sections, List.map_map,
    List.map_map, Text.map_lines_withReturns fun l hl =>
      SourceLine.classify_concat_return hsymbol (hline l hl)]

/-! ## Comments -/

namespace Comment

open Text (withReturns_append withReturns_cons_of_ne withReturns_eq_self)

/-- A comment with a carriage return in front of each line feed. -/
def withReturns (k : Comment) : Comment :=
  ⟨k.marker, k.body.withReturns, k.closed, k.lineBreak.withReturns⟩

/-! ### Prose -/

theorem dropFirst_concat_return (t : Text) :
    Text.dropFirst ' ' (t ++ ['\r']) = Text.dropFirst ' ' t ++ ['\r'] := by
  cases t with
  | nil => rfl
  | cons c t =>
    rw [List.cons_append, Text.dropFirst, Text.dropFirst]
    split_ifs
    · rfl
    · rfl

theorem dropFirst_withReturns (t : Text) :
    Text.dropFirst ' ' t.withReturns = (Text.dropFirst ' ' t).withReturns := by
  cases t with
  | nil => rfl
  | cons c t =>
    by_cases hc : c = '\n'
    · rw [hc]
      rfl
    · rw [withReturns_cons_of_ne hc, Text.dropFirst, Text.dropFirst]
      split_ifs
      · rfl
      · exact (withReturns_cons_of_ne hc t).symm

/-- A gutter stands at the front of a line, and a carriage return at its end. -/
theorem dropGutter_concat_return (line : Text) :
    dropGutter (line ++ ['\r']) = dropGutter line ++ ['\r'] := by
  have hfront : (line ++ ['\r']).dropWhile (fun c => c = ' ' || c = '\t') =
      line.dropWhile (fun c => c = ' ' || c = '\t') ++ ['\r'] := by
    rw [List.dropWhile_append]
    split_ifs with h
    · rw [List.isEmpty_iff.1 h]
      rfl
    · rfl
  unfold dropGutter
  rw [hfront]
  cases line.dropWhile fun c => c = ' ' || c = '\t' with
  | nil => rfl
  | cons c rest =>
    by_cases hc : c = '*'
    · subst hc
      exact dropFirst_concat_return rest
    · rw [List.cons_append]
      split
      · next h => cases h; exact absurd rfl hc
      · split
        · next h => cases h; exact absurd rfl hc
        · rfl

theorem dropGutter_suffix (line : Text) : dropGutter line <:+ line := by
  unfold dropGutter
  split
  · next rest h =>
    have hline := List.dropWhile_suffix (l := line) fun c => c = ' ' || c = '\t'
    rw [h] at hline
    exact ((Text.dropFirst_suffix ' ' rest).trans (List.suffix_cons '*' rest)).trans hline
  · exact List.suffix_refl line

theorem emptyLast_concat (l : Text) (ls : List Text) (last : Text) :
    emptyLast (l :: ls ++ [last]) = l :: ls ++ [if Text.allBlank last then [] else last] := by
  induction ls generalizing l with
  | nil => rfl
  | cons m ls ih =>
    have hcons : emptyLast (l :: m :: ls ++ [last]) = l :: emptyLast (m :: ls ++ [last]) := by
      cases ls with
      | nil => rfl
      | cons n ls => rfl
    rw [hcons, ih]
    rfl

/-- The last line has no carriage return, so it is blank or not as before. -/
theorem emptyLast_returnLines (ls : List Text) :
    emptyLast (Text.returnLines ls) = Text.returnLines (emptyLast ls) := by
  cases ls with
  | nil => rfl
  | cons l ls =>
    rcases List.eq_nil_or_concat ls with rfl | ⟨ls, last, rfl⟩
    · rfl
    · rw [List.concat_eq_append, ← List.cons_append, Text.returnLines_concat, List.map_cons,
        emptyLast_concat, emptyLast_concat, Text.returnLines_concat, List.map_cons]

theorem mem_emptyLast {l : Text} {ls : List Text} (h : l ∈ emptyLast ls) : l = [] ∨ l ∈ ls := by
  cases ls with
  | nil => exact Or.inr h
  | cons m ls =>
    rcases List.eq_nil_or_concat ls with rfl | ⟨ls, last, rfl⟩
    · exact Or.inr h
    · rw [List.concat_eq_append, ← List.cons_append] at h ⊢
      rw [emptyLast_concat, List.mem_append, List.mem_singleton] at h
      rcases h with h | h
      · exact Or.inr (List.mem_append_left _ h)
      · split_ifs at h
        · exact Or.inl h
        · exact Or.inr (List.mem_append_right _ (List.mem_singleton.2 h))

/-- **Prose.** Carriage returns in a body are carriage returns in its prose. -/
theorem prose_withReturns (body : Text) : prose body.withReturns = (prose body).withReturns := by
  have hfeed : ∀ l ∈ (emptyLast ((Text.dropFirst ' ' body).splitOn '\n')).map dropGutter,
      '\n' ∉ l := by
    intro l hl
    obtain ⟨line, hline, rfl⟩ := List.mem_map.1 hl
    intro h
    have hmem := (dropGutter_suffix line).subset h
    rcases mem_emptyLast hline with rfl | hline
    · exact List.not_mem_nil hmem
    · exact Text.not_mem_of_mem_splitOn hline hmem
  unfold prose
  rw [dropFirst_withReturns, Text.splitOn_withReturns, emptyLast_returnLines,
    Text.map_returnLines dropGutter_concat_return, Text.withReturns_intercalate hfeed]

theorem docs_withReturns (k : Comment) : k.withReturns.docs = k.docs.withReturns := by
  unfold docs
  rw [withReturns_append, ← prose_withReturns]
  rfl

/-! ### Reading -/

variable {k : Comment} {rest t : Text}

/-- Carriage returns in front of line feeds are no markers, and do not part closers. -/
theorem firstMarker_withReturns (ht : '\r' ∉ t) : firstMarker t.withReturns = firstMarker t := by
  have hcloser : closer <+: t.withReturns ↔ closer <+: t :=
    Text.prefix_withReturns_iff (by decide) ht (by decide)
  unfold firstMarker
  simp only [hcloser]
  split_ifs
  · rfl
  · cases t with
    | nil => rfl
    | cons c t =>
      by_cases hc : c = '\n'
      · rw [hc]
        rfl
      · rw [withReturns_cons_of_ne hc]
        rfl

theorem firstBreak_withReturns (ht : '\r' ∉ t) :
    firstBreak t.withReturns = (firstBreak t).withReturns := by
  cases t with
  | nil => rfl
  | cons c t =>
    rw [List.mem_cons, not_or] at ht
    by_cases hc : c = '\n'
    · subst hc
      simp [firstBreak, Text.withReturns]
    · rw [withReturns_cons_of_ne hc]
      simp [firstBreak, Ne.symm hc, ht.1]

theorem inside_withReturns (hmarker : '\n' ∉ k.marker.toList) (rest : Text) :
    k.withReturns.inside rest.withReturns = (k.inside rest).withReturns := by
  have hcloser :
      (if k.closed then closer else []).withReturns = if k.closed then closer else [] := by
    split_ifs
    · rfl
    · rfl
  unfold inside
  rw [withReturns_append, withReturns_append, withReturns_append, withReturns_append, hcloser,
    withReturns_eq_self hmarker]
  rfl

/-- A marker is a star or an exclamation mark. -/
theorem Fits.not_mem_marker (h : k.Fits rest) : '\n' ∉ k.marker.toList := by
  rw [h.marker]
  unfold firstMarker
  split_ifs
  · simp
  · intro hmem
    rw [Option.mem_toList, Option.filter_eq_some_iff] at hmem
    simp at hmem

theorem Fits.withReturns (h : k.Fits rest) (hinside : '\r' ∉ k.inside rest) :
    k.withReturns.Fits rest.withReturns where
  marker := by
    rw [inside_withReturns h.not_mem_marker, firstMarker_withReturns hinside]
    exact h.marker
  body := by
    intro hcloser
    have hbody : '\r' ∉ k.body := fun h => hinside (by simp [inside, h])
    exact h.body (Text.infix_of_infix_withReturns (by decide) hbody hcloser)
  lineBreak := by
    intro hclosed
    have hbreak : '\r' ∉ k.lineBreak ++ rest := fun h => hinside (by
      rw [inside]
      exact List.mem_append_right _ (List.mem_append_right _ (List.mem_append_right _ h)))
    show k.lineBreak.withReturns = firstBreak (k.lineBreak.withReturns ++ rest.withReturns)
    rw [← withReturns_append, firstBreak_withReturns hbreak, ← h.lineBreak hclosed]
  ending := by
    intro hopen
    obtain ⟨hbreak, hrest⟩ := h.ending hopen
    exact ⟨Text.withReturns_eq_nil_iff.2 hbreak, Text.withReturns_eq_nil_iff.2 hrest⟩

theorem text_withReturns (h : k.Fits rest) : k.withReturns.text = k.text.withReturns := by
  have htext := k.text_append []
  have htext' := k.withReturns.text_append []
  have hinside := inside_withReturns h.not_mem_marker []
  rw [List.append_nil] at htext htext'
  rw [Text.withReturns_nil] at hinside
  rw [htext, htext', hinside, withReturns_cons_of_ne (by decide),
    withReturns_cons_of_ne (by decide)]

end Comment

/-- `s` with a carriage return in front of each line feed. -/
def Section.withReturns (s : Section) : Section := ⟨s.docs.withReturns, s.code.withReturns⟩

namespace Scan

open Comment (opener)

/-- Comments and the code after each, with a carriage return in front of each line feed. -/
def returnComments (comments : List (Comment × Text)) : List (Comment × Text) :=
  comments.map fun p => (p.1.withReturns, p.2.withReturns)

theorem commentsText_returnComments {comments : List (Comment × Text)} (h : Fitting comments) :
    commentsText (returnComments comments) = (commentsText comments).withReturns := by
  induction comments with
  | nil => rfl
  | cons p more ih =>
    obtain ⟨k, code⟩ := p
    obtain ⟨hfits, -, hmore⟩ := h
    rw [commentsText_cons, Text.withReturns_append, Text.withReturns_append, ← ih hmore,
      ← Comment.text_withReturns hfits, ← commentsText_cons]
    rfl

theorem fitting_returnComments {comments : List (Comment × Text)} (h : Fitting comments)
    (hreturn : '\r' ∉ commentsText comments) : Fitting (returnComments comments) := by
  induction comments with
  | nil => trivial
  | cons p more ih =>
    obtain ⟨k, code⟩ := p
    obtain ⟨hfits, hcode, hmore⟩ := h
    rw [commentsText_cons, Comment.text_append, List.mem_cons, List.mem_cons, not_or, not_or]
      at hreturn
    have hinside := hreturn.2.2
    have hrest : '\r' ∉ code ++ commentsText more :=
      fun h => hinside ((k.suffix_inside _).subset h)
    rw [List.mem_append, not_or] at hrest
    have hfits' := hfits.withReturns hinside
    rw [Text.withReturns_append, ← commentsText_returnComments hmore] at hfits'
    exact ⟨hfits', fun h => hcode (Text.infix_of_infix_withReturns (by decide) hrest.1 h),
      ih hmore hrest.2⟩

theorem of_withReturns {s : Scan} {source : Text} (h : s.Of source) (hsource : '\r' ∉ source) :
    Of ⟨s.lead.withReturns, returnComments s.comments⟩ source.withReturns := by
  rw [← h.lead_append, List.mem_append, not_or] at hsource
  refine ⟨?_, fun hopener => ?_, fitting_returnComments h.comments hsource.2⟩
  · rw [← h.lead_append, Text.withReturns_append, ← commentsText_returnComments h.comments]
    rfl
  · exact h.lead (Text.infix_of_infix_withReturns (by decide) hsource.1 hopener)

theorem map_withReturns_sections (lead : Text) (comments : List (Comment × Text)) :
    (sections lead comments).map Section.withReturns =
      sections lead.withReturns (returnComments comments) := by
  induction comments generalizing lead with
  | nil => rfl
  | cons p more ih =>
    obtain ⟨k, code⟩ := p
    have hdocs : ((sections code more).modifyHead (·.addDocs k.docs)).map Section.withReturns =
        ((sections code more).map Section.withReturns).modifyHead
          (·.addDocs k.withReturns.docs) := by
      cases sections code more with
      | nil => rfl
      | cons s ss =>
        rw [List.modifyHead_cons, List.map_cons, List.map_cons, List.modifyHead_cons,
          Comment.docs_withReturns]
        simp [Section.addDocs, Section.withReturns, Text.withReturns_append]
    rw [ih] at hdocs
    show _ = sections lead.withReturns ((k.withReturns, code.withReturns) :: returnComments more)
    rw [sections_cons, sections_cons, ← hdocs]
    by_cases hlead : lead = []
    · rw [if_pos hlead, if_pos (Text.withReturns_eq_nil_iff.2 hlead)]
    · rw [if_neg hlead, if_neg fun h => hlead (Text.withReturns_eq_nil_iff.1 h)]
      rfl

end Scan

theorem blockSections_withReturns {source : Text} (hsource : '\r' ∉ source) :
    blockSections source.withReturns = (blockSections source).map Section.withReturns := by
  have hscan := (Scan.of_iff _ _).1 (Scan.of_withReturns (Scan.ofText_of source) hsource)
  unfold blockSections
  rw [← hscan, Scan.map_withReturns_sections]

/-- **Line endings.** With a carriage return in front of each line feed, marked lines have the same
sections with the same prose, and the same code but for carriage returns; sections of comment blocks
have carriage returns where the source has them. -/
theorem sections_withReturns (source : Text) (hsource : '\r' ∉ source) :
    (∀ lang : Language, '\r' ∉ lang.symbol →
      let ss := lineSections lang source
      let ts := lineSections lang source.withReturns
      ts.length = ss.length ∧ ts.map (·.docs) = ss.map (·.docs) ∧
        ts.map (·.code.withoutReturns) = ss.map (·.code.withoutReturns)) ∧
      blockSections source.withReturns = (blockSections source).map Section.withReturns := by
  refine ⟨fun lang hsymbol => ?_, blockSections_withReturns hsource⟩
  intro ss ts
  have hsame : ts.map Section.withoutReturns = ss.map Section.withoutReturns :=
    map_withoutReturns_lineSections hsymbol hsource
  have hlength := congrArg List.length hsame
  have hdocs := congrArg (List.map Section.docs) hsame
  have hcode := congrArg (List.map Section.code) hsame
  rw [List.length_map, List.length_map] at hlength
  rw [List.map_map, List.map_map] at hdocs hcode
  exact ⟨hlength, hdocs, hcode⟩

/-- A bare comment mark, a blank line, prose before a closer on its own line, a comment that is not
closed, and no line feed at the end. -/
theorem sections_withReturns_bare :
    let hash : Language := ⟨"python".toList, ['#'], .line⟩
    let source : Text := "#\n/** a\n * b\n \n */\n\nx\n # y\n/*\n *".toList
    '\r' ∉ source ∧ '\r' ∉ hash.symbol ∧
      (lineSections hash source.withReturns).map (·.docs) = ["\n".toList, "y\n".toList] ∧
      (lineSections hash source.withReturns).map (·.docs) =
        (lineSections hash source).map (·.docs) ∧
      blockSections source.withReturns = (blockSections source).map Section.withReturns := by
  intro hash source
  have hsource : '\r' ∉ source := by decide
  have hsymbol : '\r' ∉ hash.symbol := by decide
  obtain ⟨hlines, hblocks⟩ := sections_withReturns source hsource
  exact ⟨hsource, hsymbol, by decide, (hlines hash hsymbol).2.1, hblocks⟩

end Marginalia
