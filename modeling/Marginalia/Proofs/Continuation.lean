import Marginalia.Proofs.BlockScan
import Marginalia.Proofs.PrintedLines

/-!
# Sources that go on

What becomes of the sections of a source when more text follows it.

1. Marked lines: behind a whole line both parts keep their sections, but the last of the one and the
   first of the other meet (`Section.meet`). A line in front of joined sections is a line in front
   of the left ones (`addTo_join`), so this is shown line by line (`sections_append`).
2. Comment blocks: the text may go on in the middle of an opener, a closer or a line break. With a
   closer and two characters behind it a comment does not change any more (`Fits.append`), and only
   the last comment of a source has less behind it, so all sections but the last stay
   (`stay_ofText`).
-/

namespace Marginalia

open Text (Ended breakOn? breakOn?_append_of_some eq_of_breakOn?)

/-! ## Lines of a joined text -/

namespace Text

theorem lines_append_feed (u b : Text) : lines (u ++ '\n' :: b) = u.splitOn '\n' ++ lines b := by
  have hb := List.splitOn_ne_nil '\n' b
  rw [lines_eq, lines_eq b, List.splitOn_append_cons_self, List.getLast?_append_of_ne_nil _ hb]
  by_cases h : (b.splitOn '\n').getLast? = some []
  · rw [if_pos h, if_pos h, List.dropLast_append_of_ne_nil hb]
  · rw [if_neg h, if_neg h]

/-- Behind a whole line the lines of a text are those of both parts. -/
theorem lines_append {a : Text} (ha : Ended a) (b : Text) :
    lines (a ++ b) = lines a ++ lines b := by
  rcases ha with rfl | ha
  · rfl
  · obtain ⟨u, rfl⟩ := List.getLast?_eq_some_iff.1 ha
    have hu := lines_append_feed u []
    rw [show lines [] = [] from rfl, List.append_nil] at hu
    rw [List.append_assoc, List.singleton_append, lines_append_feed, hu]

end Text

/-! ## Sections that meet -/

namespace Section

/-- Two sections, one right behind the other: they stay apart if code is followed by prose, and make
up one section otherwise. -/
def meet (s t : Section) : List Section :=
  if s.code ≠ [] ∧ t.docs ≠ [] then [s, t] else [⟨s.docs ++ t.docs, s.code ++ t.code⟩]

/-- The sections `ss` and then `ts`, where the last of the ones meets the first of the others. A
source has at least one section, so neither list is empty. -/
def join (ss ts : List Section) : List Section :=
  match ss.getLast?, ts with
  | some s, t :: rest => ss.dropLast ++ s.meet t ++ rest
  | _, _ => ss ++ ts

theorem meet_of_apart {s t : Section} (hs : s.code ≠ []) (ht : t.docs ≠ []) :
    s.meet t = [s, t] := if_pos ⟨hs, ht⟩

theorem meet_of_code_eq_nil {s : Section} (hs : s.code = []) (t : Section) :
    s.meet t = [⟨s.docs ++ t.docs, t.code⟩] := by
  rw [meet, if_neg (fun h => h.1 hs), hs, List.nil_append]

theorem meet_of_docs_eq_nil (s : Section) {t : Section} (ht : t.docs = []) :
    s.meet t = [⟨s.docs, s.code ++ t.code⟩] := by
  rw [meet, if_neg (fun h => h.2 ht), ht, List.append_nil]

theorem join_singleton (s t : Section) (rest : List Section) :
    join [s] (t :: rest) = s.meet t ++ rest := rfl

theorem join_cons_cons (s s' : Section) (ss ts : List Section) :
    join (s :: s' :: ss) ts = s :: join (s' :: ss) ts := by
  unfold join
  rw [List.getLast?_cons_cons, List.dropLast_cons_cons]
  cases (s' :: ss).getLast? with
  | none => rfl
  | some u =>
    cases ts with
    | nil => rfl
    | cons t rest => rfl

end Section

namespace SourceLine

open Section (join meet_of_apart meet_of_code_eq_nil meet_of_docs_eq_nil)

theorem addTo_prose_meet (text : Text) (s t : Section) (rest : List Section) :
    addTo (.prose text) (s.meet t ++ rest) = (s.addDocs (text ++ ['\n'])).meet t ++ rest := by
  unfold Section.meet Section.addDocs
  split_ifs
  · rfl
  · simp [addTo, Section.addDocs]

theorem addTo_code_meet (text : Text) (s t : Section) (rest : List Section) :
    addTo (.code text) (s.meet t ++ rest) = join (addTo (.code text) [s]) (t :: rest) := by
  have hline : text ++ ['\n'] ≠ [] := List.append_ne_nil_of_right_ne_nil _ (List.cons_ne_nil _ _)
  by_cases hs : s.docs = []
  · rw [addTo_code_of_nil text hs, Section.join_singleton]
    by_cases ht : t.docs = []
    · rw [meet_of_docs_eq_nil s ht, meet_of_docs_eq_nil _ ht]
      simp [addTo, hs, Section.addCode]
    · have hcode : (s.addCode (text ++ ['\n'])).code ≠ [] :=
        List.append_ne_nil_of_left_ne_nil hline s.code
      rw [meet_of_apart hcode ht]
      by_cases hc : s.code = []
      · -- `s` has neither prose nor code: it vanishes in `t`, which the line stays apart from
        rw [meet_of_code_eq_nil hc]
        simp [addTo, hs, ht, hc, Section.addCode]
      · rw [meet_of_apart hc ht]
        exact addTo_code_of_nil text hs (t :: rest)
  · rw [addTo_code_of_ne_nil text hs, Section.join_cons_cons, Section.join_singleton]
    unfold Section.meet
    split_ifs
    · exact addTo_code_of_ne_nil text hs (t :: rest)
    · exact addTo_code_of_ne_nil text (List.append_ne_nil_of_left_ne_nil hs t.docs) rest

/-- A line in front of joined sections is a line in front of the left ones. -/
theorem addTo_join (x : SourceLine) {ss ts : List Section} (hss : ss ≠ []) (hts : ts ≠ []) :
    addTo x (join ss ts) = join (addTo x ss) ts := by
  obtain ⟨s, ss, rfl⟩ := List.exists_cons_of_ne_nil hss
  obtain ⟨t, rest, rfl⟩ := List.exists_cons_of_ne_nil hts
  cases ss with
  | nil =>
    rw [Section.join_singleton]
    cases x with
    | prose text => exact addTo_prose_meet text s t rest
    | code text => exact addTo_code_meet text s t rest
  | cons s' ss =>
    rw [Section.join_cons_cons]
    cases x with
    | prose text => exact (Section.join_cons_cons _ s' ss _).symm
    | code text =>
      by_cases hs : s.docs = []
      · rw [addTo_code_of_nil text hs, addTo_code_of_nil text hs, Section.join_cons_cons]
      · rw [addTo_code_of_ne_nil text hs, addTo_code_of_ne_nil text hs, Section.join_cons_cons,
          Section.join_cons_cons]

theorem sections_append (xs ys : List SourceLine) :
    sections (xs ++ ys) = join (sections xs) (sections ys) := by
  induction xs with
  | nil =>
    obtain ⟨t, rest, ht⟩ := List.exists_cons_of_ne_nil (sections_ne_nil ys)
    rw [List.nil_append, ht]
    show t :: rest = Section.empty.meet t ++ rest
    rw [meet_of_code_eq_nil rfl]
    rfl
  | cons x xs ih =>
    rw [List.cons_append, sections_cons, ih, addTo_join x (sections_ne_nil xs) (sections_ne_nil ys),
      sections_cons]

end SourceLine

/-- **Joined sources.** Behind a whole line a source goes on with the sections of its second part,
the first of which meets the last of the first part. -/
theorem lineSections_append (lang : Language) {a : Text} (ha : Ended a) (b : Text) :
    lineSections lang (a ++ b) = Section.join (lineSections lang a) (lineSections lang b) := by
  unfold lineSections
  rw [Text.lines_append ha, List.map_append, SourceLine.sections_append]

/-- A cut between two lines of code, whose sections become one. -/
theorem lineSections_append_hash :
    let hash : Language := ⟨"python".toList, ['#'], .line⟩
    let a : Text := "# one\nx\n".toList
    let b : Text := "y\n# two\n".toList
    Ended a ∧
      lineSections hash (a ++ b) = [⟨"one\n".toList, "x\ny\n".toList⟩, ⟨"two\n".toList, []⟩] ∧
      lineSections hash (a ++ b) = Section.join (lineSections hash a) (lineSections hash b) := by
  intro hash a b
  have ha : Ended a := by decide
  exact ⟨ha, by decide, lineSections_append hash ha b⟩

/-! ## Comments with more text behind them -/

namespace Comment

variable {k : Comment} {rest : Text}

/-- Two characters tell the marker. -/
theorem firstMarker_append {t : Text} (ht : 2 ≤ t.length) (u : Text) :
    firstMarker (t ++ u) = firstMarker t := by
  have hhead : (t ++ u).head? = t.head? := by
    cases t with
    | nil => simp at ht
    | cons c t => rfl
  have hcloser : closer.length ≤ t.length := ht
  unfold firstMarker
  simp only [List.isPrefix_append_of_length hcloser, hhead]

/-- Two characters tell the line break. -/
theorem firstBreak_append {t : Text} (ht : 2 ≤ t.length) (u : Text) :
    firstBreak (t ++ u) = firstBreak t := by
  have hreturn : ['\r', '\n'].length ≤ t.length := ht
  have hfeed : ['\n'].length ≤ t.length := by
    rw [List.length_singleton]
    omega
  unfold firstBreak
  simp only [List.isPrefix_append_of_length hreturn, List.isPrefix_append_of_length hfeed]

theorem inside_append (k : Comment) (rest u : Text) :
    k.inside (rest ++ u) = k.inside rest ++ u := by
  simp [inside]

theorem two_le_length_inside (hclosed : k.closed = true) (rest : Text) :
    2 ≤ (k.inside rest).length := by
  unfold inside
  rw [if_pos hclosed]
  simp only [List.length_append, closer, List.length_cons]
  omega

/-- A comment with a closer and two characters behind it is the same when the text goes on. -/
theorem Fits.append (h : k.Fits rest) (hclosed : k.closed = true) (hrest : 2 ≤ rest.length)
    (u : Text) : k.Fits (rest ++ u) where
  marker := by
    rw [inside_append, firstMarker_append (two_le_length_inside hclosed rest)]
    exact h.marker
  body := h.body
  lineBreak := by
    intro _
    have hlength : 2 ≤ (k.lineBreak ++ rest).length := by
      rw [List.length_append]
      omega
    rw [← List.append_assoc, firstBreak_append hlength]
    exact h.lineBreak hclosed
  ending := by
    intro hopen
    rw [hclosed] at hopen
    cases hopen

theorem read_append {t : Text} (hread : read t = (k, some rest)) (hrest : 2 ≤ rest.length)
    (u : Text) : read (t ++ u) = (k, some (rest ++ u)) := by
  obtain ⟨hfits, hinside⟩ := fits_read t
  rw [hread, Option.getD_some] at hfits hinside
  have hclosed : k.closed = true := by
    have hwhole := read_inside hfits
    rw [hinside, hread] at hwhole
    by_contra hopen
    rw [if_neg hopen] at hwhole
    cases hwhole
  have hmore := read_inside (hfits.append hclosed hrest u)
  rwa [inside_append, hinside, if_pos hclosed] at hmore

end Comment

/-! ## Sections that stay -/

/-- All sections of `ss` but the last stand in front of `ts`, which are no fewer. -/
structure Section.Stay (ss ts : List Section) : Prop where
  front : ss.dropLast <+: ts
  length : ss.length ≤ ts.length

namespace Section.Stay

variable {ss ts : List Section}

theorem singleton (s : Section) (hts : ts ≠ []) : Stay [s] ts :=
  ⟨List.nil_prefix, List.length_pos_iff.2 hts⟩

theorem cons (h : Stay ss ts) (hss : ss ≠ []) (s : Section) : Stay (s :: ss) (s :: ts) := by
  obtain ⟨t, ss, rfl⟩ := List.exists_cons_of_ne_nil hss
  refine ⟨?_, Nat.succ_le_succ h.length⟩
  rw [List.dropLast_cons_cons, List.prefix_cons_inj]
  exact h.front

/-- A change of the first section keeps the others. -/
theorem modifyHead (h : Stay ss ts) (f : Section → Section) :
    Stay (ss.modifyHead f) (ts.modifyHead f) := by
  refine ⟨?_, by simpa using h.length⟩
  cases ss with
  | nil => exact List.nil_prefix
  | cons s ss =>
    cases ss with
    | nil => exact List.nil_prefix
    | cons s' ss =>
      have hfront := h.front
      rw [List.dropLast_cons_cons] at hfront
      obtain ⟨ts, rfl⟩ := hfront
      rw [List.modifyHead_cons, List.dropLast_cons_cons, List.cons_append, List.modifyHead_cons,
        List.prefix_cons_inj]
      exact List.prefix_append _ ts

end Section.Stay

namespace Scan

open Section (Stay)
open Comment (opener)

theorem sections_ne_nil (lead : Text) (comments : List (Comment × Text)) :
    sections lead comments ≠ [] := by
  induction comments generalizing lead with
  | nil => exact List.cons_ne_nil _ _
  | cons p more ih =>
    rw [sections_cons]
    split_ifs
    · rw [Ne, List.modifyHead_eq_nil_iff]
      exact ih p.2
    · exact List.cons_ne_nil _ _

/-- Code in front of a comment stays if the sections from the comment on do. -/
theorem stay_cons {k k' : Comment} {code code' : Text} {more more' : List (Comment × Text)}
    (lead : Text) (h : Stay ((sections code more).modifyHead (·.addDocs k.docs))
      ((sections code' more').modifyHead (·.addDocs k'.docs))) :
    Stay (sections lead ((k, code) :: more)) (sections lead ((k', code') :: more')) := by
  rw [sections_cons, sections_cons]
  split_ifs
  · exact h
  · refine h.cons ?_ _
    rw [Ne, List.modifyHead_eq_nil_iff]
    exact sections_ne_nil code more

/-- The code in front of the first opener does not depend on what the comment is read as. -/
theorem exists_ofText_of_some {source lead t : Text} (h : breakOn? opener source = some (lead, t)) :
    ∃ k code more, ofText source = ⟨lead, (k, code) :: more⟩ := by
  cases hread : Comment.read t with
  | mk k rest =>
    cases rest with
    | none => exact ⟨k, _, _, ofText_of_open h hread⟩
    | some rest => exact ⟨k, _, _, ofText_of_closed h hread⟩

/-- The last comment of a source may change with what follows, but the code in front of it stays. -/
theorem stay_last {source lead t : Text} (h : breakOn? opener source = some (lead, t))
    (k : Comment) (code u : Text) :
    Stay (sections lead [(k, code)])
      (sections (ofText (source ++ u)).lead (ofText (source ++ u)).comments) := by
  obtain ⟨k', code', more', hscan⟩ := exists_ofText_of_some (breakOn?_append_of_some h u)
  rw [hscan]
  refine stay_cons lead (Stay.singleton _ ?_)
  rw [Ne, List.modifyHead_eq_nil_iff]
  exact sections_ne_nil code' more'

theorem stay_ofText (source u : Text) :
    Stay (sections (ofText source).lead (ofText source).comments)
      (sections (ofText (source ++ u)).lead (ofText (source ++ u)).comments) := by
  fun_induction ofText source with
  | case1 source hcut => exact Stay.singleton _ (sections_ne_nil _ _)
  | case2 source lead t hcut k hread => exact stay_last hcut k [] u
  | case3 source lead t hcut k rest hread after ih =>
    cases hmore : breakOn? opener rest with
    | none =>
      -- no comment follows: the line break behind this one may still change
      have hafter : after = ⟨rest, []⟩ := ofText_of_none hmore
      rw [hafter]
      exact stay_last hcut k rest u
    | some parts =>
      have hrest : 2 ≤ rest.length := by
        rw [eq_of_breakOn? hmore]
        simp only [List.length_append, opener, List.length_cons]
        omega
      have hread' := Comment.read_append hread hrest u
      rw [ofText_of_closed (breakOn?_append_of_some hcut u) hread']
      exact stay_cons lead (ih.modifyHead _)

end Scan

/-- **Finished sections stay.** Whatever a source goes on with, and wherever it is cut, all its
sections but the last are also the first ones of the longer source, which has no fewer. -/
theorem blockSections_append (source u : Text) :
    (blockSections source).dropLast <+: blockSections (source ++ u) ∧
      (blockSections source).length ≤ (blockSections (source ++ u)).length := by
  obtain ⟨hfront, hlength⟩ := Scan.stay_ofText source u
  exact ⟨hfront, hlength⟩

end Marginalia
