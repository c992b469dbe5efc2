import Marginalia.Section.Blocks
import Marginalia.Proofs.Occurrence
import Marginalia.Proofs.Runs

/-!
# Taking a source apart at its comments

`Scan.Of` says what it is to take a source apart: code and comments make up the source, no code
holds an opener, and each comment is read as what follows it demands (`Comment.Fits`).

1. Reading a comment is determined by these demands (`fits_read`, `read_inside`).
2. A source is taken apart in one way only, and `Scan.ofText` finds it (`of_iff`).
3. The sections are the groups of comments that no code keeps apart (`map_groups`), and no code or
   prose is lost between them (`flatMap_code_groups`, `flatMap_docs_groups`).
-/

namespace Marginalia

open Text (breakOn? breakOn?_append_pair breakOn?_eq_none_iff eq_of_breakOn? not_infix_of_breakOn?)

namespace Comment

/-! ## Reading a comment -/

/-- The `*` or `!` at the front of a text after an opener, unless a closer stands there. -/
def firstMarker (t : Text) : Option Char :=
  if closer <+: t then none else t.head?.filter fun c => c = '*' || c = '!'

/-- The line break at the front of a text after a closer. -/
def firstBreak (t : Text) : Text :=
  if ['\r', '\n'] <+: t then ['\r', '\n'] else if ['\n'] <+: t then ['\n'] else []

/-- What follows the opener of a comment that `rest` follows. -/
def inside (k : Comment) (rest : Text) : Text :=
  k.marker.toList ++ (k.body ++ ((if k.closed then closer else []) ++ (k.lineBreak ++ rest)))

/-- A comment is read as its source demands, if `rest` follows it there. -/
structure Fits (k : Comment) (rest : Text) : Prop where
  marker : k.marker = firstMarker (k.inside rest)
  body : ¬ closer <:+: k.body
  lineBreak : k.closed = true → k.lineBreak = firstBreak (k.lineBreak ++ rest)
  ending : k.closed = false → k.lineBreak = [] ∧ rest = []

theorem text_append (k : Comment) (rest : Text) : k.text ++ rest = '/' :: '*' :: k.inside rest := by
  unfold text inside
  simp only [List.append_assoc]
  rfl

theorem suffix_inside (k : Comment) (rest : Text) : rest <:+ k.inside rest := by
  unfold inside
  simp only [← List.append_assoc]
  exact List.suffix_append _ rest

theorem marker?_spec (t : Text) :
    (marker? t).1 = firstMarker t ∧ t = (marker? t).1.toList ++ (marker? t).2 := by
  unfold marker? firstMarker
  by_cases h : closer <+: t
  · rw [if_pos (List.isPrefixOf_iff_prefix.2 h), if_pos h]
    exact ⟨rfl, rfl⟩
  · rw [if_neg (fun hp => h (List.isPrefixOf_iff_prefix.1 hp)), if_neg h]
    split
    · exact ⟨rfl, rfl⟩
    · exact ⟨rfl, rfl⟩
    · next h₁ h₂ =>
      cases t with
      | nil => exact ⟨rfl, rfl⟩
      | cons c t =>
        have hc : ¬ (c = '*' ∨ c = '!') := by
          rintro (rfl | rfl)
          · exact h₁ t rfl
          · exact h₂ t rfl
        refine ⟨?_, rfl⟩
        rw [List.head?_cons, Option.filter_some, if_neg (by simpa using hc)]

theorem lineBreak?_spec (t : Text) :
    (lineBreak? t).1 = firstBreak t ∧ t = (lineBreak? t).1 ++ (lineBreak? t).2 := by
  unfold lineBreak? firstBreak
  split
  · next rest => exact ⟨(if_pos ⟨rest, rfl⟩).symm, rfl⟩
  · next rest =>
    rw [if_neg (by simp), if_pos ⟨rest, rfl⟩]
    exact ⟨rfl, rfl⟩
  · next h₁ h₂ =>
    rw [if_neg (fun ⟨rest, h⟩ => h₁ rest h.symm), if_neg (fun ⟨rest, h⟩ => h₂ rest h.symm)]
    exact ⟨rfl, rfl⟩

theorem read_of_none {t : Text} (h : breakOn? closer (marker? t).2 = none) :
    read t = (⟨(marker? t).1, (marker? t).2, false, []⟩, none) := by
  unfold read
  simp only [h]

theorem read_of_some {t body after : Text}
    (h : breakOn? closer (marker? t).2 = some (body, after)) :
    read t = (⟨(marker? t).1, body, true, (lineBreak? after).1⟩, some (lineBreak? after).2) := by
  unfold read
  simp only [h]

/-- A comment that is read fits its source, and nothing of the source is lost. -/
theorem fits_read (t : Text) :
    (read t).1.Fits ((read t).2.getD []) ∧ (read t).1.inside ((read t).2.getD []) = t := by
  obtain ⟨hmarker, ht⟩ := marker?_spec t
  cases hb : breakOn? closer (marker? t).2 with
  | none =>
    rw [read_of_none hb]
    have hinside : inside ⟨(marker? t).1, (marker? t).2, false, []⟩ [] = t := by
      unfold inside
      simpa using ht.symm
    refine ⟨⟨?_, ?_, ?_, ?_⟩, hinside⟩
    · rw [Option.getD_none, hinside]
      exact hmarker
    · exact breakOn?_eq_none_iff.1 hb
    · exact fun h => absurd h Bool.false_ne_true
    · exact fun _ => ⟨rfl, rfl⟩
  | some parts =>
    obtain ⟨body, after⟩ := parts
    obtain ⟨hbreak, hafter⟩ := lineBreak?_spec after
    rw [read_of_some hb]
    have hinside :
        inside ⟨(marker? t).1, body, true, (lineBreak? after).1⟩ (lineBreak? after).2 = t := by
      have hsplit := eq_of_breakOn? hb
      unfold inside
      rw [if_pos rfl, ← hafter, ← List.append_assoc body, ← hsplit, ← ht]
    refine ⟨⟨?_, ?_, ?_, ?_⟩, hinside⟩
    · rw [Option.getD_some, hinside]
      exact hmarker
    · exact not_infix_of_breakOn? (List.cons_ne_nil _ _) hb
    · intro _
      rw [Option.getD_some, ← hafter]
      exact hbreak
    · exact fun h => absurd h Bool.false_ne_true.symm

/-- A comment that fits its source is the one that is read. -/
theorem read_inside {k : Comment} {rest : Text} (h : k.Fits rest) :
    read (k.inside rest) = (k, if k.closed then some rest else none) := by
  obtain ⟨hmarker, ht⟩ := marker?_spec (k.inside rest)
  rw [← h.marker] at hmarker
  rw [hmarker] at ht
  have hbody := List.append_cancel_left ht
  obtain ⟨marker, body, closed, lineBreak⟩ := k
  cases closed with
  | false =>
    obtain ⟨rfl, rfl⟩ := h.ending rfl
    have hinside : body = (marker? (inside ⟨marker, body, false, []⟩ [])).2 := by
      simpa using hbody
    have hnone : breakOn? closer (marker? (inside ⟨marker, body, false, []⟩ [])).2 = none := by
      rw [← hinside]
      exact breakOn?_eq_none_iff.2 h.body
    rw [read_of_none hnone, hmarker, ← hinside]
    rfl
  | true =>
    have hsome : breakOn? closer (marker? (inside ⟨marker, body, true, lineBreak⟩ rest)).2 =
        some (body, lineBreak ++ rest) := by
      rw [← hbody]
      exact breakOn?_append_pair (by decide) h.body _
    obtain ⟨hbreak, hafter⟩ := lineBreak?_spec (lineBreak ++ rest)
    rw [← h.lineBreak rfl] at hbreak
    rw [hbreak] at hafter
    rw [read_of_some hsome, hmarker, hbreak, ← List.append_cancel_left hafter]
    rfl

end Comment

namespace Scan

open Comment (opener closer)

/-! ## One way to take a source apart -/

/-- The characters of comments and of the code after each. -/
def commentsText (comments : List (Comment × Text)) : Text :=
  comments.flatMap fun (k, code) => k.text ++ code

/-- Each comment fits what follows it, and no code holds an opener. -/
def Fitting : List (Comment × Text) → Prop
  | [] => True
  | (k, code) :: more =>
    k.Fits (code ++ commentsText more) ∧ ¬ opener <:+: code ∧ Fitting more

/-- `s` is `source` taken apart. -/
structure Of (s : Scan) (source : Text) : Prop where
  text : s.text = source
  lead : ¬ opener <:+: s.lead
  comments : Fitting s.comments

theorem Of.lead_append {s : Scan} {source : Text} (h : s.Of source) :
    s.lead ++ commentsText s.comments = source := h.text

theorem commentsText_cons (k : Comment) (code : Text) (more : List (Comment × Text)) :
    commentsText ((k, code) :: more) = k.text ++ (code ++ commentsText more) := by
  rw [commentsText, List.flatMap_cons, List.append_assoc]
  rfl

theorem commentsText_eq_nil {comments : List (Comment × Text)} (h : commentsText comments = []) :
    comments = [] := by
  cases comments with
  | nil => rfl
  | cons p more =>
    rw [commentsText_cons, Comment.text_append] at h
    cases h

theorem ofText_of_none {source : Text} (h : breakOn? opener source = none) :
    ofText source = ⟨source, []⟩ := by
  unfold ofText
  split
  · rfl
  · next hs => rw [h] at hs; cases hs

theorem ofText_of_open {source lead t : Text} {k : Comment}
    (h : breakOn? opener source = some (lead, t)) (hk : Comment.read t = (k, none)) :
    ofText source = ⟨lead, [(k, [])]⟩ := by
  rw [ofText]
  split
  · next hn => rw [h] at hn; cases hn
  · next hs =>
    rw [h] at hs
    cases hs
    split
    · next hr => rw [hk] at hr; cases hr; rfl
    · next hr => rw [hk] at hr; cases hr

theorem ofText_of_closed {source lead t rest : Text} {k : Comment}
    (h : breakOn? opener source = some (lead, t)) (hk : Comment.read t = (k, some rest)) :
    ofText source = ⟨lead, (k, (ofText rest).lead) :: (ofText rest).comments⟩ := by
  rw [ofText]
  split
  · next hn => rw [h] at hn; cases hn
  · next hs =>
    rw [h] at hs
    cases hs
    split
    · next hr => rw [hk] at hr; cases hr
    · next hr => rw [hk] at hr; cases hr; rfl

theorem append_commentsText {source lead t code : Text} {k : Comment}
    {more : List (Comment × Text)} (hcut : breakOn? opener source = some (lead, t))
    (ht : k.inside (code ++ commentsText more) = t) :
    lead ++ commentsText ((k, code) :: more) = source := by
  rw [commentsText_cons, Comment.text_append, ht, eq_of_breakOn? hcut, List.append_assoc]
  rfl

/-- A source is taken apart by `ofText`. -/
theorem ofText_of (source : Text) : (ofText source).Of source := by
  fun_induction ofText source with
  | case1 source hcut => exact ⟨List.append_nil source, breakOn?_eq_none_iff.1 hcut, trivial⟩
  | case2 source lead t hcut k hread =>
    obtain ⟨hfits, hinside⟩ := Comment.fits_read t
    rw [hread] at hfits hinside
    exact ⟨append_commentsText hcut hinside, not_infix_of_breakOn? (List.cons_ne_nil _ _) hcut,
      hfits, by decide, trivial⟩
  | case3 source lead t hcut k rest hread after ih =>
    obtain ⟨hfits, hinside⟩ := Comment.fits_read t
    rw [hread] at hfits hinside
    rw [Option.getD_some, ← ih.lead_append] at hfits hinside
    exact ⟨append_commentsText hcut hinside, not_infix_of_breakOn? (List.cons_ne_nil _ _) hcut,
      hfits, ih.lead, ih.comments⟩

/-- A source is taken apart in no other way. -/
theorem Of.eq_ofText {s : Scan} {source : Text} (h : s.Of source) : s = ofText source := by
  obtain ⟨lead, comments⟩ := s
  induction comments generalizing lead source with
  | nil =>
    have hsource : lead = source := by rw [← h.text]; exact (List.append_nil lead).symm
    rw [← hsource, ofText_of_none (breakOn?_eq_none_iff.2 h.lead)]
  | cons p more ih =>
    obtain ⟨k, code⟩ := p
    obtain ⟨hfits, hcode, hmore⟩ := h.comments
    have hcut : breakOn? opener source = some (lead, k.inside (code ++ commentsText more)) := by
      rw [← h.text]
      show breakOn? opener (lead ++ commentsText ((k, code) :: more)) = _
      rw [commentsText_cons, Comment.text_append]
      exact breakOn?_append_pair (by decide) h.lead _
    have hread := Comment.read_inside hfits
    cases hclosed : k.closed with
    | false =>
      obtain ⟨-, hrest⟩ := hfits.ending hclosed
      obtain ⟨rfl, hmore⟩ := List.append_eq_nil_iff.1 hrest
      rw [hclosed] at hread
      rw [ofText_of_open hcut hread, commentsText_eq_nil hmore]
    | true =>
      have hrest : ofText (code ++ commentsText more) = ⟨code, more⟩ :=
        (ih code ⟨rfl, hcode, hmore⟩).symm
      rw [hclosed] at hread
      rw [ofText_of_closed hcut hread, hrest]

theorem of_iff (s : Scan) (source : Text) : s.Of source ↔ s = ofText source :=
  ⟨Of.eq_ofText, fun h => h ▸ ofText_of source⟩

/-- Only a comment with nothing behind it lacks its closer. -/
theorem Fitting.closed {comments : List (Comment × Text)} (h : Fitting comments) :
    (∀ p ∈ comments.dropLast, p.1.closed = true) ∧
      ∀ p ∈ comments, p.1.closed = false → p.2 = [] := by
  induction comments with
  | nil => exact ⟨fun p hp => absurd hp List.not_mem_nil, fun p hp => absurd hp List.not_mem_nil⟩
  | cons q more ih =>
    obtain ⟨hfits, -, hmore⟩ := h
    obtain ⟨hdrop, hall⟩ := ih hmore
    constructor
    · cases more with
      | nil => exact fun p hp => absurd hp List.not_mem_nil
      | cons q' more' =>
        rw [List.dropLast_cons_cons, List.forall_mem_cons]
        refine ⟨?_, hdrop⟩
        by_contra hopen
        have hrest := (hfits.ending (Bool.eq_false_iff.2 hopen)).2
        exact absurd (commentsText_eq_nil (List.append_eq_nil_iff.1 hrest).2) (List.cons_ne_nil _ _)
    · rw [List.forall_mem_cons]
      refine ⟨fun hopen => ?_, hall⟩
      exact (List.append_eq_nil_iff.1 (hfits.ending hopen).2).1

/-! ## Groups of comments -/

/-- A stretch of code, and the comment directly before it, if there is one. -/
abbrev Item := Option Comment × Text

/-- Comments with the code after each. -/
def commentItems (comments : List (Comment × Text)) : List Item :=
  comments.map fun p => (some p.1, p.2)

/-- The stretches of code of a source, with their comments. -/
def items (s : Scan) : List Item := (none, s.lead) :: commentItems s.comments

/-- A comment stays with the one before it if there is no code between them. -/
def together (a _b : Item) : Bool := a.2 = []

theorem together_iff {a b : Item} : together a b = true ↔ a.2 = [] := decide_eq_true_iff

/-- The stretches in groups: a comment starts a group if there is code directly before it. -/
def groups (s : Scan) : List (List Item) := s.items.splitBy together

/-- What the comment of a stretch adds to the prose. -/
def itemDocs (item : Item) : Text := (item.1.map Comment.docs).getD []

/-- The section of a group: the prose of all its comments, and the code at its end. -/
def groupSection (group : List Item) : Section :=
  ⟨group.flatMap itemDocs, (group.getLast?.map (·.2)).getD []⟩

theorem groupSection_singleton (a : Item) : groupSection [a] = ⟨itemDocs a, a.2⟩ := by
  unfold groupSection
  rw [List.flatMap_singleton]
  rfl

theorem groupSection_cons_cons (a b : Item) (g : List Item) :
    groupSection (a :: b :: g) = (groupSection (b :: g)).addDocs (itemDocs a) := by
  rw [groupSection, List.flatMap_cons, List.getLast?_cons_cons]
  rfl

theorem sections_cons (lead : Text) (k : Comment) (code : Text) (more : List (Comment × Text)) :
    sections lead ((k, code) :: more) =
      if lead = [] then (sections code more).modifyHead (·.addDocs k.docs)
      else ⟨[], lead⟩ :: (sections code more).modifyHead (·.addDocs k.docs) := by
  rw [sections]
  cases sections code more with
  | nil => rfl
  | cons s more => rfl

/-- The groups from a stretch on are the sections from its code on, with the prose of its comment
added to the first. -/
theorem map_groupSection (o : Option Comment) (lead : Text) (comments : List (Comment × Text)) :
    (((o, lead) :: commentItems comments).splitBy together).map groupSection =
      (sections lead comments).modifyHead (·.addDocs (itemDocs (o, lead))) := by
  induction comments generalizing o lead with
  | nil =>
    show [groupSection [(o, lead)]] = [Section.addDocs (itemDocs (o, lead)) ⟨[], lead⟩]
    rw [groupSection_singleton, Section.addDocs, List.append_nil]
  | cons p more ih =>
    obtain ⟨k, code⟩ := p
    have hmore := ih (some k) code
    obtain ⟨g, gs, hg⟩ := Runs.exists_splitBy_cons together (some k, code) (commentItems more)
    have hitems : commentItems ((k, code) :: more) = (some k, code) :: commentItems more := rfl
    rw [hitems, Runs.splitBy_cons_cons, sections_cons, hg]
    rw [hg, show itemDocs (some k, code) = k.docs from rfl] at hmore
    by_cases h : lead = []
    · rw [if_pos (together_iff.2 h), if_pos h, ← hmore, List.modifyHead_cons, List.map_cons,
        List.map_cons, groupSection_cons_cons, List.modifyHead_cons]
    · rw [if_neg (fun ht => h (together_iff.1 ht)), if_neg h, ← hmore, List.map_cons,
        groupSection_singleton, List.modifyHead_cons, Section.addDocs, List.append_nil]

theorem map_groups (s : Scan) : s.groups.map groupSection = sections s.lead s.comments := by
  have hid : ∀ l : List Section, l.modifyHead (·.addDocs []) = l := by
    intro l
    cases l with
    | nil => rfl
    | cons t more => rfl
  exact (map_groupSection none s.lead s.comments).trans (hid _)

/-- The code of a group stands at its end. -/
theorem code_eq_nil_of_mem_dropLast {s : Scan} {group : List Item} (hgroup : group ∈ s.groups)
    {item : Item} (hitem : item ∈ group.dropLast) : item.2 = [] := by
  obtain ⟨b, hb⟩ := Runs.exists_of_mem_dropLast (List.isChain_of_mem_splitBy hgroup) hitem
  exact together_iff.1 hb

theorem code_groupSection {s : Scan} {group : List Item} (hgroup : group ∈ s.groups) :
    (groupSection group).code = group.flatMap (·.2) := by
  have hempty : ∀ item ∈ group.dropLast, item.2 = [] :=
    fun _ hitem => code_eq_nil_of_mem_dropLast hgroup hitem
  clear hgroup
  induction group with
  | nil => rfl
  | cons a group ih =>
    cases group with
    | nil => rw [groupSection_singleton, List.flatMap_singleton]
    | cons b group =>
      rw [List.dropLast_cons_cons, List.forall_mem_cons] at hempty
      rw [groupSection_cons_cons, List.flatMap_cons, hempty.1, List.nil_append]
      exact ih hempty.2

/-- What is gathered group by group is gathered stretch by stretch. -/
theorem flatMap_groups (s : Scan) (f : Item → Text) :
    s.groups.flatMap (fun group => group.flatMap f) =
      f (none, s.lead) ++ s.comments.flatMap fun p => f (some p.1, p.2) := by
  have hflatten : s.groups.flatten = s.items := List.flatten_splitBy _ _
  have hassoc := List.flatMap_assoc (l := s.groups) (f := id) (g := f)
  rw [List.flatMap_id, hflatten, items, List.flatMap_cons, commentItems, List.flatMap_map] at hassoc
  exact hassoc.symm

theorem flatMap_code_groups (s : Scan) :
    (s.groups.map groupSection).flatMap (·.code) = s.lead ++ s.comments.flatMap (·.2) := by
  rw [List.flatMap_map, List.flatMap_congr fun group hgroup => code_groupSection hgroup]
  exact s.flatMap_groups fun item => item.2

theorem flatMap_docs_groups (s : Scan) :
    (s.groups.map groupSection).flatMap (·.docs) = s.comments.flatMap fun p => p.1.docs := by
  rw [List.flatMap_map]
  exact s.flatMap_groups itemDocs

theorem length_groups (s : Scan) :
    s.groups.length = 1 + s.items.dropLast.countP fun item => item.2 ≠ [] := by
  have hpairs : ∀ (a : Item) (l : List Item),
      ((a :: l).zip l).countP (fun p => !together p.1 p.2) =
        (a :: l).dropLast.countP fun item => item.2 ≠ [] := by
    intro a l
    induction l generalizing a with
    | nil => rfl
    | cons b l ih =>
      rw [List.zip_cons_cons, List.countP_cons, ih, List.dropLast_cons_cons, List.countP_cons]
      congr 2
      simp [together]
  have hlength := Runs.length_splitBy together
    (List.cons_ne_nil (none, s.lead) (commentItems s.comments))
  rw [List.tail_cons, hpairs] at hlength
  exact hlength

/-- Every group but the last ends in code. -/
theorem code_ne_nil_of_mem_groups {s : Scan} {group : List Item}
    (hgroup : group ∈ s.groups.dropLast) : (groupSection group).code ≠ [] := by
  obtain ⟨next, hne, _, hr⟩ := Runs.exists_of_mem_dropLast
    (List.isChain_getLast_head_splitBy together s.items) hgroup
  rw [groupSection, List.getLast?_eq_some_getLast hne]
  exact of_decide_eq_false hr

end Scan

/-- **Sections of blocks.** A source is taken apart at its comments in one way, only its last
comment may lack a closer, and its sections are the groups of comments with no code between
them. All code and all prose is there, in its order. -/
theorem blockSections_eq_groups (source : Text) :
    ∃ s : Scan, (∀ t : Scan, t.Of source ↔ t = s) ∧
      (∀ p ∈ s.comments.dropLast, p.1.closed = true) ∧
      (∀ p ∈ s.comments, p.1.closed = false → p.2 = []) ∧
      blockSections source = s.groups.map Scan.groupSection ∧
      s.groups.flatten = s.items ∧
      (∀ group ∈ s.groups, ∀ item ∈ group.dropLast, item.2 = []) ∧
      blockSections source ≠ [] ∧
      (blockSections source).length = 1 + s.items.dropLast.countP (fun item => item.2 ≠ []) ∧
      (∀ t ∈ (blockSections source).dropLast, t.code ≠ []) ∧
      (blockSections source).flatMap (·.code) = s.lead ++ s.comments.flatMap (·.2) ∧
      (blockSections source).flatMap (·.docs) = s.comments.flatMap fun p => p.1.docs := by
  have hsections : blockSections source = (Scan.ofText source).groups.map Scan.groupSection :=
    (Scan.map_groups _).symm
  obtain ⟨hclosed, hopen⟩ := (Scan.ofText_of source).comments.closed
  refine ⟨Scan.ofText source, fun t => Scan.of_iff t source, hclosed, hopen, hsections,
    List.flatten_splitBy _ _, fun _ hgroup _ hitem => Scan.code_eq_nil_of_mem_dropLast hgroup hitem,
    ?_, ?_, ?_, ?_, ?_⟩
  · rw [hsections, Ne, List.map_eq_nil_iff]
    exact List.splitBy_ne_nil.2 (List.cons_ne_nil _ _)
  · rw [hsections, List.length_map, Scan.length_groups]
  · intro t ht
    rw [hsections, ← List.map_dropLast, List.mem_map] at ht
    obtain ⟨group, hgroup, rfl⟩ := ht
    exact Scan.code_ne_nil_of_mem_groups hgroup
  · rw [hsections, Scan.flatMap_code_groups]
  · rw [hsections, Scan.flatMap_docs_groups]

end Marginalia
