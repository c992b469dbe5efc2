import Marginalia.Proofs.Entities
import Marginalia.Proofs.PageNames
import Marginalia.Proofs.SourcePages

/-!
# Markup of pages

Titles, labels and links come from file names, which may hold any character.

1. They add no bracket to a page: the tags of a page depend on its sections and on the number of its
   sources only (`brackets_render_congr`).
2. So a reader finds the links of the menu between the fixed texts of a page: everything in front of
   the table is passed piece by piece (`breakOn?_append_of_apart`, `links_flatMap_menuEntry`), and
   each link says where it leads and what it is called (`menuLinks_render`).
3. The links that a batch puts on its pages are the names of the files that it writes
   (`map_href_menuLinks`), and their labels those of the sources (`map_label_menuLinks`).
-/

namespace Marginalia

open Markup (brackets decode)

namespace Text

/-! ## Texts apart from a pattern -/

/-- No place in `a` may be the start of `p`, whatever follows `a`. -/
def Apart (p a : Text) : Prop := ∀ s ∈ a.tails, s ≠ [] → ¬ s <+: p ∧ ¬ p <+: s

instance (p a : Text) : Decidable (Apart p a) := List.decidableBAll _ _

theorem apart_cons_iff {p a : Text} {c : Char} :
    Apart p (c :: a) ↔ (¬ c :: a <+: p ∧ ¬ p <+: c :: a) ∧ Apart p a := by
  unfold Apart
  rw [List.tails_cons, List.forall_mem_cons]
  simp

theorem Apart.append {p a b : Text} (ha : Apart p a) (hb : Apart p b) : Apart p (a ++ b) := by
  induction a with
  | nil => exact hb
  | cons c a ih =>
    obtain ⟨⟨hfront, hback⟩, ha⟩ := apart_cons_iff.1 ha
    refine apart_cons_iff.2 ⟨⟨fun h => hfront ((List.prefix_append (c :: a) b).trans h), ?_⟩, ih ha⟩
    intro h
    rcases List.prefix_or_prefix_of_prefix h (List.prefix_append (c :: a) b) with h | h
    · exact hback h
    · exact hfront h

/-- A text that lacks the first character of a pattern is apart from it. -/
theorem apart_of_not_mem {x : Char} {p a : Text} (h : x ∉ a) : Apart (x :: p) a := by
  induction a with
  | nil => simp [Apart]
  | cons c a ih =>
    rw [List.mem_cons, not_or] at h
    refine apart_cons_iff.2 ⟨⟨fun hp => ?_, fun hp => ?_⟩, ih h.2⟩
    · exact h.1 (List.cons_prefix_cons.1 hp).1.symm
    · exact h.1 (List.cons_prefix_cons.1 hp).1

/-- The search for a pattern passes a text that is apart from it. -/
theorem breakOn?_append_of_apart {p a : Text} (h : Apart p a) (t : Text) :
    breakOn? p (a ++ t) = (breakOn? p t).map fun parts => (a ++ parts.1, parts.2) := by
  induction a with
  | nil => simp
  | cons c a ih =>
    obtain ⟨⟨hfront, hback⟩, ha⟩ := apart_cons_iff.1 h
    have hnone : after? p (c :: (a ++ t)) = none := by
      rw [after?_eq_none_iff, ← List.cons_append]
      intro hp
      rcases List.prefix_or_prefix_of_prefix hp (List.prefix_append (c :: a) t) with hp | hp
      · exact hback hp
      · exact hfront hp
    rw [List.cons_append, breakOn?_cons_of_none hnone, ih ha, Option.map_map]
    rfl

theorem breakOn?_of_apart {p a : Text} (hp : p ≠ []) (h : Apart p a) (t : Text) :
    breakOn? p (a ++ (p ++ t)) = some (a, t) := by
  rw [breakOn?_append_of_apart h, breakOn?_append hp, Option.map_some, List.append_nil]

theorem Apart.flatMap {α : Type} {p : Text} {f : α → Text} (h : ∀ x, Apart p (f x)) (xs : List α) :
    Apart p (xs.flatMap f) := by
  induction xs with
  | nil => simp [Apart]
  | cons x xs ih =>
    rw [List.flatMap_cons]
    exact (h x).append ih

theorem pieces_append_of_apart {p a : Text} (hp : p ≠ []) (h : Apart p a) (t : Text) :
    pieces p (a ++ t) = (pieces p t).modifyHead (a ++ ·) := by
  have hbreak := breakOn?_append_of_apart h t
  cases ht : breakOn? p t with
  | none =>
    rw [ht] at hbreak
    rw [pieces_of_none hbreak, pieces_of_none ht]
    rfl
  | some parts =>
    rw [ht] at hbreak
    rw [pieces_of_some hp hbreak, pieces_of_some hp ht]
    rfl

end Text

namespace Page

open Text (Apart breakOn? pieces)

/-! ## Reading a menu -/

/-- What a link of the menu begins with. -/
def linkOpening : Text := "<a class=\"source\" href=\"".toList

/-- The value of a link up to its closing quote and its label up to its closing tag. -/
def readLink? (t : Text) : Option (Text × Text) :=
  match breakOn? ['"'] t with
  | none => none
  | some (href, rest) =>
    match Text.after? ['>'] rest with
    | none => none
    | some rest => (breakOn? "</a>".toList rest).map fun parts => (href, parts.1)

/-- The links in a text, in their order. -/
def links (t : Text) : List (Option (Text × Text)) := (pieces linkOpening t).tail.map readLink?

/-- The links that stand on a page in front of its table. -/
def menuLinks (page : Text) : List (Option (Text × Text)) :=
  match breakOn? "<table".toList page with
  | none => []
  | some (front, _) => links front

/-! ## Brackets -/

/-- The brackets of a menu's entry are those of its tags. -/
theorem brackets_menuEntry (naming : Path → Text) (source : Path) :
    brackets (menuEntry naming source) = "<><>".toList := by
  unfold menuEntry
  simp only [Markup.brackets_append, Markup.brackets_quote, Markup.brackets_escape, List.append_nil]
  decide

theorem brackets_flatMap_menuEntry (naming : Path → Text) (sources : List Path) :
    brackets (sources.flatMap (menuEntry naming)) =
      (List.replicate sources.length "<><>".toList).flatten := by
  induction sources with
  | nil => rfl
  | cons source rest ih =>
    rw [List.flatMap_cons, Markup.brackets_append, brackets_menuEntry, ih, List.length_cons,
      List.replicate_succ, List.flatten_cons]

theorem brackets_head (title : Text) : brackets (head title) = brackets (head []) := by
  unfold head
  simp only [Markup.brackets_append, Markup.brackets_escape]

theorem brackets_heading (title : Text) : brackets (heading title) = brackets (heading []) := by
  unfold heading
  simp only [Markup.brackets_append, Markup.brackets_escape]

/-- The tags of a page tell its sections and how many sources there are. -/
theorem brackets_render_congr (naming other : Path → Text) {p q : Page}
    (hsections : p.sections = q.sections) (hsources : p.sources.length = q.sources.length) :
    brackets (p.render naming) = brackets (q.render other) := by
  have hmenu : brackets (menu naming p.sources) = brackets (menu other q.sources) := by
    unfold menu
    simp only [Markup.brackets_append, brackets_flatMap_menuEntry, hsources]
  unfold render
  simp only [Markup.brackets_append, brackets_head p.title, brackets_head q.title,
    brackets_heading p.title, brackets_heading q.title, hsections, hsources]
  split_ifs
  · rw [hmenu]
  · rfl

/-! ## Links -/

/-- What follows the opening of a link. -/
def linkBody (naming : Path → Text) (source : Path) : Text :=
  Markup.quote (naming source) ++ (['"'] ++ (['>'] ++
    (Markup.escape (label source) ++ ("</a>".toList ++ ['\n']))))

theorem menuEntry_eq (naming : Path → Text) (source : Path) :
    menuEntry naming source =
      "        ".toList ++ (linkOpening ++ linkBody naming source) := by
  unfold menuEntry linkBody
  simp only [List.append_assoc]
  rfl

theorem readLink?_linkBody (naming : Path → Text) (source : Path) (t : Text) :
    readLink? (linkBody naming source ++ t) =
      some (Markup.quote (naming source), Markup.escape (label source)) := by
  have hquote : Apart ['"'] (Markup.quote (naming source)) :=
    Text.apart_of_not_mem (Markup.not_mem_quote (Or.inr (Or.inr rfl)) _)
  have hlabel : Apart "</a>".toList (Markup.escape (label source)) :=
    Text.apart_of_not_mem (Markup.not_mem_escape (Or.inl rfl) _)
  unfold readLink? linkBody
  simp only [List.append_assoc]
  rw [Text.breakOn?_of_apart (List.cons_ne_nil _ _) hquote]
  dsimp only
  rw [Text.after?_append]
  dsimp only
  rw [Text.breakOn?_of_apart (by decide) hlabel, Option.map_some]

theorem apart_linkBody (naming : Path → Text) (source : Path) :
    Apart linkOpening (linkBody naming source) := by
  have hquote : Apart linkOpening (Markup.quote (naming source)) :=
    Text.apart_of_not_mem (Markup.not_mem_quote (Or.inl rfl) _)
  have hlabel : Apart linkOpening (Markup.escape (label source)) :=
    Text.apart_of_not_mem (Markup.not_mem_escape (Or.inl rfl) _)
  have hopen : Apart linkOpening ['"'] := by decide
  have hclose : Apart linkOpening ['>'] := by decide
  have htag : Apart linkOpening ("</a>".toList ++ ['\n']) := by decide
  exact hquote.append (hopen.append (hclose.append (hlabel.append htag)))

theorem links_append_of_apart {a : Text} (h : Apart linkOpening a) (t : Text) :
    links (a ++ t) = links t := by
  unfold links
  rw [Text.pieces_append_of_apart (by decide) h, List.tail_modifyHead]

/-- The links of entries are found one after another. -/
theorem links_flatMap_menuEntry (naming : Path → Text) (sources : List Path) (t : Text) :
    links (sources.flatMap (menuEntry naming) ++ t) =
      (sources.map fun source =>
        some (Markup.quote (naming source), Markup.escape (label source))) ++ links t := by
  induction sources with
  | nil => rfl
  | cons source rest ih =>
    have hbody := Text.pieces_append_of_apart (by decide) (apart_linkBody naming source)
      (rest.flatMap (menuEntry naming) ++ t)
    obtain ⟨first, more, hmore⟩ := List.exists_cons_of_ne_nil
      (Text.pieces_ne_nil linkOpening (rest.flatMap (menuEntry naming) ++ t))
    have hrest : links (rest.flatMap (menuEntry naming) ++ t) = more.map readLink? := by
      rw [links, hmore, List.tail_cons]
    rw [List.flatMap_cons, menuEntry_eq, List.append_assoc, List.append_assoc, List.append_assoc,
      links_append_of_apart (by decide), links, Text.pieces_append (by decide), hbody, hmore,
      List.modifyHead_cons, List.tail_cons, List.map_cons, readLink?_linkBody, ← hrest, ih,
      List.map_cons, List.cons_append]

/-! ## Pages -/

/-- The texts around the title in front of a menu. -/
theorem exists_head (title : Text) :
    ∃ opening closing, head title = opening ++ (Markup.escape title ++ closing) ∧
      ∀ p ∈ [linkOpening, "<table".toList], Apart p opening ∧ Apart p closing := by
  refine ⟨"<!DOCTYPE html>\n<html>\n<head>\n  <title>".toList, "</title>\n".toList ++
    "  <meta http-equiv=\"content-type\" content=\"text/html; charset=UTF-8\">\n".toList ++
    "  <link rel=\"stylesheet\" media=\"all\" href=\"".toList ++ Stylesheet.name ++
    "\" />\n</head>\n<body>\n<div id=\"container\">\n  <div id=\"background\"></div>\n".toList,
    ?_, by decide +kernel⟩
  unfold head
  simp only [List.append_assoc]

theorem apart_head {p : Text} (h : p ∈ [linkOpening, "<table".toList]) (title : Text) :
    Apart p (head title) := by
  obtain ⟨opening, closing, heq, hapart⟩ := exists_head title
  have hescape : Apart p (Markup.escape title) := by
    obtain ⟨rest, rfl⟩ : ∃ rest, p = '<' :: rest := by
      rcases List.mem_pair.1 h with rfl | rfl
      · exact ⟨_, rfl⟩
      · exact ⟨_, rfl⟩
    exact Text.apart_of_not_mem (Markup.not_mem_escape (Or.inl rfl) title)
  obtain ⟨hopening, hclosing⟩ := hapart p h
  rw [heq]
  exact hopening.append (hescape.append hclosing)

theorem apart_table_menuEntry (naming : Path → Text) (source : Path) :
    Apart "<table".toList (menuEntry naming source) := by
  have hquote : Apart "<table".toList (Markup.quote (naming source)) :=
    Text.apart_of_not_mem (Markup.not_mem_quote (Or.inl rfl) _)
  have hlabel : Apart "<table".toList (Markup.escape (label source)) :=
    Text.apart_of_not_mem (Markup.not_mem_escape (Or.inl rfl) _)
  have hopen : Apart "<table".toList "        <a class=\"source\" href=\"".toList := by decide
  have hclose : Apart "<table".toList "\">".toList := by decide
  have htag : Apart "<table".toList "</a>\n".toList := by decide
  exact (((hopen.append hquote).append hclose).append hlabel).append htag

/-- The menu of a page, or nothing. -/
def jumpMenu (naming : Path → Text) (sources : List Path) : Text :=
  if sources.length > 1 then menu naming sources else []

theorem apart_table_jumpMenu (naming : Path → Text) (sources : List Path) :
    Apart "<table".toList (jumpMenu naming sources) := by
  unfold jumpMenu menu
  split_ifs
  · have hentries := Apart.flatMap (apart_table_menuEntry naming) sources
    exact ((Apart.append (by decide +kernel) (by decide)).append hentries).append (by decide)
  · decide

theorem links_jumpMenu (naming : Path → Text) (sources : List Path) :
    links (jumpMenu naming sources ++ "  ".toList) =
      if sources.length > 1 then
        sources.map fun source =>
          some (Markup.quote (naming source), Markup.escape (label source))
      else [] := by
  unfold jumpMenu menu
  split_ifs
  · have hclosing : links ("      </div>\n    </div>\n  </div>\n".toList ++ "  ".toList) = [] := by
      rw [links, Text.pieces_of_not_infix (by decide)]
      rfl
    rw [List.append_assoc, List.append_assoc,
      links_append_of_apart (Apart.append (by decide +kernel) (by decide)),
      links_flatMap_menuEntry, hclosing, List.append_nil]
  · rw [links, List.nil_append, Text.pieces_of_not_infix (by decide)]
    rfl

/-- A page has a link for each of several sources in front of its table, and none for a single
one. -/
theorem menuLinks_render (naming : Path → Text) (p : Page) :
    menuLinks (p.render naming) =
      if p.sources.length > 1 then
        p.sources.map fun source =>
          some (Markup.quote (naming source), Markup.escape (label source))
      else [] := by
  obtain ⟨table, htable⟩ : ∃ table, heading p.title = "  ".toList ++ ("<table".toList ++ table) :=
    ⟨_, rfl⟩
  have hrender : p.render naming =
      (head p.title ++ (jumpMenu naming p.sources ++ "  ".toList)) ++
        ("<table".toList ++ (table ++ (rows 1 p.sections ++ foot))) := by
    unfold render
    rw [htable, jumpMenu]
    simp only [List.append_assoc]
  have hfront : Apart "<table".toList
      (head p.title ++ (jumpMenu naming p.sources ++ "  ".toList)) :=
    (apart_head (by simp) p.title).append
      ((apart_table_jumpMenu naming p.sources).append (by decide))
  unfold menuLinks
  rw [hrender, Text.breakOn?_of_apart (by decide) hfront]
  dsimp only
  rw [links_append_of_apart (apart_head (by simp) p.title), links_jumpMenu]

/-- The hrefs of a menu lead to the files of the pages, in whatever directory these lie. -/
theorem map_href_menuLinks {p : Page} (h : p.sources.length > 1) (directory : Path) :
    (menuLinks (p.render fileName)).map (Option.map fun link => Utf8.encode (decode link.1)) =
      p.sources.map fun source => (destination directory source).fileName? := by
  rw [menuLinks_render, if_pos h, List.map_map]
  refine List.map_congr_left fun source _ => ?_
  show some (Utf8.encode (decode (Markup.quote (fileName source)))) = _
  rw [Markup.decode_quote, fileName?_destination]

/-- The labels of a menu are the names of the sources, where texts spell these. -/
theorem map_label_menuLinks {p : Page} (h : p.sources.length > 1) (naming : Path → Text)
    (hnames : ∀ source ∈ p.sources, ∃ name, source.fileName?.getD [] = Utf8.encode name) :
    (menuLinks (p.render naming)).map (Option.map fun link => Utf8.encode (decode link.2)) =
      p.sources.map fun source => some (source.fileName?.getD []) := by
  rw [menuLinks_render, if_pos h, List.map_map]
  refine List.map_congr_left fun source hsource => ?_
  obtain ⟨name, hname⟩ := hnames source hsource
  show some (Utf8.encode (decode (Markup.escape (label source)))) = _
  rw [Markup.decode_escape, label, hname, Utf8.decodeLossy_encode]

/-- **File names stay text.** Pages with the same sections and as many sources have the same
brackets, whatever their titles, sources and links are. A page of several sources has a menu with
one link for each of them, in their order; its target is read back as the name of the source's page
and its label as what is shown of the name of the source, which is the name if a text spells it.
Where pages are named as a batch names them, the targets are the files that the batch writes. -/
theorem menuLinks_uninjected (naming : Path → Text) (p : Page) :
    (∀ (other : Path → Text) (q : Page), p.sections = q.sections →
      p.sources.length = q.sources.length →
      brackets (p.render naming) = brackets (q.render other)) ∧
    (p.sources.length > 1 →
      (menuLinks (p.render naming)).map (Option.map (Prod.map decode decode)) =
        p.sources.map fun source =>
          some (naming source, Utf8.decodeLossy (source.fileName?.getD []))) ∧
    (p.sources.length > 1 →
      (∀ source ∈ p.sources, ∃ name, source.fileName?.getD [] = Utf8.encode name) →
      (menuLinks (p.render naming)).map (Option.map fun link => Utf8.encode (decode link.2)) =
        p.sources.map fun source => some (source.fileName?.getD [])) ∧
    (p.sources.length > 1 → ∀ directory,
      (menuLinks (p.render fileName)).map (Option.map fun link => Utf8.encode (decode link.1)) =
        p.sources.map fun source => (destination directory source).fileName?) ∧
    ∀ (w : Workshop) (listing : List Path) (source : Path) (store : Store) (page : Text),
      w.page listing source store = .ok page → listing.length > 1 →
      (menuLinks page).map (Option.map fun link => Utf8.encode (decode link.1)) =
        listing.map fun other => (destination w.directory other).fileName? := by
  refine ⟨fun other q => brackets_render_congr naming other, fun h => ?_,
    fun h => map_label_menuLinks h naming, map_href_menuLinks, ?_⟩
  · rw [menuLinks_render, if_pos h, List.map_map]
    refine List.map_congr_left fun source _ => ?_
    show some (decode (Markup.quote (naming source)), decode (Markup.escape (label source))) = _
    rw [Markup.decode_quote, Markup.decode_escape]
    rfl
  · intro w listing source store page hpage h
    obtain ⟨-, -, -, file, -, -, rfl⟩ := Workshop.page_eq_ok_iff.1 hpage
    exact @map_href_menuLinks ⟨label source, file.sections, listing⟩ h w.directory

/-- Sources whose names are full of markup, and as many plain ones. -/
theorem menuLinks_uninjected_tags :
    let p : Page := ⟨"<script>".toList, [],
      [.ofText "a/\"><b>.py".toList, .ofText "..".toList]⟩
    let q : Page := ⟨"plain".toList, [], [.ofText "a.py".toList, .ofText "b.py".toList]⟩
    p.sources.length > 1 ∧ p.sections = q.sections ∧ p.sources.length = q.sources.length ∧
      brackets (p.render fileName) = brackets (q.render fun _ => ['<']) ∧
      (menuLinks (p.render fileName)).map (Option.map (Prod.map decode decode)) =
        [some ("\"><b>.html".toList, "\"><b>.py".toList), some (".html".toList, [])] ∧
      (menuLinks (p.render fileName)).map (Option.map fun link => Utf8.encode (decode link.1)) =
        p.sources.map fun source => (destination (.ofText "out".toList) source).fileName? := by
  intro p q
  obtain ⟨hbrackets, hlinks, -, htargets, -⟩ := menuLinks_uninjected fileName p
  refine ⟨by decide, rfl, rfl, hbrackets _ q rfl rfl, ?_, htargets (by decide) _⟩
  rw [hlinks (by decide)]
  decide

end Page

end Marginalia
