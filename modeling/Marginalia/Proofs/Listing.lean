import Marginalia.Proofs.PageMenu
import Marginalia.Proofs.PathOrder
import Marginalia.Proofs.WrittenPages
import Mathlib.Data.List.Forall2
import Mathlib.Data.List.Sort

/-!
# The listing of a batch

1. Sorting keeps equal paths in the order in which they were given (`filter_same_inOrder`), and
   neighbours of a sorted list are all that can repeat (`Canonical.dropRepeats`). So a listing is in
   strict order, has every source and has the first of equal ones (`canonical_listing`).
2. Nothing else has these three properties (`Canonical.components_eq`), so lists of the same sources
   have the same listing but for the way in which its paths are written (`components_listing`).
3. A menu shows no more of a path than its components (`menuEntry_congr`, `render_congr`), and no
   step of a batch changes which sources there are, in which order (`Step.sources_eq`).
   So the outcomes of a batch are those of the listing, and its pages do not tell how the sources
   were given (`runs_listing`).
-/

namespace Marginalia

open Std (ReflCmp OrientedCmp TransCmp)

namespace Path

/-! ## Sorted paths -/

/-- Paths in order, equal ones as they were given. -/
def inOrder (sources : List Path) : List Path := sources.mergeSort fun p q => (p.compare q).isLE

theorem compare_congr_left {p q : Path} (h : p.same q = true) (r : Path) :
    p.compare r = q.compare r := by
  unfold compare
  rw [same_iff.1 h]

theorem isLE_trans (p q r : Path) (h : (p.compare q).isLE = true) (h' : (q.compare r).isLE = true) :
    (p.compare r).isLE = true :=
  TransCmp.isLE_trans h h'

theorem isLE_or_isLE (p q : Path) : ((p.compare q).isLE || (q.compare p).isLE) = true := by
  rw [Bool.or_eq_true]
  exact isLE_total p q

theorem pairwise_inOrder (sources : List Path) :
    (inOrder sources).Pairwise fun p q => (p.compare q).isLE = true :=
  List.pairwise_mergeSort isLE_trans isLE_or_isLE sources

/-- Sorting does not change the order of equal paths. -/
theorem filter_same_inOrder (q : Path) (sources : List Path) :
    (inOrder sources).filter q.same = sources.filter q.same := by
  have hequal : (sources.filter q.same).Pairwise fun a b => (a.compare b).isLE = true := by
    refine List.Pairwise.imp_of_mem ?_ (List.pairwise_of_forall fun _ _ => trivial)
    intro a b ha hb _
    have hab : a.same b = true := by
      rw [same_iff, ← same_iff.1 (List.mem_filter.1 ha).2, same_iff.1 (List.mem_filter.1 hb).2]
    rw [compare_eq_iff.2 hab]
    rfl
  have hsub : (sources.filter q.same).Sublist (inOrder sources) :=
    List.sublist_mergeSort isLE_trans isLE_or_isLE hequal List.filter_sublist
  have hfilter := hsub.filter q.same
  rw [List.filter_filter] at hfilter
  simp only [Bool.and_self] at hfilter
  have hperm := (List.mergeSort_perm sources fun p q => (p.compare q).isLE).filter q.same
  exact (hfilter.eq_of_length hperm.length_eq.symm).symm

/-- The first of equal paths stays the first. -/
theorem find?_same_inOrder (q : Path) (sources : List Path) :
    (inOrder sources).find? q.same = sources.find? q.same := by
  rw [← List.head?_filter, filter_same_inOrder, List.head?_filter]

end Path

/-! ## Listings -/

/-- `listed` is in strict order and has, of every path of `sources`, the first that is equal. -/
structure Canonical (sources listed : List Path) : Prop where
  increasing : listed.Pairwise fun p q => p.compare q = .lt
  first : ∀ q ∈ listed, sources.find? q.same = some q
  covers : ∀ p ∈ sources, ∃ q ∈ listed, p.same q = true

namespace Canonical

variable {sources listed rest more : List Path} {p q : Path}

theorem nil : Canonical [] [] where
  increasing := List.Pairwise.nil
  first _ h := nomatch h
  covers _ h := nomatch h

/-- A path that is not after any of `sources`, nor equal to the first that is listed, goes in
front. -/
theorem cons (h : Canonical rest listed) (hle : ∀ q ∈ rest, (p.compare q).isLE = true)
    (hne : ∀ q ∈ listed, p.same q = false) : Canonical (p :: rest) (p :: listed) where
  increasing := by
    refine List.pairwise_cons.2 ⟨fun q hq => ?_, h.increasing⟩
    exact Path.lt_of_isLE (hle q (List.mem_of_find?_eq_some (h.first q hq))) (hne q hq)
  first := by
    intro q hq
    rcases List.mem_cons.1 hq with rfl | hq
    · rw [List.find?_cons, Path.same_refl]
    · rw [List.find?_cons, Path.same_comm, hne q hq]
      exact h.first q hq
  covers := by
    intro q hq
    rcases List.mem_cons.1 hq with rfl | hq
    · exact ⟨q, List.mem_cons_self, Path.same_refl q⟩
    · obtain ⟨r, hr, hsame⟩ := h.covers q hq
      exact ⟨r, List.mem_cons_of_mem p hr, hsame⟩

/-- A path that is equal to the first that is listed takes its place. -/
theorem replace (h : Canonical rest (q :: more)) (hsame : p.same q = true) :
    Canonical (p :: rest) (p :: more) := by
  obtain ⟨hq, hmore⟩ := List.pairwise_cons.1 h.increasing
  have hlt : ∀ r ∈ more, p.compare r = .lt := fun r hr => by
    rw [Path.compare_congr_left hsame]
    exact hq r hr
  refine ⟨List.pairwise_cons.2 ⟨hlt, hmore⟩, fun r hr => ?_, fun r hr => ?_⟩
  · rcases List.mem_cons.1 hr with rfl | hr
    · rw [List.find?_cons, Path.same_refl]
    · rw [List.find?_cons, Path.same_comm, Path.not_same_of_lt (hlt r hr)]
      exact h.first r (List.mem_cons_of_mem q hr)
  · rcases List.mem_cons.1 hr with rfl | hr
    · exact ⟨r, List.mem_cons_self, Path.same_refl r⟩
    · obtain ⟨s, hs, hrs⟩ := h.covers r hr
      rcases List.mem_cons.1 hs with rfl | hs
      · rw [Path.same_comm] at hsame
        exact ⟨p, List.mem_cons_self, Path.same_trans hrs hsame⟩
      · exact ⟨s, List.mem_cons_of_mem p hs, hrs⟩

/-- In a sorted list it is enough to compare neighbours. -/
theorem dropRepeats {sorted : List Path}
    (h : sorted.Pairwise fun p q => (p.compare q).isLE = true) :
    Canonical sorted (dropRepeats sorted) := by
  induction sorted with
  | nil => exact nil
  | cons p rest ih =>
    obtain ⟨hle, hrest⟩ := List.pairwise_cons.1 h
    have hcanonical := ih hrest
    unfold Marginalia.dropRepeats
    cases hlisted : Marginalia.dropRepeats rest with
    | nil =>
      rw [hlisted] at hcanonical
      exact hcanonical.cons hle fun q hq => nomatch hq
    | cons q more =>
      rw [hlisted] at hcanonical
      dsimp only
      by_cases hsame : p.same q = true
      · rw [if_pos hsame]
        exact hcanonical.replace hsame
      · rw [if_neg hsame]
        rw [Bool.not_eq_true] at hsame
        have hpq := Path.lt_of_isLE
          (hle q (List.mem_of_find?_eq_some (hcanonical.first q List.mem_cons_self))) hsame
        refine hcanonical.cons hle fun r hr => ?_
        rcases List.mem_cons.1 hr with rfl | hr
        · exact hsame
        · have hqr := (List.pairwise_cons.1 hcanonical.increasing).1 r hr
          exact Path.not_same_of_lt (TransCmp.lt_trans hpq hqr)

/-- Every source is equal to one listed path only. -/
theorem existsUnique (h : Canonical sources listed) (hp : p ∈ sources) :
    ∃! q, q ∈ listed ∧ p.same q = true := by
  obtain ⟨q, hq, hsame⟩ := h.covers p hp
  refine ⟨q, ⟨hq, hsame⟩, ?_⟩
  rintro r ⟨hr, hpr⟩
  have hsearch : r.same = q.same := by
    funext s
    unfold Path.same
    rw [← Path.same_iff.1 hsame, ← Path.same_iff.1 hpr]
  have hfirst := h.first r hr
  rw [hsearch, h.first q hq] at hfirst
  exact (Option.some.inj hfirst).symm

theorem mem_components_iff (h : Canonical sources listed) (cs : List Path.Component) :
    cs ∈ listed.map Path.components ↔ cs ∈ sources.map Path.components := by
  simp only [List.mem_map]
  constructor
  · rintro ⟨q, hq, rfl⟩
    exact ⟨q, List.mem_of_find?_eq_some (h.first q hq), rfl⟩
  · rintro ⟨p, hp, rfl⟩
    obtain ⟨q, hq, hsame⟩ := h.covers p hp
    exact ⟨q, hq, (Path.same_iff.1 hsame).symm⟩

end Canonical

theorem canonical_listing (sources : List Path) : Canonical sources (listing sources) := by
  have h := Canonical.dropRepeats (Path.pairwise_inOrder sources)
  refine ⟨h.increasing, fun q hq => ?_, fun p hp => h.covers p (List.mem_mergeSort.2 hp)⟩
  rw [← Path.find?_same_inOrder]
  exact h.first q hq

/-! ## The same sources -/

/-- Two lists have the same paths but for the way in which they are written, in any order and as
often as they like. -/
def SameSources (sources others : List Path) : Prop :=
  (∀ p ∈ sources, ∃ q ∈ others, p.same q = true) ∧ ∀ q ∈ others, ∃ p ∈ sources, p.same q = true

theorem SameSources.mem_components_iff {sources others : List Path} (h : SameSources sources others)
    (cs : List Path.Component) :
    cs ∈ sources.map Path.components ↔ cs ∈ others.map Path.components := by
  simp only [List.mem_map]
  constructor
  · rintro ⟨p, hp, rfl⟩
    obtain ⟨q, hq, hsame⟩ := h.1 p hp
    exact ⟨q, hq, (Path.same_iff.1 hsame).symm⟩
  · rintro ⟨q, hq, rfl⟩
    obtain ⟨p, hp, hsame⟩ := h.2 q hq
    exact ⟨p, hp, Path.same_iff.1 hsame⟩

instance : Std.Irrefl fun s t : List Path.Component => Path.compareSteps s t = .lt where
  irrefl s h := by
    have hself : Path.compareSteps s s = .eq := ReflCmp.compare_self
    rw [hself] at h
    cases h

instance : Std.Antisymm fun s t : List Path.Component => Path.compareSteps s t = .lt where
  antisymm s t h h' := by
    have hswap : Path.compareSteps s t = (Path.compareSteps t s).swap := OrientedCmp.eq_swap
    rw [h, h'] at hswap
    cases hswap

theorem Canonical.components_eq {sources others listed listed' : List Path}
    (h : Canonical sources listed) (h' : Canonical others listed')
    (hsame : SameSources sources others) :
    listed.map Path.components = listed'.map Path.components := by
  refine List.Pairwise.eq_of_mem_iff (r := fun s t => Path.compareSteps s t = .lt) ?_ ?_
    fun cs => ?_
  · exact List.pairwise_map.2 h.increasing
  · exact List.pairwise_map.2 h'.increasing
  · rw [h.mem_components_iff, hsame.mem_components_iff, h'.mem_components_iff]

theorem components_listing {sources others : List Path} (h : SameSources sources others) :
    (listing sources).map Path.components = (listing others).map Path.components :=
  (canonical_listing sources).components_eq (canonical_listing others) h

/-- There are several paths in a listing if there are two different ones among the sources. -/
theorem one_lt_length_listing_iff (sources : List Path) :
    1 < (listing sources).length ↔ ∃ p ∈ sources, ∃ q ∈ sources, p.same q = false := by
  have h := canonical_listing sources
  constructor
  · intro hlength
    match hlisted : listing sources with
    | [] => simp [hlisted] at hlength
    | [_] => simp [hlisted] at hlength
    | p :: q :: more =>
      rw [hlisted] at h
      have hpq := (List.pairwise_cons.1 h.increasing).1 q (by simp)
      exact ⟨p, List.mem_of_find?_eq_some (h.first p (by simp)),
        q, List.mem_of_find?_eq_some (h.first q (by simp)), Path.not_same_of_lt hpq⟩
  · rintro ⟨p, hp, q, hq, hne⟩
    obtain ⟨r, hr, hpr⟩ := h.covers p hp
    obtain ⟨s, hs, hqs⟩ := h.covers q hq
    match hlisted : listing sources with
    | [] => simp [hlisted] at hr
    | [t] =>
      rw [hlisted, List.mem_singleton] at hr hs
      rw [hs, ← hr, Path.same_comm] at hqs
      rw [Path.same_trans hpr hqs] at hne
      cases hne
    | _ :: _ :: _ => simp

namespace Page

/-! ## Menus -/

theorem fileName?_congr {p q : Path} (h : p.components = q.components) :
    p.fileName? = q.fileName? := by
  unfold Path.fileName?
  rw [h]

/-- The entry of a path tells its components only. -/
theorem menuEntry_congr {p q : Path} (h : p.components = q.components) :
    menuEntry fileName p = menuEntry fileName q := by
  unfold menuEntry label fileName Path.stem?
  rw [fileName?_congr h]

theorem flatMap_menuEntry_congr {listed listed' : List Path}
    (h : listed.map Path.components = listed'.map Path.components) :
    listed.flatMap (menuEntry fileName) = listed'.flatMap (menuEntry fileName) := by
  induction listed generalizing listed' with
  | nil =>
    rw [List.map_nil, eq_comm, List.map_eq_nil_iff] at h
    rw [h]
  | cons p rest ih =>
    obtain ⟨q, more, rfl, hq, hmore⟩ := List.map_eq_cons_iff.1 h.symm
    rw [List.flatMap_cons, List.flatMap_cons, menuEntry_congr hq.symm, ih hmore.symm]

theorem jumpMenu_congr {listed listed' : List Path}
    (h : listed.map Path.components = listed'.map Path.components) :
    jumpMenu fileName listed = jumpMenu fileName listed' := by
  have hlength := congrArg List.length h
  rw [List.length_map, List.length_map] at hlength
  unfold jumpMenu menu
  rw [hlength, flatMap_menuEntry_congr h]

/-- A page tells the listing by its menu only. -/
theorem render_eq_jumpMenu (naming : Path → Text) (p : Page) :
    p.render naming = head p.title ++ jumpMenu naming p.sources ++ heading p.title ++
      rows 1 p.sections ++ foot :=
  rfl

theorem render_congr {listed listed' : List Path}
    (h : listed.map Path.components = listed'.map Path.components) (title : Text)
    (sections : List HighlightedSection) :
    render fileName ⟨title, sections, listed⟩ = render fileName ⟨title, sections, listed'⟩ := by
  rw [render_eq_jumpMenu, render_eq_jumpMenu, jumpMenu_congr h]

theorem menu_ne_nil (naming : Path → Text) (listed : List Path) : menu naming listed ≠ [] := by
  intro hnil
  have hclosing : "      </div>\n    </div>\n  </div>\n".toList = [] :=
    (List.append_eq_nil_iff.1 hnil).2
  exact absurd hclosing (by decide)

theorem jumpMenu_ne_nil_iff (naming : Path → Text) (listed : List Path) :
    jumpMenu naming listed ≠ [] ↔ 1 < listed.length := by
  unfold jumpMenu
  split_ifs with h
  · exact iff_of_true (menu_ne_nil naming listed) h
  · exact iff_of_false (fun hne => hne rfl) h

theorem menuLinks_ne_nil_iff (naming : Path → Text) (p : Page) :
    menuLinks (p.render naming) ≠ [] ↔ 1 < p.sources.length := by
  rw [menuLinks_render]
  split_ifs with h
  · refine iff_of_true (fun hnil => ?_) h
    rw [List.map_eq_nil_iff.1 hnil] at h
    simp at h
  · exact iff_of_false (fun hne => hne rfl) h

end Page

/-- The sources of a batch under way: those that were handed over, are in work, and wait. -/
def Progress.sources (p : Progress) : List Path :=
  p.outcomes.map Outcome.source ++ (p.jobs.map Job.source ++ p.waiting)

namespace Workshop

open Relation (ReflTransGen)

variable {w : Workshop} {width : Nat} {sources : List Path} {store : Store} {run : BatchRun}
  {outcomes : List Outcome}

/-! ## Outcomes -/

/-- A step moves a source on and leaves the sources as they are. -/
theorem Step.sources_eq {frozen : List Path} {p q : Progress} (h : w.Step frozen width p q) :
    q.sources = p.sources := by
  cases h with
  | start hroom => simp [Progress.sources]
  | work hopen hwork => simp [Progress.sources]
  | handOver => simp [Progress.sources]

theorem sources_eq_of_steps {frozen : List Path} {p q : Progress}
    (h : ReflTransGen (w.Step frozen width) p q) : q.sources = p.sources := by
  induction h with
  | refl => rfl
  | tail _ hstep ih => rw [hstep.sources_eq, ih]

/-- A batch whose directory is made has outcomes, in the order of the listing, for any number of
jobs. -/
theorem Runs.exists_outcomes (h : w.Runs width sources store run)
    (hprepare : (w.prepare store).1 = .ok ()) :
    ∃ outcomes, run.result = .ok outcomes ∧ outcomes.map Outcome.source = listing sources := by
  cases h with
  | refused hrefused =>
    rw [hrefused] at hprepare
    cases hprepare
  | @finished _ _ outcomes _ _ hsteps =>
    have hsources := sources_eq_of_steps hsteps
    simp only [Progress.sources, Progress.initial, List.map_nil, List.nil_append,
      List.append_nil] at hsources
    exact ⟨outcomes, rfl, hsources⟩

/-- Pages are made from the components of the listing. -/
theorem compose_congr {listed listed' : List Path}
    (h : listed.map Path.components = listed'.map Path.components) (w : Workshop) (source : Path)
    (lang : Language) (text : Text) (store : Store) :
    w.compose listed source lang text store = w.compose listed' source lang text store := by
  unfold compose
  simp only [Page.render_congr h]

theorem Shows.congr {listed listed' : List Path}
    (h : listed.map Path.components = listed'.map Path.components) {highlight : Highlighter}
    {source : Path} {text page : Text} (hshows : w.Shows highlight listed source text page) :
    w.Shows highlight listed' source text page := by
  obtain ⟨lang, file, hlang, hfile, rfl⟩ := hshows
  exact ⟨lang, file, hlang, hfile, Page.render_congr h _ _⟩

/-- **Listings are canonical.** A batch whose directory is made has the outcomes of its sources in
strict order, each source once, in the way in which it was first written. The pages that it writes
have this listing, and a page with it has a menu if there are two different sources. Batches of the
same sources, in any order, as often and in whatever way they are written, have as many outcomes, of
the same sources in the same order, and make the same pages. -/
theorem runs_listing (w : Workshop) (width : Nat) (sources : List Path) (store : Store)
    (run : BatchRun) (hrun : w.Runs width sources store run)
    (hprepare : (w.prepare store).1 = .ok ()) :
    ∃ outcomes, run.result = .ok outcomes ∧
    let listed := outcomes.map Outcome.source
    (listed.Pairwise fun p q => p.compare q = .lt) ∧
    (∀ p ∈ sources, ∃! q, q ∈ listed ∧ p.same q = true) ∧
    (∀ q ∈ listed, sources.find? q.same = some q) ∧
    (∃ prepared, w.prepare store = (.ok (), prepared) ∧
      ∀ source target, ⟨source, .ok target⟩ ∈ outcomes →
        target = Page.destination w.directory source ∧
          w.Written listed width (.initial listed prepared) source
            ⟨run.journal, outcomes, [], [], run.store⟩) ∧
    (∀ naming title sections, Page.menuLinks (Page.render naming ⟨title, sections, listed⟩) ≠ [] ↔
      ∃ p ∈ sources, ∃ q ∈ sources, p.same q = false) ∧
    (∀ naming, Page.jumpMenu naming listed ≠ [] ↔
      ∃ p ∈ sources, ∃ q ∈ sources, p.same q = false) ∧
    ∀ (w' : Workshop) (width' : Nat) (others : List Path) (store' : Store) (run' : BatchRun),
      SameSources sources others → w'.Runs width' others store' run' →
      (w'.prepare store').1 = .ok () →
      ∃ outcomes', run'.result = .ok outcomes' ∧
      let listed' := outcomes'.map Outcome.source
      outcomes.length = outcomes'.length ∧
      List.Forall₂ (fun o o' => o.source.same o'.source = true) outcomes outcomes' ∧
      Page.jumpMenu Page.fileName listed = Page.jumpMenu Page.fileName listed' ∧
      (∀ title sections, Page.render Page.fileName ⟨title, sections, listed⟩ =
        Page.render Page.fileName ⟨title, sections, listed'⟩) ∧
      (∀ (v : Workshop) (highlight : Highlighter) (source : Path) (text page : Text),
        v.Shows highlight listed source text page ↔ v.Shows highlight listed' source text page) ∧
      ∀ (v : Workshop) (source : Path) (lang : Language) (text : Text) (s : Store),
        v.compose listed source lang text s = v.compose listed' source lang text s := by
  obtain ⟨outcomes, hresult, hlisted⟩ := hrun.exists_outcomes hprepare
  refine ⟨outcomes, hresult, ?_⟩
  intro listed
  have hcanonical : Canonical sources listed := by
    rw [show listed = listing sources from hlisted]
    exact canonical_listing sources
  have hseveral : 1 < listed.length ↔ ∃ p ∈ sources, ∃ q ∈ sources, p.same q = false := by
    rw [show listed = listing sources from hlisted]
    exact one_lt_length_listing_iff sources
  refine ⟨hcanonical.increasing, fun p => hcanonical.existsUnique, hcanonical.first, ?_, ?_, ?_,
    ?_⟩
  · rw [show listed = listing sources from hlisted]
    exact hrun.written hresult
  · intro naming title sections
    rw [Page.menuLinks_ne_nil_iff, hseveral]
  · intro naming
    rw [Page.jumpMenu_ne_nil_iff, hseveral]
  · intro w' width' others store' run' hsame hrun' hprepare'
    obtain ⟨outcomes', hresult', hlisted'⟩ := hrun'.exists_outcomes hprepare'
    refine ⟨outcomes', hresult', ?_⟩
    intro listed'
    have hcomponents : listed.map Path.components = listed'.map Path.components := by
      rw [show listed = listing sources from hlisted, show listed' = listing others from hlisted']
      exact components_listing hsame
    have heach : List.Forall₂ (fun o o' => o.source.same o'.source = true) outcomes outcomes' := by
      have heq := hcomponents
      rw [List.map_map, List.map_map, ← List.forall₂_eq_eq_eq, List.forall₂_map_left_iff,
        List.forall₂_map_right_iff] at heq
      simpa only [Path.same_iff, Function.comp_apply] using heq
    exact ⟨heach.length_eq, heach, Page.jumpMenu_congr hcomponents, Page.render_congr hcomponents,
      fun _ _ _ _ _ => ⟨Shows.congr hcomponents, Shows.congr hcomponents.symm⟩,
      compose_congr hcomponents⟩

/-- Two sources, one of them given twice, and the same two the other way round. One of them is
there and has its page, outside the working directory. -/
theorem runs_listing_slashes :
    let highlight : Highlighter := fun _ code => ([], .ok (Fragment.wrap code))
    let w : Workshop := ⟨.default, highlight.anywhere, .ok, .ofText "/srv/docs".toList⟩
    let store : Store := ⟨[], [([Utf8.encode ['b']], .directory),
      ([Utf8.encode ['b'], Utf8.encode "c.py".toList], .file [120] false)]⟩
    let source : Path := .ofText "b//c.py".toList
    let sources : List Path := [source, .ofText "a.py/".toList, .ofText "b/./c.py".toList]
    let others : List Path := [.ofText "a.py".toList, .ofText "b/c.py".toList]
    (w.prepare store).1 = .ok () ∧ SameSources sources others ∧
    ∃ outcomes outcomes', (w.run sources store).result = .ok outcomes ∧
      (w.run others store).result = .ok outcomes' ∧ outcomes.length = outcomes'.length ∧
      source ∈ outcomes.map Outcome.source ∧
      w.Written (outcomes.map Outcome.source) 2
        (.initial (outcomes.map Outcome.source) (w.prepare store).2) source
        ⟨(w.run sources store).journal, outcomes, [], [], (w.run sources store).store⟩ ∧
      Page.jumpMenu Page.fileName (outcomes.map Outcome.source) =
        Page.jumpMenu Page.fileName (outcomes'.map Outcome.source) ∧
      Page.jumpMenu Page.fileName (outcomes.map Outcome.source) ≠ [] := by
  intro highlight w store source sources others
  have hprepare : (w.prepare store).1 = .ok () := rfl
  have hsame : SameSources sources others := by
    unfold SameSources
    decide
  obtain ⟨outcomes, hresult, -, hcovers, hfirst, ⟨prepared, hprepared, hwritten⟩, -, hmenu,
    hagree⟩ := runs_listing w 2 sources store _ (runs_run w 2 sources store) hprepare
  obtain ⟨outcomes', hresult', hlength, -, heq, -⟩ :=
    hagree w 1 others store _ hsame (runs_run w 1 others store) hprepare
  obtain ⟨q, ⟨hq, hsource⟩, -⟩ := hcovers source List.mem_cons_self
  have hq' : sources.find? q.same = some source := by
    rw [List.find?_cons, Path.same_comm, hsource]
  rw [hfirst q hq] at hq'
  rw [Option.some.inj hq'] at hq
  have hpages : (w.prepare store).2 = prepared := by rw [hprepared]
  rw [hpages]
  refine ⟨hprepare, hsame, outcomes, outcomes', hresult, hresult', hlength, hq, ?_, heq,
    (hmenu Page.fileName).2 (by decide)⟩
  obtain ⟨⟨_, result⟩, hmem, rfl⟩ := List.mem_map.1 hq
  -- the source that is there has a page
  have halone : (w.document (listing sources) source (w.prepare store).2).2.1.mapError Fault.kind =
      .ok (.ofText "/srv/docs/c.html".toList) := by
    decide +kernel
  have hdone : (w.documentAll (listing sources) (listing sources) prepared).2.1 = outcomes := by
    rw [run_of_ok hprepared] at hresult
    exact Except.ok.inj hresult
  have hkind : result.mapError Fault.kind =
      (w.document (listing sources) source prepared).2.1.mapError Fault.kind :=
    mapError_of_mem_documentAll rfl (by decide) (Store.SameButPages.refl prepared)
      (hdone.symm ▸ hmem)
  rw [← hpages, halone] at hkind
  cases result with
  | error fault => cases hkind
  | ok target => exact (hwritten source target hmem).2

end Workshop

end Marginalia
