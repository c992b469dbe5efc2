import Marginalia.Batch.Jobs
import Marginalia.Proofs.BatchIsolation
import Mathlib.Algebra.Ring.Nat
import Mathlib.Data.List.Nodup
import Mathlib.Logic.Relation

/-!
# Batches with several sources in work

A run of a batch takes steps from the whole listing waiting to nothing waiting and nothing in work
(`Workshop.Runs`). The steps of different sources interleave as they like.

1. Working on one source after another is a run for any number of jobs (`runs_run`), and the only
   one if there is one job (`eq_run_of_runs`): a step is then determined by what came before
   (`step_unique`). No batch gets stuck, since every step comes nearer to the end (`exists_end`).
2. A piece of work brings a source to what it comes to alone in the store that was set up, and
   writes its page at most (`reached_advance`). Pages at different places do not get in each other's
   way (`Laid.wrote`), and the store is determined by the sources that are settled (`Laid.get?_eq`).
3. Every step keeps this (`Sound.step`), so all runs of a batch end alike (`runs_agree`).
-/

namespace Marginalia

open Relation (ReflTransGen)
open Store (SameButPages)

/-- A batch of which nothing is done. -/
def Progress.initial (sources : List Path) (store : Store) : Progress :=
  ⟨[], [], [], sources, store⟩

/-- The outcome of `source` is known. -/
def Progress.Settled (p : Progress) (source : Path) : Prop :=
  ∃ result, ⟨source, result⟩ ∈ p.outcomes ∨ ⟨source, .settled result⟩ ∈ p.jobs

/-- The steps that a source may still take. -/
def Stage.left : Stage → Nat
  | .begun => 4
  | .opened _ _ => 3
  | .composed _ => 2
  | .settled _ => 1

/-- The steps that a batch may still take. -/
def Progress.left (p : Progress) : Nat :=
  (p.jobs.map fun job => job.stage.left).sum + 5 * p.waiting.length

/-- What is known of the outcomes of a batch, but for the particulars of faults. -/
def BatchRun.verdicts (r : BatchRun) : Except Fault (List (Path × Except String Path)) :=
  r.result.map fun outcomes => outcomes.map Outcome.verdict

namespace Workshop

/-- The runs of a batch that works on at most `width` sources at a time. -/
inductive Runs (w : Workshop) (width : Nat) (sources : List Path) (store : Store) : BatchRun → Prop
  | refused {cause left} (hprepare : w.prepare store = (.error cause, left)) :
    Runs w width sources store ⟨[], .error (.system cause), left⟩
  | finished {prepared journal outcomes final} (hprepare : w.prepare store = (.ok (), prepared))
    (hsteps : ReflTransGen (w.Step (listing sources) width)
      (.initial (listing sources) prepared) ⟨journal, outcomes, [], [], final⟩) :
    Runs w width sources store ⟨journal, .ok outcomes, final⟩

variable {w : Workshop} {frozen : List Path} {width : Nat}

/-! ## One source after another -/

/-- Work on a source that is at some stage leads to an outcome, with what is told on the way and
what is left of the store, if no other work comes in between. -/
def Settles (w : Workshop) (frozen : List Path) (width : Nat) (source : Path) (stage : Stage)
    (store : Store) (answer : Journal × Except Fault Path × Store) : Prop :=
  ∀ journal outcomes waiting, ReflTransGen (w.Step frozen width)
    ⟨journal, outcomes, [⟨source, stage⟩], waiting, store⟩
    ⟨journal ++ answer.1, outcomes, [⟨source, .settled answer.2.1⟩], waiting, answer.2.2⟩

/-- There is room for one source at least. -/
theorem step_start (journal : Journal) (outcomes : List Outcome) (source : Path)
    (waiting : List Path) (store : Store) :
    w.Step frozen width ⟨journal, outcomes, [], source :: waiting, store⟩
      ⟨journal, outcomes, [⟨source, .begun⟩], waiting, store⟩ :=
  Step.start (Nat.lt_of_lt_of_le Nat.zero_lt_one (Nat.le_max_right width 1))

theorem step_single {source : Path} {stage stage' : Stage} {store store' : Store} {told : Journal}
    (hopen : ∀ result, stage ≠ .settled result)
    (hwork : w.advance frozen source stage store = (told, stage', store')) (journal : Journal)
    (outcomes : List Outcome) (waiting : List Path) :
    w.Step frozen width ⟨journal, outcomes, [⟨source, stage⟩], waiting, store⟩
      ⟨journal ++ told, outcomes, [⟨source, stage'⟩], waiting, store'⟩ :=
  @Step.work w frozen width journal outcomes [] source stage [] waiting store told stage' store'
    hopen hwork

section Settles

variable {source : Path} {stage stage' : Stage} {store store' : Store} {told : Journal}

theorem Settles.last {result : Except Fault Path} (hopen : ∀ result, stage ≠ .settled result)
    (hwork : w.advance frozen source stage store = (told, .settled result, store')) :
    w.Settles frozen width source stage store (told, result, store') :=
  fun journal outcomes waiting =>
    ReflTransGen.single (step_single hopen hwork journal outcomes waiting)

theorem Settles.next {answer : Journal × Except Fault Path × Store}
    (hopen : ∀ result, stage ≠ .settled result)
    (hwork : w.advance frozen source stage store = (told, stage', store'))
    (h : w.Settles frozen width source stage' store' answer) :
    w.Settles frozen width source stage store (told ++ answer.1, answer.2) := by
  intro journal outcomes waiting
  have hrest := h (journal ++ told) outcomes waiting
  rw [List.append_assoc] at hrest
  exact ReflTransGen.head (step_single hopen hwork journal outcomes waiting) hrest

/-- Documenting a source is working on it until it is settled. -/
theorem settles_document (source : Path) (store : Store) :
    w.Settles frozen width source .begun store (w.document frozen source store) := by
  have hbegun : ∀ result, Stage.begun ≠ .settled result := fun _ h => nomatch h
  have hopened : ∀ lang text result, Stage.opened lang text ≠ .settled result :=
    fun _ _ _ h => nomatch h
  have hcomposed : ∀ page result, Stage.composed page ≠ .settled result := fun _ _ h => nomatch h
  unfold document
  cases hlang : w.registry.lookup source with
  | error fault => exact Settles.last hbegun (by simp only [advance, hlang])
  | ok lang =>
    cases hread : store.readText source with
    | error cause => exact Settles.last hbegun (by simp only [advance, hlang, hread])
    | ok text =>
      have hopen : w.advance frozen source .begun store = ([], .opened lang text, store) := by
        simp only [advance, hlang, hread]
      dsimp only
      rcases hmade : w.compose frozen source lang text store with ⟨told, fault | page, left⟩
      · have hfail : w.advance frozen source (.opened lang text) store =
            (told, .settled (.error fault), left) := by
          simp only [advance, hmade]
        exact Settles.next hbegun hopen (Settles.last (hopened lang text) hfail)
      · have hpage : w.advance frozen source (.opened lang text) store =
            (told, .composed page, left) := by
          simp only [advance, hmade]
        dsimp only
        cases hwrite : left.write (Page.destination w.directory source) (Utf8.encode page) with
        | error cause =>
          have hrefused : w.advance frozen source (.composed page) left =
              ([], .settled (.error (.system cause)), left) := by
            simp only [advance, hwrite]
          rw [← List.append_nil told]
          exact Settles.next hbegun hopen
            (Settles.next (hopened lang text) hpage (Settles.last (hcomposed page) hrefused))
        | ok written =>
          exact Settles.next hbegun hopen (Settles.next (hopened lang text) hpage
            (Settles.last (hcomposed page) (by simp only [advance, hwrite])))

end Settles

/-- Documenting the sources that wait takes a batch with nothing in work to its end. -/
theorem steps_documentAll (sources : List Path) (journal : Journal) (outcomes : List Outcome)
    (store : Store) :
    ReflTransGen (w.Step frozen width) ⟨journal, outcomes, [], sources, store⟩
      ⟨journal ++ (w.documentAll frozen sources store).1,
        outcomes ++ (w.documentAll frozen sources store).2.1, [], [],
        (w.documentAll frozen sources store).2.2⟩ := by
  induction sources generalizing journal outcomes store with
  | nil =>
    simp only [documentAll, List.append_nil]
    exact ReflTransGen.refl
  | cons source rest ih =>
    have hwork : w.Settles frozen width source .begun store (w.document frozen source store) :=
      settles_document source store
    refine ReflTransGen.head (step_start journal outcomes source rest store)
      ((hwork journal outcomes rest).trans (ReflTransGen.head Step.handOver ?_))
    have hrest := ih (journal ++ (w.document frozen source store).1 ++
      Outcome.journal ⟨source, (w.document frozen source store).2.1⟩)
      (outcomes ++ [⟨source, (w.document frozen source store).2.1⟩])
      (w.document frozen source store).2.2
    simpa only [documentAll, List.append_assoc, List.singleton_append] using hrest

theorem runs_run (w : Workshop) (width : Nat) (sources : List Path) (store : Store) :
    w.Runs width sources store (w.run sources store) := by
  rcases hprepare : w.prepare store with ⟨cause | ⟨⟩, prepared⟩
  · rw [run_of_error hprepare]
    exact Runs.refused hprepare
  · rw [run_of_ok hprepare]
    exact Runs.finished hprepare (steps_documentAll (listing sources) [] [] prepared)

/-! ## No batch gets stuck -/

theorem left_advance {source : Path} {stage : Stage} {store : Store}
    (hopen : ∀ result, stage ≠ .settled result) :
    (w.advance frozen source stage store).2.1.left < stage.left := by
  cases stage with
  | begun =>
    simp only [advance]
    split
    · simp [Stage.left]
    · split
      · simp [Stage.left]
      · simp [Stage.left]
  | opened lang text =>
    simp only [advance]
    split
    · simp [Stage.left]
    · simp [Stage.left]
  | composed page =>
    simp only [advance]
    split
    · simp [Stage.left]
    · simp [Stage.left]
  | settled result => exact absurd rfl (hopen result)

/-- Every step comes nearer to the end. -/
theorem Step.left_lt {p q : Progress} (h : w.Step frozen width p q) : q.left < p.left := by
  cases h with
  | start hroom =>
    simp only [Progress.left, List.map_append, List.sum_append, List.map_cons, List.map_nil,
      List.sum_singleton, List.length_cons, Stage.left]
    omega
  | @work _ _ _ source stage _ _ store _ _ _ hopen hwork =>
    have hless : (w.advance frozen source stage store).2.1.left < stage.left := left_advance hopen
    rw [hwork] at hless
    dsimp only at hless
    simp only [Progress.left, List.map_append, List.sum_append, List.map_cons, List.sum_cons]
    omega
  | handOver =>
    simp only [Progress.left, List.map_cons, List.sum_cons, Stage.left]
    omega

theorem exists_step (w : Workshop) (frozen : List Path) (width : Nat) {p : Progress}
    (h : p.jobs ≠ [] ∨ p.waiting ≠ []) : ∃ q, w.Step frozen width p q := by
  obtain ⟨journal, outcomes, jobs, waiting, store⟩ := p
  match jobs, waiting with
  | [], [] => exact absurd h (by simp)
  | [], source :: rest => exact ⟨_, step_start journal outcomes source rest store⟩
  | ⟨source, stage⟩ :: jobs, waiting =>
    by_cases hopen : ∀ result, stage ≠ .settled result
    · exact ⟨_, @Step.work w frozen width journal outcomes [] source stage jobs waiting store _ _ _
        hopen rfl⟩
    · obtain ⟨result, rfl⟩ : ∃ result, stage = .settled result := by
        simpa using hopen
      exact ⟨_, Step.handOver⟩

/-- Every batch under way comes to its end. -/
theorem exists_end (w : Workshop) (frozen : List Path) (width : Nat) (p : Progress) :
    ∃ journal outcomes final,
      ReflTransGen (w.Step frozen width) p ⟨journal, outcomes, [], [], final⟩ := by
  by_cases h : p.jobs ≠ [] ∨ p.waiting ≠ []
  · obtain ⟨q, hstep⟩ := exists_step w frozen width h
    obtain ⟨journal, outcomes, final, hsteps⟩ := exists_end w frozen width q
    exact ⟨journal, outcomes, final, hsteps.head hstep⟩
  · obtain ⟨hjobs, hwaiting⟩ := not_or.1 h
    obtain ⟨journal, outcomes, jobs, waiting, store⟩ := p
    rw [not_not] at hjobs hwaiting
    obtain rfl : jobs = [] := hjobs
    obtain rfl : waiting = [] := hwaiting
    exact ⟨journal, outcomes, store, ReflTransGen.refl⟩
termination_by p.left
decreasing_by exact hstep.left_lt

/-! ## One job -/

/-- With nothing in work the next source is begun. -/
theorem Step.eq_of_nil {journal outcomes waiting store q}
    (h : w.Step frozen width ⟨journal, outcomes, [], waiting, store⟩ q) :
    ∃ source rest, waiting = source :: rest ∧
      q = ⟨journal, outcomes, [⟨source, .begun⟩], rest, store⟩ := by
  generalize hp : (⟨journal, outcomes, [], waiting, store⟩ : Progress) = p at h
  cases h with
  | start hroom =>
    cases hp
    exact ⟨_, _, rfl, rfl⟩
  | work hopen hwork => simp at hp
  | handOver => cases hp

/-- With one source in work, and room for no other, this one is worked on or handed over. -/
theorem Step.eq_of_single {journal outcomes source stage waiting store q}
    (h : w.Step frozen 1 ⟨journal, outcomes, [⟨source, stage⟩], waiting, store⟩ q) :
    (∃ result, stage = .settled result ∧ q = ⟨journal ++ Outcome.journal ⟨source, result⟩,
      outcomes ++ [⟨source, result⟩], [], waiting, store⟩) ∨
    (∀ result, stage ≠ .settled result) ∧
      q = ⟨journal ++ (w.advance frozen source stage store).1, outcomes,
        [⟨source, (w.advance frozen source stage store).2.1⟩], waiting,
        (w.advance frozen source stage store).2.2⟩ := by
  generalize hp : (⟨journal, outcomes, [⟨source, stage⟩], waiting, store⟩ : Progress) = p at h
  cases h with
  | start hroom =>
    cases hp
    exact absurd hroom (Nat.lt_irrefl 1)
  | @work _ _ before _ _ after _ _ _ _ _ hopen hwork =>
    obtain ⟨rfl, rfl, hjobs, rfl, rfl⟩ := Progress.mk.injEq .. ▸ hp
    cases before with
    | cons job before => simp at hjobs
    | nil =>
      cases hjobs
      refine Or.inr ⟨hopen, ?_⟩
      rw [hwork]
      rfl
  | handOver =>
    cases hp
    exact Or.inl ⟨_, rfl, rfl⟩

/-- The steps of a batch with one job, where at most one source is in work. -/
def SoleStep (w : Workshop) (frozen : List Path) (p q : Progress) : Prop :=
  p.jobs.length ≤ 1 ∧ w.Step frozen 1 p q

theorem step_unique : Relator.RightUnique (w.SoleStep frozen) := by
  rintro ⟨journal, outcomes, jobs, waiting, store⟩ q q' ⟨hsole, h⟩ ⟨-, h'⟩
  match jobs, hsole with
  | [], _ =>
    obtain ⟨source, rest, rfl, rfl⟩ := h.eq_of_nil
    obtain ⟨_, _, heq, rfl⟩ := h'.eq_of_nil
    cases heq
    rfl
  | [⟨source, stage⟩], _ =>
    obtain ⟨result, rfl, rfl⟩ | ⟨hopen, rfl⟩ := h.eq_of_single
    · obtain ⟨_, heq, rfl⟩ | ⟨hopen', -⟩ := h'.eq_of_single
      · cases heq
        rfl
      · exact absurd rfl (hopen' result)
    · obtain ⟨result, rfl, -⟩ | ⟨-, rfl⟩ := h'.eq_of_single
      · exact absurd rfl (hopen result)
      · rfl

theorem Step.length_le_one {p q : Progress} (h : w.Step frozen 1 p q) (hp : p.jobs.length ≤ 1) :
    q.jobs.length ≤ 1 := by
  cases h with
  | start hroom => simpa using hroom
  | work hopen hwork => simpa using hp
  | handOver => exact Nat.le_of_succ_le hp

theorem soleSteps_of_steps {p q : Progress} (h : ReflTransGen (w.Step frozen 1) p q)
    (hp : p.jobs.length ≤ 1) : ReflTransGen (w.SoleStep frozen) p q ∧ q.jobs.length ≤ 1 := by
  induction h with
  | refl => exact ⟨ReflTransGen.refl, hp⟩
  | tail _ hstep ih => exact ⟨ih.1.tail ⟨ih.2, hstep⟩, hstep.length_le_one ih.2⟩

/-- A batch with nothing in work and nothing waiting is at its end. -/
theorem eq_of_steps_finished {journal outcomes final q}
    (h : ReflTransGen (w.SoleStep frozen) ⟨journal, outcomes, [], [], final⟩ q) :
    q = ⟨journal, outcomes, [], [], final⟩ := by
  obtain rfl | ⟨_, ⟨-, hstep⟩, -⟩ := h.cases_head
  · rfl
  · obtain ⟨_, _, hwaiting, -⟩ := hstep.eq_of_nil
    cases hwaiting

theorem eq_run_of_runs {sources : List Path} {store : Store} {other : BatchRun}
    (h : w.Runs 1 sources store other) : other = w.run sources store := by
  cases h with
  | refused hprepare => rw [run_of_error hprepare]
  | @finished prepared journal outcomes final hprepare hsteps =>
    have hother := (soleSteps_of_steps hsteps (Nat.zero_le 1)).1
    have hrun := (soleSteps_of_steps
      (@steps_documentAll w (listing sources) 1 (listing sources) [] [] prepared)
      (Nat.zero_le 1)).1
    rw [run_of_ok hprepare]
    obtain hend | hend := hother.total_of_right_unique step_unique hrun
    · cases eq_of_steps_finished hend
      rfl
    · cases eq_of_steps_finished hend
      rfl

/-! ## How far work has come -/

/-- What is known of a source at each stage, if it is documented alone in the store that was set
up. -/
def Reached (w : Workshop) (frozen : List Path) (prepared : Store) (source : Path) : Stage → Prop
  | .begun => True
  | .opened lang text => w.registry.lookup source = .ok lang ∧ prepared.readText source = .ok text
  | .composed page => w.page frozen source prepared = .ok page
  | .settled result =>
    result.mapError Fault.kind = (w.document frozen source prepared).2.1.mapError Fault.kind

/-- What a piece of work that leads to `stage` leaves of the store. -/
inductive Wrote (w : Workshop) (frozen : List Path) (prepared : Store) (source : Path)
    (stage : Stage) (store : Store) : Store → Prop
  | nothing (h : ∀ result, stage = .settled result → w.delivery? frozen prepared source = none) :
    Wrote w frozen prepared source stage store store
  | page {loc contents result} (h : w.delivery? frozen prepared source = some (loc, contents))
    (hstage : stage = .settled result) :
    Wrote w frozen prepared source stage store (store.put loc (.file contents (prepared.runs loc)))

section Reached

variable {highlight : Highlighter} {source : Path} {prepared store : Store}
  (hw : w.highlight = highlight.anywhere) (hhtml : w.registry.get? "html".toList = none)
  (hstore : SameButPages prepared store)

include hw hhtml hstore

/-- An outcome that the source has among the pages of others is one that it has alone. -/
theorem reached_settled {result : Except Fault Path}
    (h : (w.document frozen source store).2.1 = result) :
    w.Reached frozen prepared source (.settled result) := by
  rw [Reached, ← h]
  exact (mapError_document_congr hw hhtml hstore source).symm

theorem settled_of_page_error {fault : Fault} (h : w.page frozen source store = .error fault) :
    w.Reached frozen prepared source (.settled (.error fault)) ∧
      w.Wrote frozen prepared source (.settled (.error fault)) store store := by
  have hnone : w.delivery? frozen prepared source = none := by
    rw [delivery?_congr hw hhtml hstore, delivery?, h]
  exact ⟨reached_settled hw hhtml hstore (by rw [document_of_page_error hw h]),
    Wrote.nothing fun _ _ => hnone⟩

/-- **A piece of work keeps to what the source comes to alone.** -/
theorem reached_advance {stage stage' : Stage} {store' : Store} {told : Journal}
    (hopen : ∀ result, stage ≠ .settled result) (h : w.Reached frozen prepared source stage)
    (hwork : w.advance frozen source stage store = (told, stage', store')) :
    w.Reached frozen prepared source stage' ∧
      w.Wrote frozen prepared source stage' store store' := by
  cases stage with
  | begun =>
    cases hlang : w.registry.lookup source with
    | error fault =>
      have hpage : w.page frozen source store = .error fault := by simp only [page, hlang]
      simp only [advance, hlang] at hwork
      cases hwork
      exact settled_of_page_error hw hhtml hstore hpage
    | ok lang =>
      cases hread : store.readText source with
      | error cause =>
        have hpage : w.page frozen source store = .error (.system cause) := by
          simp only [page, hlang, hread]
        simp only [advance, hlang, hread] at hwork
        cases hwork
        exact settled_of_page_error hw hhtml hstore hpage
      | ok text =>
        simp only [advance, hlang, hread] at hwork
        cases hwork
        exact ⟨⟨hlang, (hstore.readText_iff hhtml hlang).2 hread⟩,
          Wrote.nothing fun _ hstage => by cases hstage⟩
  | opened lang text =>
    obtain ⟨hlang, hread⟩ := h
    rw [hstore.readText_iff hhtml hlang] at hread
    obtain ⟨told', made, hmade⟩ := exists_compose hw frozen source lang text
    have hpage : w.page frozen source store = made := by simp only [page, hlang, hread, hmade]
    simp only [advance, hmade] at hwork
    cases made with
    | error fault =>
      cases hwork
      exact settled_of_page_error hw hhtml hstore hpage
    | ok text' =>
      cases hwork
      exact ⟨(page_eq_ok_congr hw hhtml hstore).2 hpage,
        Wrote.nothing fun _ hstage => by cases hstage⟩
  | composed text =>
    have hpage : w.page frozen source store = .ok text := (page_eq_ok_congr hw hhtml hstore).1 h
    have hdocument := document_of_page_ok hw hpage
    have hdelivery : w.delivery? frozen prepared source =
        (store.target? (Page.destination w.directory source)).map
          fun loc => (loc, Utf8.encode text) := by
      rw [delivery?_congr hw hhtml hstore, delivery?, hpage]
    cases htarget : store.target? (Page.destination w.directory source) with
    | none =>
      obtain ⟨cause, hwrite⟩ := Store.exists_error_of_target? htarget (Utf8.encode text)
      rw [hwrite] at hdocument
      rw [htarget] at hdelivery
      simp only [advance, hwrite] at hwork
      cases hwork
      exact ⟨reached_settled hw hhtml hstore (by rw [hdocument]),
        Wrote.nothing fun _ _ => hdelivery⟩
    | some loc =>
      have hwrite := Store.write_of_target? htarget (Utf8.encode text)
      rw [hwrite] at hdocument
      rw [htarget] at hdelivery
      simp only [advance, hwrite] at hwork
      cases hwork
      rw [← hstore.runs loc]
      exact ⟨reached_settled hw hhtml hstore (by rw [hdocument]), Wrote.page hdelivery rfl⟩
  | settled result => exact absurd rfl (hopen result)

end Reached

/-! ## What is in the store -/

/-- The store that was set up, with the pages of the sources that are settled. -/
structure Laid (w : Workshop) (frozen : List Path) (prepared : Store) (settled : Path → Prop)
    (store : Store) : Prop where
  same : SameButPages prepared store
  page : ∀ source, settled source → ∀ loc contents,
    w.delivery? frozen prepared source = some (loc, contents) →
      store.get? loc = some (.file contents (prepared.runs loc))
  other : ∀ loc, (∀ source, settled source → ∀ contents,
    w.delivery? frozen prepared source ≠ some (loc, contents)) → store.get? loc = prepared.get? loc

namespace Laid

variable {prepared s t : Store} {settled settled' : Path → Prop}

theorem none (w : Workshop) (frozen : List Path) (prepared : Store) :
    w.Laid frozen prepared (fun _ => False) prepared where
  same := SameButPages.refl prepared
  page _ h := h.elim
  other _ _ := rfl

theorem congr (h : w.Laid frozen prepared settled s)
    (hiff : ∀ source, settled' source ↔ settled source) :
    w.Laid frozen prepared settled' s := by
  rwa [show settled' = settled from funext fun source => propext (hiff source)]

/-- The settled sources determine the store. -/
theorem get?_eq (hs : w.Laid frozen prepared settled s) (ht : w.Laid frozen prepared settled t)
    (loc : Location) : s.get? loc = t.get? loc := by
  by_cases h : ∃ source, settled source ∧
      ∃ contents, w.delivery? frozen prepared source = some (loc, contents)
  · obtain ⟨source, hsource, contents, hdelivery⟩ := h
    rw [hs.page source hsource loc contents hdelivery,
      ht.page source hsource loc contents hdelivery]
  · have hother : ∀ source, settled source → ∀ contents,
        w.delivery? frozen prepared source ≠ some (loc, contents) :=
      fun source hsource contents hdelivery => h ⟨source, hsource, contents, hdelivery⟩
    rw [hs.other loc hother, ht.other loc hother]

/-- Work on a source keeps the pages of others that lie at other places. -/
theorem wrote {highlight : Highlighter} {source : Path} {stage : Stage}
    (hw : w.highlight = highlight.anywhere) (h : w.Laid frozen prepared settled s)
    (hdistinct : ∀ other, settled other →
      Page.destination w.directory other = Page.destination w.directory source → other = source)
    (hwrote : w.Wrote frozen prepared source stage s t) :
    w.Laid frozen prepared
      (fun other => settled other ∨ other = source ∧ ∃ result, stage = .settled result) t := by
  cases hwrote with
  | nothing hnone =>
    refine ⟨h.same, ?_, fun loc hloc => h.other loc fun other hother => hloc other (Or.inl hother)⟩
    rintro other (hother | ⟨rfl, result, hstage⟩) loc contents hdelivery
    · exact h.page other hother loc contents hdelivery
    · rw [hnone result hstage] at hdelivery
      cases hdelivery
  | @page place page result hpage hstage =>
    have hplace := (pageFile?_of_delivery? hw hpage).2
    have htarget := hplace
    rw [Store.target?_congr h.same.directories] at htarget
    constructor
    · rw [h.same.runs place]
      exact h.same.trans (SameButPages.put htarget page)
    · intro other hother loc contents hdelivery
      by_cases heq : other = source
      · rw [heq, hpage] at hdelivery
        cases hdelivery
        exact Store.get?_put_self_of_target? htarget rfl _
      · have hsettled : settled other := hother.resolve_right fun h => heq h.1
        have hne : loc ≠ place := by
          rintro rfl
          exact heq (hdistinct other hsettled
            (destination_inj_of_target? (pageFile?_of_delivery? hw hdelivery).2 hplace))
        rw [Store.get?_put_of_ne hne]
        exact h.page other hsettled loc contents hdelivery
    · intro loc hloc
      have hne : loc ≠ place := by
        rintro rfl
        exact hloc source (Or.inr ⟨rfl, result, hstage⟩) page hpage
      rw [Store.get?_put_of_ne hne]
      exact h.other loc fun other hother => hloc other (Or.inl hother)

end Laid

/-! ## Any number of jobs -/

/-- Work on a source adds at most this one to those whose outcome is known. -/
theorem settled_work_iff {journal journal' outcomes before source stage stage' after waiting store
    store'} (hopen : ∀ result, stage ≠ .settled result) (other : Path) :
    Progress.Settled ⟨journal', outcomes, before ++ ⟨source, stage'⟩ :: after, waiting, store'⟩
        other ↔
      Progress.Settled ⟨journal, outcomes, before ++ ⟨source, stage⟩ :: after, waiting, store⟩
        other ∨ other = source ∧ ∃ result, stage' = .settled result := by
  simp only [Progress.Settled, List.mem_append, List.mem_cons, Job.mk.injEq]
  grind

/-- An outcome that is handed over stays known. -/
theorem settled_handOver_iff {journal journal' outcomes source result jobs waiting store}
    (other : Path) :
    Progress.Settled ⟨journal', outcomes ++ [⟨source, result⟩], jobs, waiting, store⟩ other ↔
      Progress.Settled ⟨journal, outcomes, ⟨source, .settled result⟩ :: jobs, waiting, store⟩
        other := by
  simp only [Progress.Settled, List.mem_append, List.mem_cons, Job.mk.injEq, Stage.settled.injEq,
    Outcome.mk.injEq, List.not_mem_nil, or_false, or_assoc]

/-- A batch under way in which every source in work has come as far as it would have come alone, and
which has written the pages of the sources whose outcomes are known. -/
structure Sound (w : Workshop) (frozen : List Path) (prepared : Store) (p : Progress) : Prop where
  sources : p.outcomes.map Outcome.source ++ (p.jobs.map Job.source ++ p.waiting) = frozen
  outcomes : ∀ o ∈ p.outcomes, w.Reached frozen prepared o.source (.settled o.result)
  jobs : ∀ job ∈ p.jobs, w.Reached frozen prepared job.source job.stage
  laid : w.Laid frozen prepared p.Settled p.store

namespace Sound

variable {prepared : Store} {p q : Progress}

theorem initial (w : Workshop) (frozen : List Path) (prepared : Store) :
    w.Sound frozen prepared (.initial frozen prepared) where
  sources := rfl
  outcomes _ h := nomatch h
  jobs _ h := nomatch h
  laid := (Laid.none w frozen prepared).congr fun source => by
    simp [Progress.initial, Progress.Settled]

theorem mem_of_settled (h : w.Sound frozen prepared p) {source : Path}
    (hsource : p.Settled source) : source ∈ frozen := by
  rw [← h.sources, List.mem_append, List.mem_append]
  obtain ⟨result, hmem | hmem⟩ := hsource
  · exact Or.inl (List.mem_map_of_mem hmem)
  · exact Or.inr (Or.inl (List.mem_map_of_mem hmem))

/-- **Every step is sound**, whichever source it is about. -/
theorem step {highlight : Highlighter} (hw : w.highlight = highlight.anywhere)
    (hhtml : w.registry.get? "html".toList = none)
    (hdistinct : (frozen.map (Page.destination w.directory)).Nodup)
    (h : w.Sound frozen prepared p) (hstep : w.Step frozen width p q) :
    w.Sound frozen prepared q := by
  cases hstep with
  | start hroom =>
    refine ⟨?_, h.outcomes, ?_, h.laid.congr fun source => ?_⟩
    · simpa using h.sources
    · intro job hjob
      obtain hjob | hjob := List.mem_append.1 hjob
      · exact h.jobs job hjob
      · rw [List.mem_singleton.1 hjob]
        trivial
    · simp [Progress.Settled]
  | @work _ _ before source stage after _ _ _ stage' _ hopen hwork =>
    obtain ⟨hreached, hwrote⟩ := reached_advance hw hhtml h.laid.same hopen
      (h.jobs ⟨source, stage⟩ (by simp)) hwork
    have hsource : source ∈ frozen := by
      rw [← h.sources]
      simp
    have hplaces : ∀ other, _ → Page.destination w.directory other =
        Page.destination w.directory source → other = source :=
      fun other hother =>
        List.inj_on_of_nodup_map hdistinct (h.mem_of_settled hother) hsource
    refine ⟨?_, h.outcomes, ?_, (h.laid.wrote hw hplaces hwrote).congr (settled_work_iff hopen)⟩
    · simpa using h.sources
    · intro job hjob
      rw [List.mem_append, List.mem_cons] at hjob
      obtain hjob | rfl | hjob := hjob
      · exact h.jobs job (List.mem_append_left _ hjob)
      · exact hreached
      · exact h.jobs job (List.mem_append_right _ (List.mem_cons_of_mem _ hjob))
  | @handOver _ _ source result =>
    refine ⟨?_, ?_, fun job hjob => h.jobs job (List.mem_cons_of_mem _ hjob),
      h.laid.congr settled_handOver_iff⟩
    · simpa using h.sources
    · intro o ho
      obtain ho | ho := List.mem_append.1 ho
      · exact h.outcomes o ho
      · rw [List.mem_singleton.1 ho]
        exact h.jobs _ List.mem_cons_self

/-- Every batch under way is sound. -/
theorem of_steps {highlight : Highlighter} (hw : w.highlight = highlight.anywhere)
    (hhtml : w.registry.get? "html".toList = none)
    (hdistinct : (frozen.map (Page.destination w.directory)).Nodup)
    (hsteps : ReflTransGen (w.Step frozen width) (.initial frozen prepared) p) :
    w.Sound frozen prepared p := by
  induction hsteps with
  | refl => exact initial w frozen prepared
  | tail _ hstep ih => exact ih.step hw hhtml hdistinct hstep

section Finished

variable {journal : Journal} {outcomes : List Outcome} {final : Store}

/-- At the end every source has the outcome that it has alone. -/
theorem map_verdict (h : w.Sound frozen prepared ⟨journal, outcomes, [], [], final⟩) :
    outcomes.map Outcome.verdict = frozen.map fun source =>
      (source, (w.document frozen source prepared).2.1.mapError Fault.kind) := by
  have hsources : outcomes.map Outcome.source = frozen := by
    simpa using h.sources
  rw [← hsources, List.map_map]
  refine List.map_congr_left fun o ho => Prod.ext rfl ?_
  rw [hsources]
  exact h.outcomes o ho

theorem settled_iff (h : w.Sound frozen prepared ⟨journal, outcomes, [], [], final⟩)
    (source : Path) :
    source ∈ frozen ↔ Progress.Settled ⟨journal, outcomes, [], [], final⟩ source := by
  have hsources : outcomes.map Outcome.source = frozen := by
    simpa using h.sources
  refine ⟨fun hmem => ?_, h.mem_of_settled⟩
  rw [← hsources] at hmem
  obtain ⟨⟨_, result⟩, ho, rfl⟩ := List.mem_map.1 hmem
  exact ⟨result, Or.inl ho⟩

end Finished

end Sound

/-- **Jobs do not show.** However many sources are worked on at a time, and in whatever order their
steps come, a batch whose pages go to different places ends with the outcomes and the files with
which it ends if it works on one source after another. There is such a run for any number of jobs,
and no other for one. -/
theorem runs_agree (w : Workshop) (highlight : Highlighter)
    (hw : w.highlight = highlight.anywhere) (hhtml : w.registry.get? "html".toList = none)
    (width : Nat) (sources : List Path) (store : Store)
    (hdistinct : ((listing sources).map (Page.destination w.directory)).Nodup) :
    w.Runs width sources store (w.run sources store) ∧
    (∀ other, w.Runs 1 sources store other → other = w.run sources store) ∧
    (∀ p, ∃ journal outcomes final, ReflTransGen (w.Step (listing sources) width) p
      ⟨journal, outcomes, [], [], final⟩) ∧
    ∀ other, w.Runs width sources store other →
      other.verdicts = (w.run sources store).verdicts ∧
        other.store.home = (w.run sources store).store.home ∧
        ∀ loc, other.store.get? loc = (w.run sources store).store.get? loc := by
  refine ⟨runs_run w width sources store, fun other => eq_run_of_runs,
    exists_end w (listing sources) width, fun other hother => ?_⟩
  cases hother with
  | refused hprepare =>
    rw [run_of_error hprepare]
    exact ⟨rfl, rfl, fun _ => rfl⟩
  | @finished prepared journal outcomes final hprepare hsteps =>
    have hend := Sound.of_steps hw hhtml hdistinct hsteps
    have hrun := Sound.of_steps hw hhtml hdistinct
      (@steps_documentAll w (listing sources) width (listing sources) [] [] prepared)
    rw [run_of_ok hprepare]
    refine ⟨congrArg Except.ok (hend.map_verdict.trans hrun.map_verdict.symm), ?_, ?_⟩
    · exact hend.laid.same.directories.home.symm.trans hrun.laid.same.directories.home
    · exact (hend.laid.congr hend.settled_iff).get?_eq (hrun.laid.congr hrun.settled_iff)

/-- Two sources that are worked on at a time, one of them missing. The sources and the directory of
the pages lie outside the working directory. -/
theorem runs_agree_missing :
    let highlight : Highlighter := fun _ code => ([], .ok (Fragment.wrap code))
    let w : Workshop := ⟨.default, highlight.anywhere, .ok, .ofText "/srv/docs".toList⟩
    let store : Store := ⟨[Utf8.encode "home".toList],
      [([Utf8.encode "good.py".toList], .file [120] false)]⟩
    let gone : Path := .ofText "/gone.py".toList
    let good : Path := .ofText "/good.py".toList
    ((listing [gone, good]).map (Page.destination w.directory)).Nodup ∧
      ∀ other, w.Runs 2 [gone, good] store other →
        other.verdicts =
          .ok [(gone, .error "Io"), (good, .ok (.ofText "/srv/docs/good.html".toList))] := by
  intro highlight w store gone good
  have hlisting : listing [gone, good] = [gone, good] := by
    unfold listing
    rw [List.mergeSort_of_pairwise (by decide)]
    decide
  have hdistinct : ((listing [gone, good]).map (Page.destination w.directory)).Nodup := by
    rw [hlisting]
    decide
  refine ⟨hdistinct, fun other hother => ?_⟩
  obtain ⟨-, -, -, hagree⟩ :=
    runs_agree w highlight rfl (by decide) 2 [gone, good] store hdistinct
  have hprepared : w.prepare store = (.ok (), (w.prepare store).2) :=
    Prod.ext (show (w.prepare store).1 = .ok () from rfl) rfl
  rw [(hagree other hother).1, run_of_ok hprepared, hlisting]
  show Except.ok ((w.documentAll _ _ _).2.1.map Outcome.verdict) = _
  rw [map_verdict_documentAll rfl (by decide) (SameButPages.refl (w.prepare store).2)]
  decide +kernel

end Workshop

end Marginalia
