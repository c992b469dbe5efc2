import Marginalia.Proofs.BatchJobs

/-!
# The pages that a batch writes

The listing is fixed before any work begins. Whatever other sources are in work, and whatever a
highlighter does to files, a source that ends with a page was read at some point of the run; then
its page was made of what was read, with the whole listing as its menu; and then this page was
written (`Workshop.Written`).

1. Each stage of a source tells what happened to it so far (`Traced`). A piece of work on it adds to
   that (`traced_advance`), and steps of others take nothing away (`Traced.trans`).
2. So every step keeps what the sources tell (`History.step`), and at the end every source with a
   page tells how it was written (`Runs.written`).
-/

namespace Marginalia

open Relation (ReflTransGen)

namespace Workshop

/-! ## What happened to a source -/

section Happened

variable (w : Workshop) (frozen : List Path) (width : Nat) (start : Progress) (source : Path)

/-- On the way from `start` to `p` the source was read, and said `text`. -/
def Read (text : Text) (p : Progress) : Prop :=
  ∃ before, ReflTransGen (w.Step frozen width) start before ∧
    before.store.readText source = .ok text ∧ ReflTransGen (w.Step frozen width) before p

/-- On the way from `start` to `p` the page was made of a text that had been read. -/
def Made (page : Text) (p : Progress) : Prop :=
  ∃ text before, w.Read frozen width start source text before ∧
    w.Shows (w.highlight.inside before.store) frozen source text page ∧
    ReflTransGen (w.Step frozen width) before p

/-- On the way from `start` to `p` a page that had been made was written. -/
def Written (p : Progress) : Prop :=
  ∃ page before after, w.Made frozen width start source page before ∧
    w.Step frozen width before after ∧
    before.store.write (Page.destination w.directory source) (Utf8.encode page) = .ok after.store ∧
    ReflTransGen (w.Step frozen width) after p

/-- What a stage of a source tells of the way from `start` to `p`. -/
def Traced (p : Progress) : Stage → Prop
  | .begun => True
  | .opened lang text =>
    w.registry.lookup source = .ok lang ∧ w.Read frozen width start source text p
  | .composed page => w.Made frozen width start source page p
  | .settled (.ok target) =>
    target = Page.destination w.directory source ∧ w.Written frozen width start source p
  | .settled (.error _) => True

end Happened

variable {w : Workshop} {frozen : List Path} {width : Nat} {start p q : Progress} {source : Path}

theorem Read.trans {text : Text} (h : w.Read frozen width start source text p)
    (hsteps : ReflTransGen (w.Step frozen width) p q) :
    w.Read frozen width start source text q := by
  obtain ⟨before, hstart, hread, hrest⟩ := h
  exact ⟨before, hstart, hread, hrest.trans hsteps⟩

theorem Made.trans {page : Text} (h : w.Made frozen width start source page p)
    (hsteps : ReflTransGen (w.Step frozen width) p q) :
    w.Made frozen width start source page q := by
  obtain ⟨text, before, hread, hshows, hrest⟩ := h
  exact ⟨text, before, hread, hshows, hrest.trans hsteps⟩

theorem Written.trans (h : w.Written frozen width start source p)
    (hsteps : ReflTransGen (w.Step frozen width) p q) : w.Written frozen width start source q := by
  obtain ⟨page, before, after, hmade, hstep, hwrite, hrest⟩ := h
  exact ⟨page, before, after, hmade, hstep, hwrite, hrest.trans hsteps⟩

/-- What happened stays so. -/
theorem Traced.trans {stage : Stage} (h : w.Traced frozen width start source p stage)
    (hsteps : ReflTransGen (w.Step frozen width) p q) :
    w.Traced frozen width start source q stage := by
  cases stage with
  | begun => trivial
  | opened lang text => exact ⟨h.1, h.2.trans hsteps⟩
  | composed page => exact Made.trans h hsteps
  | settled result =>
    cases result with
    | error fault => trivial
    | ok target => exact ⟨h.1, h.2.trans hsteps⟩

/-- **A piece of work** on a source adds to what happened to it. -/
theorem traced_advance {stage stage' : Stage} {told : Journal}
    (hsteps : ReflTransGen (w.Step frozen width) start p) (hstep : w.Step frozen width p q)
    (h : w.Traced frozen width start source p stage)
    (hwork : w.advance frozen source stage p.store = (told, stage', q.store)) :
    w.Traced frozen width start source q stage' := by
  have hnext : ReflTransGen (w.Step frozen width) p q := ReflTransGen.single hstep
  cases stage with
  | begun =>
    cases hlang : w.registry.lookup source with
    | error fault =>
      simp only [advance, hlang, Prod.mk.injEq] at hwork
      obtain ⟨-, rfl, -⟩ := hwork
      trivial
    | ok lang =>
      cases hread : p.store.readText source with
      | error cause =>
        simp only [advance, hlang, hread, Prod.mk.injEq] at hwork
        obtain ⟨-, rfl, -⟩ := hwork
        trivial
      | ok text =>
        simp only [advance, hlang, hread, Prod.mk.injEq] at hwork
        obtain ⟨-, rfl, -⟩ := hwork
        exact ⟨hlang, p, hsteps, hread, hnext⟩
  | opened lang text =>
    obtain ⟨hlang, hread⟩ := h
    have hmade := compose_eq w frozen source lang text p.store
    rcases hcompose : w.compose frozen source lang text p.store with ⟨told', fault | page, left⟩
    · simp only [advance, hcompose, Prod.mk.injEq] at hwork
      obtain ⟨-, rfl, -⟩ := hwork
      trivial
    · simp only [advance, hcompose, Prod.mk.injEq] at hwork
      rw [hcompose] at hmade
      cases hfile : (highlightSections (w.highlight.inside p.store) w.render lang
          (parseSections lang text)).2 with
      | error fault =>
        rw [hfile] at hmade
        cases hmade
      | ok file =>
        rw [hfile] at hmade
        cases hmade
        obtain ⟨-, rfl, -⟩ := hwork
        exact ⟨text, p, hread, ⟨lang, file, hlang, hfile, rfl⟩, hnext⟩
  | composed page =>
    cases hwrite : p.store.write (Page.destination w.directory source) (Utf8.encode page) with
    | error cause =>
      simp only [advance, hwrite, Prod.mk.injEq] at hwork
      obtain ⟨-, rfl, -⟩ := hwork
      trivial
    | ok written =>
      simp only [advance, hwrite, Prod.mk.injEq] at hwork
      obtain ⟨-, rfl, rfl⟩ := hwork
      exact ⟨rfl, page, p, q, h, hstep, hwrite, ReflTransGen.refl⟩
  | settled result =>
    simp only [advance, Prod.mk.injEq] at hwork
    obtain ⟨-, rfl, -⟩ := hwork
    exact h.trans hnext

/-! ## All sources -/

/-- A batch that came from `start`, in which sources in work and outcomes tell what happened. -/
structure History (w : Workshop) (frozen : List Path) (width : Nat) (start p : Progress) :
    Prop where
  steps : ReflTransGen (w.Step frozen width) start p
  jobs : ∀ job ∈ p.jobs, w.Traced frozen width start job.source p job.stage
  outcomes : ∀ o ∈ p.outcomes, w.Traced frozen width start o.source p (.settled o.result)

namespace History

theorem initial (w : Workshop) (frozen : List Path) (width : Nat) (sources : List Path)
    (store : Store) : w.History frozen width (.initial sources store) (.initial sources store) where
  steps := ReflTransGen.refl
  jobs _ h := nomatch h
  outcomes _ h := nomatch h

/-- **Every step keeps the history**, whichever source it is about. -/
theorem step (h : w.History frozen width start p) (hstep : w.Step frozen width p q) :
    w.History frozen width start q := by
  have hnext : ReflTransGen (w.Step frozen width) p q := ReflTransGen.single hstep
  have hjobs := fun job hjob => (h.jobs job hjob).trans hnext
  have houtcomes := fun o ho => (h.outcomes o ho).trans hnext
  have hsteps := h.steps.tail hstep
  have hworked := @traced_advance w frozen width start p q
  cases hstep with
  | start hroom =>
    refine ⟨hsteps, fun job hjob => ?_, houtcomes⟩
    obtain hjob | hjob := List.mem_append.1 hjob
    · exact hjobs job hjob
    · rw [List.mem_singleton.1 hjob]
      trivial
  | @work _ _ before source stage after _ _ told stage' _ hopen hwork =>
    refine ⟨hsteps, fun job hjob => ?_, houtcomes⟩
    rw [List.mem_append, List.mem_cons] at hjob
    obtain hjob | rfl | hjob := hjob
    · exact hjobs job (List.mem_append_left _ hjob)
    · exact hworked h.steps (Step.work hopen hwork) (h.jobs ⟨source, stage⟩ (by simp)) hwork
    · exact hjobs job (List.mem_append_right _ (List.mem_cons_of_mem _ hjob))
  | @handOver _ _ source result =>
    refine ⟨hsteps, fun job hjob => hjobs job (List.mem_cons_of_mem _ hjob), fun o ho => ?_⟩
    obtain ho | ho := List.mem_append.1 ho
    · exact houtcomes o ho
    · rw [List.mem_singleton.1 ho]
      exact hjobs _ List.mem_cons_self

theorem of_steps {sources : List Path} {store : Store}
    (h : ReflTransGen (w.Step frozen width) (.initial sources store) p) :
    w.History frozen width (.initial sources store) p := by
  induction h with
  | refl => exact initial w frozen width sources store
  | tail _ hstep ih => exact ih.step hstep

end History

/-- **A source with a page was read, shown and written**, in this order, and the page has the whole
listing as its menu. -/
theorem Runs.written {sources : List Path} {store : Store} {run : BatchRun}
    {outcomes : List Outcome} (h : w.Runs width sources store run)
    (hresult : run.result = .ok outcomes) :
    ∃ prepared, w.prepare store = (.ok (), prepared) ∧
      ∀ source target, ⟨source, .ok target⟩ ∈ outcomes →
        target = Page.destination w.directory source ∧
          w.Written (listing sources) width (.initial (listing sources) prepared) source
            ⟨run.journal, outcomes, [], [], run.store⟩ := by
  cases h with
  | refused hprepare => cases hresult
  | @finished prepared journal _ final hprepare hsteps =>
    cases hresult
    exact ⟨prepared, hprepare, fun source target hmem =>
      (History.of_steps hsteps).outcomes ⟨source, .ok target⟩ hmem⟩

end Workshop

end Marginalia
