import Marginalia.Batch

/-!
# Several sources in work

A batch may work on several sources at a time. They are begun in the order of the listing, and only
so many of them as are allowed are begun and not handed over. A source is read, its page is made and
written, in this order; steps of other sources may come in between. Outcomes are handed over in the
order of the listing, also where a later source is done before an earlier one.
-/

namespace Marginalia

/-- How far the work on a source is. -/
inductive Stage where
  | begun
  /-- The source is read. -/
  | opened (lang : Language) (text : Text)
  /-- The page is made and not written. -/
  | composed (page : Text)
  /-- The outcome is known and not handed over. -/
  | settled (result : Except Fault Path)

/-- A source in work. -/
structure Job where
  source : Path
  stage : Stage

/-- A batch under way. -/
structure Progress where
  journal : Journal
  /-- What was handed over. -/
  outcomes : List Outcome
  /-- What was begun and not handed over. -/
  jobs : List Job
  /-- What was not begun. -/
  waiting : List Path
  store : Store

namespace Workshop

/-- The next piece of work on a source, with what is told while it is done. -/
def advance (w : Workshop) (listing : List Path) (source : Path) :
    Stage → Store → Journal × Stage × Store
  | .begun, store =>
    match w.registry.lookup source with
    | .error fault => ([], .settled (.error fault), store)
    | .ok lang =>
      match store.readText source with
      | .error cause => ([], .settled (.error (.system cause)), store)
      | .ok text => ([], .opened lang text, store)
  | .opened lang text, store =>
    match w.compose listing source lang text store with
    | (journal, .error fault, left) => (journal, .settled (.error fault), left)
    | (journal, .ok page, left) => (journal, .composed page, left)
  | .composed page, store =>
    let target := Page.destination w.directory source
    match store.write target (Utf8.encode page) with
    | .error cause => ([], .settled (.error (.system cause)), store)
    | .ok written =>
      ([⟨.info, .batch, "litdoc: ".toList ++ source.text ++ " -> ".toList ++ target.text⟩],
        .settled (.ok target), written)
  | .settled result, store => ([], .settled result, store)

/-- One step of a batch that works on at most `width` sources at a time, and on one if `width` is
zero. -/
inductive Step (w : Workshop) (listing : List Path) (width : Nat) : Progress → Progress → Prop
  | start {journal outcomes jobs source waiting store} (hroom : jobs.length < max width 1) :
    Step w listing width ⟨journal, outcomes, jobs, source :: waiting, store⟩
      ⟨journal, outcomes, jobs ++ [⟨source, .begun⟩], waiting, store⟩
  | work {journal outcomes before source stage after waiting store told stage' store'}
    (hopen : ∀ result, stage ≠ .settled result)
    (hwork : w.advance listing source stage store = (told, stage', store')) :
    Step w listing width ⟨journal, outcomes, before ++ ⟨source, stage⟩ :: after, waiting, store⟩
      ⟨journal ++ told, outcomes, before ++ ⟨source, stage'⟩ :: after, waiting, store'⟩
  | handOver {journal outcomes source result jobs waiting store} :
    Step w listing width ⟨journal, outcomes, ⟨source, .settled result⟩ :: jobs, waiting, store⟩
      ⟨journal ++ Outcome.journal ⟨source, result⟩, outcomes ++ [⟨source, result⟩], jobs, waiting,
        store⟩

end Workshop

end Marginalia
