import Marginalia.Process.Exchange
import Mathlib.Logic.Relation

/-!
# No waiting for ever

A program and the tasks at the other ends of its pipes never wait for each other in a circle,
whatever the program does and however little the pipes hold.

1. Each pipe keeps its books: what went in is what came out and what it holds (`Inlet.Sound`,
   `Drain.Sound`). Every step of a task and of the program keeps them, so they hold in every state
   that can be reached (`sound_of_reachable`).
2. A program that waits reads from an empty pipe or writes to a full one, and the task at the other
   end of that very pipe can go on and ends the waiting (`no_deadlock`).
3. A program that has ended is no obstacle: the tasks come to an end by themselves
   (`exists_finished`).
-/

namespace Marginalia

open Utf8 (Octets)
open Relation (ReflTransGen)

/-! ## The input -/

/-- The input accounts for all of the code and holds no more than it can. -/
structure Inlet.Sound (capacity : Nat) (code : Octets) (i : Inlet) : Prop where
  books : i.taken ++ (i.held ++ i.left) = code
  room : i.held.length ≤ capacity
  complete : i.feeding = .complete → i.left = []
  refused : i.feeding = .refused → i.left ≠ []

namespace Inlet

variable {capacity : Nat} {code : Octets} {i i' : Inlet}

theorem Feeds.isOpen_eq (h : i.Feeds capacity i') : i'.isOpen = i.isOpen := by
  cases h <;> rfl

theorem Feeds.sound (h : i.Feeds capacity i') (hi : i.Sound capacity code) :
    i'.Sound capacity code := by
  obtain ⟨hbooks, hroom, hcomplete, hrefused⟩ := hi
  cases h with
  | write hne hfits =>
    refine ⟨?_, ?_, nofun, nofun⟩
    · rw [← hbooks, List.append_assoc]
    · rwa [List.length_append]
  | close => exact ⟨hbooks, hroom, fun _ => rfl, nofun⟩
  | refuse hne => exact ⟨hbooks, hroom, nofun, fun _ => hne⟩

theorem Sound.read {left held taken chunk : Octets} {isOpen : Bool} {feeding : Feeding}
    (h : Sound capacity code ⟨left, chunk ++ held, taken, isOpen, feeding⟩) :
    Sound capacity code ⟨left, held, taken ++ chunk, isOpen, feeding⟩ := by
  obtain ⟨hbooks, hroom, hcomplete, hrefused⟩ := h
  refine ⟨?_, ?_, hcomplete, hrefused⟩
  · rw [← hbooks]
    simp only [List.append_assoc]
  · rw [List.length_append] at hroom
    show held.length ≤ capacity
    omega

theorem Sound.close (h : i.Sound capacity code) :
    Sound capacity code { i with isOpen := false } :=
  ⟨h.books, h.room, h.complete, h.refused⟩

/-- Code can go on into an empty pipe. -/
theorem exists_feeds (hpos : 0 < capacity) (hheld : i.held = []) (hopen : i.isOpen = true)
    (hfeeding : i.feeding = .underway) : ∃ i', i.Feeds capacity i' := by
  obtain ⟨left, held, taken, isOpen, feeding⟩ := i
  subst hheld hopen hfeeding
  cases left with
  | nil => exact ⟨_, .close⟩
  | cons b left =>
    refine ⟨_, .write (List.cons_ne_nil b []) ?_⟩
    rw [List.length_nil, List.length_singleton]
    omega

/-- Where the program has its end open, it finds octets or the end after the task has gone on. -/
theorem Feeds.serves (h : i.Feeds capacity i') (hopen : i.isOpen = true) :
    ¬ (i'.held = [] ∧ i'.feeding = .underway) := by
  rintro ⟨hheld, hfeeding⟩
  cases h with
  | write hne hroom => exact hne (List.append_eq_nil_iff.1 hheld).2
  | close => cases hfeeding
  | refuse hne => cases hopen

/-- Without the program, the task comes to an end. -/
theorem exists_settled (capacity : Nat) (hopen : i.isOpen = false) :
    ∃ i', ReflTransGen (Feeds capacity) i i' ∧ i'.feeding ≠ .underway := by
  obtain ⟨left, held, taken, isOpen, feeding⟩ := i
  subst hopen
  cases feeding with
  | underway =>
    cases left with
    | nil => exact ⟨_, .single .close, nofun⟩
    | cons b left => exact ⟨_, .single (.refuse (List.cons_ne_nil b left)), nofun⟩
  | complete => exact ⟨_, .refl, nofun⟩
  | refused => exact ⟨_, .refl, nofun⟩

end Inlet

/-! ## The outlets -/

/-- What a program wrote is collected or held, in order, and the pipe holds no more than it can. -/
structure Drain.Sound (capacity : Nat) (d : Drain) : Prop where
  books : d.collected ++ d.held = d.written
  room : d.held.length ≤ capacity
  done : d.isDone = true → d.held = [] ∧ d.isOpen = false

namespace Drain

variable {capacity : Nat} {d d' : Drain}

theorem Collects.isOpen_eq (h : d.Collects d') : d'.isOpen = d.isOpen := by
  cases h <;> rfl

theorem Collects.sound (h : d.Collects d') (hd : d.Sound capacity) : d'.Sound capacity := by
  obtain ⟨hbooks, hroom, hdone⟩ := hd
  cases h with
  | @take written chunk held collected isOpen hne =>
    refine ⟨?_, ?_, nofun⟩
    · rw [← hbooks, List.append_assoc]
    · rw [List.length_append] at hroom
      show held.length ≤ capacity
      omega
  | finish => exact ⟨hbooks, hroom, fun _ => ⟨rfl, rfl⟩⟩

theorem Sound.write {chunk : Octets} (h : d.Sound capacity) (hopen : d.isOpen = true)
    (hroom : d.held.length + chunk.length ≤ capacity) :
    Sound capacity { d with written := d.written ++ chunk, held := d.held ++ chunk } := by
  refine ⟨?_, ?_, fun hdone => ?_⟩
  · rw [← h.books, List.append_assoc]
  · rwa [List.length_append]
  · have hclosed := (h.done hdone).2
    rw [hopen] at hclosed
    cases hclosed

theorem Sound.close (h : d.Sound capacity) : Sound capacity { d with isOpen := false } :=
  ⟨h.books, h.room, fun hdone => ⟨(h.done hdone).1, rfl⟩⟩

/-- All that a pipe holds can be collected at once. -/
theorem collects_held {written held collected : Octets} {isOpen : Bool} (hheld : held ≠ []) :
    Collects ⟨written, held, collected, isOpen, false⟩
      ⟨written, [], collected ++ held, isOpen, false⟩ := by
  have h : Collects ⟨written, held ++ [], collected, isOpen, false⟩
      ⟨written, [], collected ++ held, isOpen, false⟩ := .take hheld
  rwa [List.append_nil] at h

/-- The task makes room. -/
theorem Collects.length_lt (h : d.Collects d') (hheld : d.held ≠ []) :
    d'.held.length < d.held.length := by
  cases h with
  | @take written chunk held collected isOpen hne =>
    have hpos := List.length_pos_iff.2 hne
    show held.length < (chunk ++ held).length
    rw [List.length_append]
    omega
  | finish => exact absurd rfl hheld

/-- A full pipe can be taken from, and has room then. -/
theorem Sound.serves (h : d.Sound capacity) (hpos : 0 < capacity)
    (hfull : capacity ≤ d.held.length) :
    (∃ d', d.Collects d') ∧ ∀ d', d.Collects d' → d'.held.length < capacity := by
  have hheld : d.held ≠ [] := List.length_pos_iff.1 (Nat.lt_of_lt_of_le hpos hfull)
  constructor
  · obtain ⟨written, held, collected, isOpen, isDone⟩ := d
    cases isDone with
    | false => exact ⟨_, collects_held hheld⟩
    | true => exact absurd (h.done rfl).1 hheld
  · intro d' hcollects
    have hless := hcollects.length_lt hheld
    have hroom := h.room
    omega

/-- Without the program, the task comes to an end, and nothing more is written. -/
theorem exists_done (hopen : d.isOpen = false) :
    ∃ d', ReflTransGen Collects d d' ∧ d'.isDone = true ∧ d'.written = d.written := by
  obtain ⟨written, held, collected, isOpen, isDone⟩ := d
  subst hopen
  cases isDone with
  | true => exact ⟨_, .refl, rfl, rfl⟩
  | false =>
    by_cases hheld : held = []
    · subst hheld
      exact ⟨_, .single .finish, rfl, rfl⟩
    · exact ⟨_, (ReflTransGen.single (collects_held hheld)).tail .finish, rfl, rfl⟩

end Drain

namespace Exchange

variable {c : Capacity} {code : Octets} {e e' : Exchange}

/-! ## The outlets together -/

section Update

variable {drain : Outlet → Drain} {o : Outlet} {d : Drain}

theorem sound_update (h : ∀ o, (drain o).Sound (c.outlet o)) (hd : d.Sound (c.outlet o))
    (o' : Outlet) : (Function.update drain o d o').Sound (c.outlet o') :=
  (Function.forall_update_iff drain fun o d => d.Sound (c.outlet o)).2 ⟨hd, fun o _ => h o⟩ o'

theorem isOpen_update (h : d.isOpen = (drain o).isOpen) (o' : Outlet) :
    (Function.update drain o d o').isOpen = (drain o').isOpen := by
  by_cases ho : o' = o
  · rw [ho, Function.update_self, h]
  · rw [Function.update_of_ne ho]

end Update

/-! ## What every state keeps -/

/-- The books of the pipes, and that a program uses only ends that it has open. -/
structure Sound (c : Capacity) (code : Octets) (e : Exchange) : Prop where
  inlet : e.inlet.Sound c.input code
  drain : ∀ o, (e.drain o).Sound (c.outlet o)
  reading : e.activity = .reading → e.inlet.isOpen = true
  writing : ∀ {o octets}, e.activity = .writing o octets → (e.drain o).isOpen = true
  ended : ∀ {ending}, e.activity = .ended ending →
    e.inlet.isOpen = false ∧ ∀ o, (e.drain o).isOpen = false

theorem sound_start (c : Capacity) (code : Octets) : Sound c code (start code) :=
  ⟨⟨rfl, Nat.zero_le _, nofun, nofun⟩, fun _ => ⟨rfl, Nat.zero_le _, nofun⟩, nofun, nofun, nofun⟩

/-- A task keeps the books and closes no end of the program. -/
theorem Sound.taskStep {task : PipeTask} (h : e.Sound c code) (hstep : TaskStep c task e e') :
    e'.Sound c code := by
  cases hstep with
  | feed hfeeds =>
    have hopen := hfeeds.isOpen_eq
    refine ⟨hfeeds.sound h.inlet, h.drain, fun ha => ?_, h.writing, fun ha => ?_⟩
    · exact hopen.trans (h.reading ha)
    · exact ⟨hopen.trans (h.ended ha).1, (h.ended ha).2⟩
  | collect hcollects =>
    have hopen := isOpen_update hcollects.isOpen_eq
    refine ⟨h.inlet, sound_update h.drain (hcollects.sound (h.drain _)), h.reading, fun ha => ?_,
      fun ha => ?_⟩
    · exact (hopen _).trans (h.writing ha)
    · exact ⟨(h.ended ha).1, fun o => (hopen o).trans ((h.ended ha).2 o)⟩

/-- The program keeps the books, too. -/
theorem Sound.programStep (h : e.Sound c code) (hstep : ProgramStep c e e') : e'.Sound c code := by
  obtain ⟨hinlet, hdrain, hreading, hwriting, hended⟩ := h
  cases hstep with
  | beginRead hopen => exact ⟨hinlet, hdrain, fun _ => hopen, nofun, nofun⟩
  | read hne => exact ⟨hinlet.read, hdrain, nofun, nofun, nofun⟩
  | readEnd hheld hfeeding => exact ⟨hinlet, hdrain, nofun, nofun, nofun⟩
  | @beginWrite _ _ o octets hopen =>
    refine ⟨hinlet, hdrain, nofun, ?_, nofun⟩
    rintro _ _ ⟨⟩
    exact hopen
  | @write _ drain o chunk octets hne hroom =>
    have hopen : (drain o).isOpen = true := hwriting rfl
    refine ⟨hinlet, sound_update hdrain ((hdrain o).write hopen hroom), nofun, ?_, nofun⟩
    rintro _ _ ⟨⟩
    show (Function.update drain o _ o).isOpen = true
    rw [Function.update_self]
    exact hopen
  | endWrite => exact ⟨hinlet, hdrain, nofun, nofun, nofun⟩
  | closeInlet => exact ⟨hinlet.close, hdrain, nofun, nofun, nofun⟩
  | closeOutlet => exact ⟨hinlet, sound_update hdrain (hdrain _).close, nofun, nofun, nofun⟩
  | exit hrunning =>
    exact ⟨hinlet.close, fun o => (hdrain o).close, nofun, nofun, fun _ => ⟨rfl, fun _ => rfl⟩⟩

/-- A state that a program and the tasks can come to. -/
def Reachable (c : Capacity) (code : Octets) : Exchange → Prop :=
  ReflTransGen (Step c) (start code)

theorem sound_of_reachable (h : Reachable c code e) : e.Sound c code := by
  induction h with
  | refl => exact sound_start c code
  | tail _ hstep ih =>
    cases hstep with
    | task hstep => exact ih.taskStep hstep
    | program hstep => exact ih.programStep hstep

/-! ## Waiting -/

/-- A program that has to wait can only be ended. -/
theorem Blocked.ended_of_step (h : e.Blocked c) (hstep : ProgramStep c e e') :
    ∃ ending, e'.activity = .ended ending := by
  cases hstep with
  | read hne => exact absurd (List.append_eq_nil_iff.1 h.1).1 hne
  | readEnd hheld hfeeding => exact absurd h.2 hfeeding
  | write hne hroom =>
    have hfull := h.2
    have hpos := List.length_pos_iff.2 hne
    dsimp only at hfull
    omega
  | endWrite => exact absurd rfl h.1
  | exit hrunning => exact ⟨_, rfl⟩
  | _ => exact h.elim

/-- A program that has not to wait can go on and need not end. -/
theorem exists_step_of_not_blocked (h : ¬ e.Blocked c)
    (hrunning : ∀ ending, e.activity ≠ .ended ending) :
    ∃ e', ProgramStep c e e' ∧ ∀ ending, e'.activity ≠ .ended ending := by
  obtain ⟨activity, inlet, drain⟩ := e
  cases activity with
  | computing => exact ⟨_, .closeInlet, nofun⟩
  | reading =>
    obtain ⟨left, held, taken, isOpen, feeding⟩ := inlet
    by_cases hheld : held = []
    · exact ⟨_, .readEnd hheld fun hfeeding => h ⟨hheld, hfeeding⟩, nofun⟩
    · have hread : ProgramStep c ⟨.reading, ⟨left, held ++ [], taken, isOpen, feeding⟩, drain⟩ _ :=
        .read hheld
      rw [List.append_nil] at hread
      exact ⟨_, hread, nofun⟩
  | writing o octets =>
    cases octets with
    | nil => exact ⟨_, .endWrite, nofun⟩
    | cons b octets =>
      have hroom : (drain o).held.length < c.outlet o :=
        Nat.lt_of_not_le fun hfull => h ⟨List.cons_ne_nil b octets, hfull⟩
      have hwrite : ProgramStep c ⟨.writing o ([b] ++ octets), inlet, drain⟩ _ :=
        .write (List.cons_ne_nil b []) hroom
      exact ⟨_, hwrite, nofun⟩
  | ended ending => exact absurd rfl (hrunning ending)

/-- A program has to wait exactly if it has not ended and nothing but its end is left to it. -/
theorem blocked_iff :
    e.Blocked c ↔ (∀ ending, e.activity ≠ .ended ending) ∧
      ∀ e', ProgramStep c e e' → ∃ ending, e'.activity = .ended ending := by
  constructor
  · intro h
    refine ⟨fun ending ha => ?_, fun e' hstep => h.ended_of_step hstep⟩
    unfold Blocked at h
    rw [ha] at h
    exact h
  · rintro ⟨hrunning, hends⟩
    by_contra h
    obtain ⟨e', hstep, hgoes⟩ := exists_step_of_not_blocked h hrunning
    obtain ⟨ending, hending⟩ := hends e' hstep
    exact hgoes ending hending

/-- The task at the other end of the pipe can go on, and whatever it does ends the waiting. -/
theorem Blocked.served (h : e.Blocked c) (hsound : e.Sound c code) :
    ∃ task, (∃ e', TaskStep c task e e') ∧ ∀ e', TaskStep c task e e' → ¬ e'.Blocked c := by
  obtain ⟨activity, inlet, drain⟩ := e
  cases activity with
  | reading =>
    have hopen := hsound.reading rfl
    obtain ⟨inlet', hfeeds⟩ := inlet.exists_feeds c.input_pos h.1 hopen h.2
    refine ⟨.feeding, ⟨_, .feed hfeeds⟩, ?_⟩
    intro e' hstep
    cases hstep with
    | feed hfeeds => exact hfeeds.serves hopen
  | writing o octets =>
    have hdrain : (drain o).Sound (c.outlet o) := hsound.drain o
    obtain ⟨⟨d, hcollects⟩, hroom⟩ := hdrain.serves (c.outlet_pos o) h.2
    refine ⟨.collecting o, ⟨_, .collect hcollects⟩, ?_⟩
    intro e' hstep hblocked
    cases hstep with
    | @collect _ _ d hcollects =>
      have hfull : c.outlet o ≤ (Function.update drain o d o).held.length := hblocked.2
      have hless := hroom d hcollects
      rw [Function.update_self] at hfull
      omega
  | computing => exact h.elim
  | ended ending => exact h.elim

/-! ## The end -/

/-- What was collected is what the program wrote. -/
theorem Finished.collected_eq (h : e.Finished) (hsound : e.Sound c code) (o : Outlet) :
    (e.drain o).collected = (e.drain o).written := by
  have hheld := ((hsound.drain o).done (h.2 o)).1
  rw [← (hsound.drain o).books, hheld, List.append_nil]

/-- The input counts as taken if all of the code went into the pipe. -/
theorem Finished.complete_iff (h : e.Finished) (hsound : e.Sound c code) :
    e.inlet.feeding = .complete ↔ e.inlet.taken ++ e.inlet.held = code := by
  have hleft : e.inlet.feeding = .complete ↔ e.inlet.left = [] := by
    cases hfeeding : e.inlet.feeding with
    | underway => exact absurd hfeeding h.1
    | complete => exact iff_of_true rfl (hsound.inlet.complete hfeeding)
    | refused => exact iff_of_false nofun (hsound.inlet.refused hfeeding)
  rw [hleft, ← hsound.inlet.books, ← List.append_assoc]
  exact List.self_eq_append_right.symm

/-- Steps of the tasks, without the program. -/
def TasksStep (c : Capacity) (e e' : Exchange) : Prop := ∃ task, TaskStep c task e e'

theorem Reachable.tasksSteps (h : Reachable c code e) (hsteps : ReflTransGen (TasksStep c) e e') :
    Reachable c code e' := by
  induction hsteps with
  | refl => exact h
  | tail _ hstep ih =>
    obtain ⟨task, hstep⟩ := hstep
    exact ReflTransGen.tail ih (.task hstep)

theorem tasksSteps_feed {activity : Activity} {i i' : Inlet} {drain : Outlet → Drain}
    (h : ReflTransGen (Inlet.Feeds c.input) i i') :
    ReflTransGen (TasksStep c) ⟨activity, i, drain⟩ ⟨activity, i', drain⟩ := by
  induction h with
  | refl => exact .refl
  | tail _ hfeeds ih => exact ih.tail ⟨.feeding, .feed hfeeds⟩

theorem tasksSteps_collect {activity : Activity} {inlet : Inlet} {drain : Outlet → Drain}
    {o : Outlet} {d : Drain} (h : ReflTransGen Drain.Collects (drain o) d) :
    ReflTransGen (TasksStep c) ⟨activity, inlet, drain⟩
      ⟨activity, inlet, Function.update drain o d⟩ := by
  induction h with
  | refl => rw [Function.update_eq_self]
  | @tail d d' _ hcollects ih =>
    have hcurrent : (Function.update drain o d o).Collects d' := by
      rwa [Function.update_self]
    have hstep : TaskStep c (.collecting o) ⟨activity, inlet, Function.update drain o d⟩
        ⟨activity, inlet, Function.update (Function.update drain o d) o d'⟩ := .collect hcurrent
    rw [Function.update_idem] at hstep
    exact ih.tail ⟨_, hstep⟩

/-- **The tasks end.** Once the program has ended, the tasks come to an end by themselves, and all
that the program wrote is collected. -/
theorem exists_finished (h : Reachable c code e) {ending : Ending}
    (hended : e.activity = .ended ending) :
    ∃ e', ReflTransGen (TasksStep c) e e' ∧ e'.Finished ∧
      ∀ o, (e'.drain o).collected = (e.drain o).written := by
  obtain ⟨hinlet, hdrain⟩ := (sound_of_reachable h).ended hended
  obtain ⟨activity, inlet, drain⟩ := e
  obtain ⟨i, hfeeds, hsettled⟩ := inlet.exists_settled c.input hinlet
  obtain ⟨d₁, hcollects₁, hdone₁, hwritten₁⟩ := (drain .output).exists_done (hdrain .output)
  obtain ⟨d₂, hcollects₂, hdone₂, hwritten₂⟩ := (drain .complaints).exists_done (hdrain .complaints)
  have hsteps : ReflTransGen (TasksStep c) ⟨activity, inlet, drain⟩
      ⟨activity, i, Function.update (Function.update drain .output d₁) .complaints d₂⟩ :=
    ((tasksSteps_feed hfeeds).trans (tasksSteps_collect hcollects₁)).trans
      (tasksSteps_collect hcollects₂)
  have hfinished : Finished
      ⟨activity, i, Function.update (Function.update drain .output d₁) .complaints d₂⟩ := by
    refine ⟨hsettled, fun o => ?_⟩
    cases o with
    | output => exact hdone₁
    | complaints => exact hdone₂
  refine ⟨_, hsteps, hfinished, fun o => ?_⟩
  rw [hfinished.collected_eq (sound_of_reachable (h.tasksSteps hsteps))]
  cases o with
  | output => exact hwritten₁
  | complaints => exact hwritten₂

/-- **No deadlock.** Where the program has to wait, a task can go on, and whatever this task does
ends the waiting. Once all tasks have come to an end, they have collected what the program wrote to
each of its outlets, in order, and the input counts as taken if all of the code went into its
pipe. -/
theorem no_deadlock (h : Reachable c code e) :
    (e.Blocked c → ∃ task, (∃ e', TaskStep c task e e') ∧
      ∀ e', TaskStep c task e e' → ¬ e'.Blocked c) ∧
    (e.Finished → (∀ o, (e.drain o).collected = (e.drain o).written) ∧
      ∀ ending time store,
        let run := e.run ending time store
        run.output = (e.drain .output).written ∧ run.complaints = (e.drain .complaints).written ∧
          (run.tookInput = true ↔ e.inlet.taken ++ e.inlet.held = code)) := by
  have hsound := sound_of_reachable h
  refine ⟨fun hblocked => hblocked.served hsound, fun hfinished => ?_⟩
  have hcollected := fun o => hfinished.collected_eq hsound o
  refine ⟨hcollected, fun ending time store => ⟨hcollected .output, hcollected .complaints, ?_⟩⟩
  rw [← hfinished.complete_iff hsound]
  exact decide_eq_true_iff

/-- Little room, and a program that complains a lot before it looks at its input, and then never
does. -/
theorem no_deadlock_complaints :
    let c : Capacity := ⟨1, fun _ => 1, Nat.one_pos, fun _ => Nat.one_pos⟩
    let code : Octets := [0x78]
    let loud : Octets := [0x77, 0x77]
    (∃ e, Reachable c code e ∧ e.Blocked c ∧ ∃ task e', TaskStep c task e e') ∧
      ∃ e, Reachable c code e ∧ e.Finished ∧ (e.drain .complaints).written = loud ∧
        (e.drain .complaints).collected = loud := by
  intro c code loud
  have begun : Reachable c code _ :=
    ReflTransGen.refl.tail (.program (@ProgramStep.beginWrite c _ _ .complaints loud rfl))
  have full := begun.tail (.program
    (@ProgramStep.write c _ _ .complaints [0x77] [0x77] (by decide) (by decide)))
  have room := full.tail (.task
    (@TaskStep.collect c _ .complaints _ (@Drain.Collects.take _ [0x77] [] _ _ (by decide))))
  have wrote := room.tail (.program
    (@ProgramStep.write c _ _ .complaints [0x77] [] (by decide) (by decide)))
  have fed := wrote.tail (.task
    (@TaskStep.feed c _ _ (@Inlet.Feeds.write _ [] _ _ code (by decide) (by decide))))
  have closed := fed.tail (.task (.feed .close))
  have exited := closed.tail (.program (@ProgramStep.exit c _ (.status 1) nofun))
  have taken := exited.tail (.task
    (@TaskStep.collect c _ .complaints _ (@Drain.Collects.take _ [0x77] [] _ _ (by decide))))
  have seen := taken.tail (.task (@TaskStep.collect c _ .complaints _ .finish))
  have finished := seen.tail (.task (@TaskStep.collect c _ .output _ .finish))
  constructor
  · obtain ⟨task, hstep, -⟩ := (no_deadlock full).1 ⟨by decide, by decide⟩
    exact ⟨_, full, ⟨by decide, by decide⟩, task, hstep⟩
  · have hdone := (no_deadlock finished).2 ⟨nofun, by rintro (_ | _) <;> rfl⟩
    exact ⟨_, finished, ⟨nofun, by rintro (_ | _) <;> rfl⟩, rfl, hdone.1 .complaints⟩

end Exchange

end Marginalia
