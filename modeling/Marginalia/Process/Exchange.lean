import Marginalia.Process
import Mathlib.Logic.Function.Basic

/-!
# The pipes of a program

A program that was started has three pipes: one for its input, one for its output and one for its
complaints. A pipe holds only so many octets. At the other ends there are three tasks, and each goes
on by itself. One writes the code into the input and closes it then. The other two collect what
comes out until nothing more can come.

The program does what it likes and as it likes: it reads, writes any octets, closes its ends of the
pipes and ends. It has to wait where it reads from an empty pipe that is still written to, and where
it writes to a full one.
-/

namespace Marginalia

open Utf8 (Octets)

/-- Where octets come out of a program. -/
inductive Outlet where
  | output
  | complaints
  deriving DecidableEq

/-- The tasks at the other ends of the pipes. -/
inductive PipeTask where
  | feeding
  | collecting (o : Outlet)

/-- How many octets each pipe holds. -/
structure Capacity where
  input : Nat
  outlet : Outlet → Nat
  input_pos : 0 < input
  outlet_pos : ∀ o, 0 < outlet o

/-- How far the task is that writes the code. -/
inductive Feeding where
  | underway
  /-- All of the code is written, and the pipe is closed. -/
  | complete
  /-- The program closed its end before all of the code was written. -/
  | refused
  deriving DecidableEq

/-- The pipe through which the code goes to the program. -/
structure Inlet where
  /-- What is still to be written. -/
  left : Octets
  held : Octets
  /-- What the program has read. -/
  taken : Octets
  /-- Whether the end of the program is open. -/
  isOpen : Bool
  feeding : Feeding

/-- A pipe through which octets come out of the program. -/
structure Drain where
  /-- All that the program has written. -/
  written : Octets
  held : Octets
  collected : Octets
  /-- Whether the end of the program is open. -/
  isOpen : Bool
  /-- Whether the task that collects has come to the end. -/
  isDone : Bool

/-- What a program is at. -/
inductive Activity where
  /-- It uses no pipe. -/
  | computing
  | reading
  /-- It writes, and so much is left. -/
  | writing (o : Outlet) (octets : Octets)
  | ended (ending : Ending)

/-- A program among its pipes. -/
structure Exchange where
  activity : Activity
  inlet : Inlet
  drain : Outlet → Drain

/-! ## The tasks -/

/-- The task that writes the code goes on. It writes as much at a time as it likes and as fits. -/
inductive Inlet.Feeds (capacity : Nat) : Inlet → Inlet → Prop
  | write {left held taken chunk} (hne : chunk ≠ [])
    (hroom : held.length + chunk.length ≤ capacity) :
    Feeds capacity ⟨chunk ++ left, held, taken, true, .underway⟩
      ⟨left, held ++ chunk, taken, true, .underway⟩
  | close {held taken isOpen} :
    Feeds capacity ⟨[], held, taken, isOpen, .underway⟩ ⟨[], held, taken, isOpen, .complete⟩
  | refuse {left held taken} (hne : left ≠ []) :
    Feeds capacity ⟨left, held, taken, false, .underway⟩ ⟨left, held, taken, false, .refused⟩

/-- A task that collects goes on. It takes as much at a time as it likes and as is there. -/
inductive Drain.Collects : Drain → Drain → Prop
  | take {written chunk held collected isOpen} (hne : chunk ≠ []) :
    Collects ⟨written, chunk ++ held, collected, isOpen, false⟩
      ⟨written, held, collected ++ chunk, isOpen, false⟩
  | finish {written collected} :
    Collects ⟨written, [], collected, false, false⟩ ⟨written, [], collected, false, true⟩

namespace Exchange

/-- One of the tasks goes on. -/
inductive TaskStep (c : Capacity) : PipeTask → Exchange → Exchange → Prop
  | feed {e inlet} (h : e.inlet.Feeds c.input inlet) :
    TaskStep c .feeding e { e with inlet := inlet }
  | collect {e o drain} (h : (e.drain o).Collects drain) :
    TaskStep c (.collecting o) e { e with drain := Function.update e.drain o drain }

/-! ## The program -/

/-- What the program may do. It may end at any time, also while it waits. -/
inductive ProgramStep (c : Capacity) : Exchange → Exchange → Prop
  | beginRead {inlet drain} (hopen : inlet.isOpen = true) :
    ProgramStep c ⟨.computing, inlet, drain⟩ ⟨.reading, inlet, drain⟩
  | read {left held taken isOpen feeding chunk drain} (hne : chunk ≠ []) :
    ProgramStep c ⟨.reading, ⟨left, chunk ++ held, taken, isOpen, feeding⟩, drain⟩
      ⟨.computing, ⟨left, held, taken ++ chunk, isOpen, feeding⟩, drain⟩
  | readEnd {inlet drain} (hheld : inlet.held = []) (hfeeding : inlet.feeding ≠ .underway) :
    ProgramStep c ⟨.reading, inlet, drain⟩ ⟨.computing, inlet, drain⟩
  | beginWrite {inlet drain o octets} (hopen : (drain o).isOpen = true) :
    ProgramStep c ⟨.computing, inlet, drain⟩ ⟨.writing o octets, inlet, drain⟩
  | write {inlet drain o chunk octets} (hne : chunk ≠ [])
    (hroom : (drain o).held.length + chunk.length ≤ c.outlet o) :
    ProgramStep c ⟨.writing o (chunk ++ octets), inlet, drain⟩
      ⟨.writing o octets, inlet, Function.update drain o
        { drain o with written := (drain o).written ++ chunk, held := (drain o).held ++ chunk }⟩
  | endWrite {inlet drain o} :
    ProgramStep c ⟨.writing o [], inlet, drain⟩ ⟨.computing, inlet, drain⟩
  | closeInlet {inlet drain} :
    ProgramStep c ⟨.computing, inlet, drain⟩ ⟨.computing, { inlet with isOpen := false }, drain⟩
  | closeOutlet {inlet drain o} :
    ProgramStep c ⟨.computing, inlet, drain⟩
      ⟨.computing, inlet, Function.update drain o { drain o with isOpen := false }⟩
  | exit {e ending} (hrunning : ∀ ending, e.activity ≠ .ended ending) :
    ProgramStep c e ⟨.ended ending, { e.inlet with isOpen := false },
      fun o => { e.drain o with isOpen := false }⟩

/-- The program has to wait: it reads from an empty pipe that is still written to, or it writes to a
full one. -/
def Blocked (c : Capacity) (e : Exchange) : Prop :=
  match e.activity with
  | .reading => e.inlet.held = [] ∧ e.inlet.feeding = .underway
  | .writing o octets => octets ≠ [] ∧ c.outlet o ≤ (e.drain o).held.length
  | .computing | .ended _ => False

/-! ## Both -/

/-- Tasks and program go on in any order. -/
inductive Step (c : Capacity) : Exchange → Exchange → Prop
  | task {task e e'} (h : TaskStep c task e e') : Step c e e'
  | program {e e'} (h : ProgramStep c e e') : Step c e e'

/-- A program that was just started, with the code for it. -/
def start (code : Octets) : Exchange :=
  ⟨.computing, ⟨code, [], [], true, .underway⟩, fun _ => ⟨[], [], [], true, false⟩⟩

/-- All tasks have come to an end. -/
def Finished (e : Exchange) : Prop :=
  e.inlet.feeding ≠ .underway ∧ ∀ o, (e.drain o).isDone = true

/-- What is known of the run of a program, once the tasks have come to an end and it has, too. -/
def run (e : Exchange) (ending : Ending) (time : Duration) (store : Store) : Run where
  output := (e.drain .output).collected
  complaints := (e.drain .complaints).collected
  ending := ending
  tookInput := e.inlet.feeding = .complete
  time := time
  store := store

end Exchange

end Marginalia
