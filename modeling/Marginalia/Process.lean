import Marginalia.Highlight
import Marginalia.Store

/-!
# Highlighting by a program

A program gets the code as its input, and its output is the markup. How a program runs is a
parameter here: it either cannot be started, or it takes some time, writes octets to its two
outputs and ends. `Tool.judge` says what becomes of that. A run that takes too long comes first,
then the way in which the program ended, then input that it did not take, then its output.
-/

namespace Marginalia

open Utf8 (Octets)

/-- How a program ends. -/
inductive Ending where
  | status (code : Nat)
  | signal (number : Nat)
  deriving DecidableEq, Repr

namespace Ending

/-- The names of the signals from the first on. -/
def signalNames : List String :=
  ["SIGHUP", "SIGINT", "SIGQUIT", "SIGILL", "SIGTRAP", "SIGABRT", "SIGBUS", "SIGFPE", "SIGKILL",
   "SIGUSR1", "SIGSEGV", "SIGUSR2", "SIGPIPE", "SIGALRM", "SIGTERM", "SIGSTKFLT", "SIGCHLD",
   "SIGCONT", "SIGSTOP", "SIGTSTP", "SIGTTIN", "SIGTTOU", "SIGURG", "SIGXCPU", "SIGXFSZ",
   "SIGVTALRM", "SIGPROF", "SIGWINCH", "SIGIO", "SIGPWR", "SIGSYS"]

/-- The words for an ending. -/
def text : Ending → Text
  | .status code => "exit status: ".toList ++ Text.ofNat code
  | .signal number =>
    let name := match signalNames[number - 1]? with
      | some n => " (".toList ++ n.toList ++ ")".toList
      | none => []
    "signal: ".toList ++ Text.ofNat number ++ name

/-- Whether the program says that it succeeded. -/
def succeeded (e : Ending) : Bool := e = .status 0

end Ending

/-- What a program that was started does. -/
structure Run where
  output : Octets
  complaints : Octets
  ending : Ending
  /-- Whether the program took its input, or left it where it does not get in the way. -/
  tookInput : Bool
  /-- The time until it ends. -/
  time : Duration
  /-- The files that it leaves. -/
  store : Store

/-- A way to run programs: what a program does with its arguments, its input and the files that it
sees. It is stopped after a time, if there is a limit. -/
abbrev Runner := (program : Text) → (arguments : List Text) → (input : Octets) →
  (limit : Option Duration) → Store → Except SystemError Run

/-- A program that highlights code. -/
structure Tool where
  program : Text
  tabSize : Nat
  /-- The time that a run may take, if there is a limit. -/
  limit : Option Duration

namespace Tool

/-- The arguments for code in a language. -/
def arguments (t : Tool) (language : Text) : List Text :=
  ["-l".toList, language, "-f".toList, "html".toList, "-O".toList,
   "encoding=utf-8,tabsize=".toList ++ Text.ofNat t.tabSize]

/-- What is told of a program's complaints: each line that is not blank. -/
def warnings (t : Tool) (complaints : Text) : Journal :=
  (complaints.printedLines.filter fun l => !l.allBlank).map fun l =>
    ⟨.warn, .highlighting, t.program ++ ": ".toList ++ l⟩

/-- Whether a run takes longer than it may. -/
def exceeds (t : Tool) (r : Run) : Bool :=
  match t.limit with
  | none => false
  | some limit => limit.toNanos < r.time.toNanos

/-- What becomes of a run that ended in time. -/
def result (r : Run) : Except HighlightFailure Text :=
  if !r.ending.succeeded then
    .error (.exit r.ending.text (Utf8.decodeLossy r.complaints).trim)
  else if !r.tookInput then .error (.pipe .brokenPipe)
  else
    match Utf8.decode? r.output with
    | some text => .ok text
    | none => .error .encoding

/-- What becomes of an attempt to run the program. -/
def judge (t : Tool) (attempt : Except SystemError Run) :
    Journal × Except HighlightFailure Text :=
  match attempt with
  | .error cause => ([], .error (.spawn t.program cause))
  | .ok r =>
    match t.limit, t.exceeds r with
    | some limit, true => ([], .error (.timeout limit))
    | _, _ => (t.warnings (Utf8.decodeLossy r.complaints), result r)

/-- The highlighter that runs the program. -/
def highlighter (t : Tool) (run : Runner) : StoreHighlighter := fun language code store =>
  let attempt := run t.program (t.arguments language) (Utf8.encode code) t.limit store
  let (journal, result) := t.judge attempt
  let left := match attempt with
    | .ok r => r.store
    | .error _ => store
  ((journal, result.mapError (.highlight language)), left)

end Tool

end Marginalia
