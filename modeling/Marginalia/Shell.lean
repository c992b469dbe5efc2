import Marginalia.Shell.Evaluation

/-!
# Running programs

The programs that can be run are those that every system has and the scripts in a store. A script
names the program that runs it on its first line. The shell takes the place of the program then:
how it ends is how the program ends.
-/

namespace Marginalia.Shell

open Utf8 (Octets)

/-- The number of octets that a pipe holds without anyone reading them. -/
def pipeCapacity : Nat := 65536

/-- The bound on the depth of a run. -/
def runDepth : Nat := 50000

/-- Runs a program that every system has as the first one. -/
def runFirst (name : Text) (args : List Text) (m : Machine) : Nat → Machine
  | 0 => exhausted m
  | fuel + 1 =>
    match String.ofList (systemName name), args with
    | "sh", args | "dash", args => runShell name false args m fuel
    | "bash", args => runShell name true args m fuel
    | "env", program :: rest =>
      if ["sh", "dash", "bash"].contains (String.ofList (systemName program)) then
        runFirst program rest m fuel
      else ended fuel
    | _, _ => ended fuel
where
  /-- Runs a program that is no shell. -/
  ended (fuel : Nat) : Machine :=
    match runProgram name args m fuel with
    | .ok m => m
    | .error status => m.done status

/-- The program that runs a script in the store, with all of its arguments. A script may be run by
another one, though not in too long a row. -/
def programFor (store : Store) : Nat → Text → List Text → Except SystemError (Text × List Text)
  | 0, _, _ => .error .notRunnable
  | fuel + 1, program, args => do
    let isKnown := homes.any (fun d => (Text.after? d.toList program).isSome) &&
      isSystemProgram (systemName program)
    if isKnown then return (program, args)
    else if Test.isEverywhere program then throw .denied
    else
      match ← store.resolve ⟨toOctets program⟩ with
      | (_, .file contents true) =>
        match interpreter? (ofOctets contents) with
        | none => throw .notRunnable
        | some (next, given) => programFor store fuel next (given ++ program :: args)
      | _ => throw .denied

/-- The program that a name means, with all of its arguments. -/
def programOf (store : Store) (name : Text) (args : List Text) :
    Except SystemError (Text × List Text) :=
  if name.contains '/' then programFor store 5 name args
  else if isSystemProgram name then .ok (name, args)
  else if name = ['.'] || name = ['.', '.'] then .error .denied
  else .error .notFound

/-- What was written, in the order of time. -/
def inOrder (writes : List (Nat × Text)) : Octets :=
  toOctets ((writes.reverse.mergeSort fun a b => a.1 ≤ b.1).flatMap Prod.snd)

/-- What a shell did, once it has ended. -/
def runOf (m : Machine) : Run :=
  { output := inOrder m.output
    complaints := inOrder m.complaints
    ending := m.ending.getD (.status m.status)
    tookInput := ((m.streams[0]?).map (·.text.length)).getD 0 ≤ pipeCapacity
    time := Duration.ofMillis (max m.time m.heldUntil)
    store := m.store }

/-- Runs programs: scripts in a store that may be run, and those that every system has. -/
def runner : Runner := fun program arguments input limit store =>
  let nul := Char.ofNat 0
  if (program :: arguments).any (·.contains nul) then
    .error (.note "nul byte found in provided data".toList)
  else
    let octets (t : Text) : Text := ofOctets (Utf8.encode t)
    (programOf store (octets program) (arguments.map octets)).map fun (name, args) =>
      let m := Machine.start name [] (ofOctets input) store
      let m := { m with limit := limit.map fun d => d.toNanos / 1000000 }
      runOf (runFirst name args m runDepth)

end Marginalia.Shell
