import Marginalia.CommandLine

/-!
# The program

Reads the files that a call may look at into a store, makes the call, and writes what changed.
-/

namespace Marginalia.Main

/-- The paths that lead to a path, the shortest first, and the path itself. -/
def stages (p : Path) : List Path :=
  let steps := Store.steps p
  let root := if p.isAbsolute then [Path.slash] else []
  (List.range steps.length).map fun i => ⟨root ++ [Path.slash].intercalate (steps.take (i + 1))⟩

/-- The store with what stands at a path on the disk. -/
def fetch (s : Store) (p : Path) : IO Store := do
  let name := String.ofList p.text
  try
    if ← (← IO.FS.realPath name).isDir then
      return ((s.makeDirectories p).toOption).getD s
    else
      let contents ← IO.FS.readBinFile name
      return (((s.write p contents.toList).toOption).getD s).allowRunning p
  catch _ => return s

/-- The store with all that paths lead to. -/
def fetchAll (s : Store) (paths : List Path) : IO Store :=
  (paths.flatMap stages).foldlM fetch s

/-- Writes what is in one store and not in another to the disk. -/
def deliver (before after : Store) : IO Unit := do
  for (loc, entry) in after.entries do
    let name := String.ofList (after.pathTo loc).text
    unless before.get? loc = some entry do
      match entry with
      | .directory => IO.FS.createDirAll name
      | .file contents _ => IO.FS.writeBinFile name ⟨contents.toArray⟩

end Marginalia.Main

open Marginalia in
/-- The program. -/
def main (args : List String) : IO UInt32 := do
  let args := args.map String.toList
  let filter := (← IO.getEnv "RUST_LOG").map String.toList
  let home := Store.steps (.ofText (← IO.currentDir).toString.toList)
  let some_ ← Main.fetchAll (.empty home) (CommandLine.interests args (.empty home))
  let store ← Main.fetchAll some_ (CommandLine.interests args some_)
  let report := CommandLine.run args filter store
  Main.deliver store report.store
  (← IO.getStdout).putStr (String.ofList report.output)
  (← IO.getStderr).putStr (String.ofList report.complaints)
  return UInt32.ofNat report.status
