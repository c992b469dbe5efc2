import Marginalia.Path
import Marginalia.Fault

/-!
# The store

Files and directories as a value. A location is the list of names that lead to it from the root. The
store knows where the working directory is. A path is walked step by step, from the root or from the
working directory, so a step through something that is missing or no directory is refused with the
system's own reason. A read or write that fails changes nothing.
-/

namespace Marginalia

open Utf8 (Octets)

/-- What stands at a location. -/
inductive Entry where
  | directory
  | file (contents : Octets) (executable : Bool)
  deriving DecidableEq

/-- The names that lead to a place from the root. -/
abbrev Location := List Octets

/-- The directory around a location. The root lies in itself. -/
def Location.parent (loc : Location) : Location := loc.dropLast

/-- The place of the working directory, and all entries, each location at most once. The working
directory and the directories that it lies in are always there and need no entry. -/
structure Store where
  home : Location
  entries : List (Location × Entry)

namespace Store

/-- A working directory, and nothing else. -/
def empty (home : Location) : Store := ⟨home, []⟩

/-- The entry at a location. -/
def get? (s : Store) (loc : Location) : Option Entry :=
  if loc.isPrefixOf s.home then some .directory else s.entries.lookup loc

/-- The store with `entry` at `loc` and everything else as it was. -/
def put (s : Store) (loc : Location) (entry : Entry) : Store :=
  if s.entries.any (·.1 = loc) then
    { s with entries := s.entries.map fun e => if e.1 = loc then (loc, entry) else e }
  else { s with entries := s.entries ++ [(loc, entry)] }

/-- Whether a directory stands at a location. -/
def isDirectoryAt (s : Store) (loc : Location) : Bool := s.get? loc = some .directory

/-! ## Walking -/

/-- The pieces of a path between its slashes. -/
def steps (p : Path) : List Octets := (p.octets.splitOn Path.slash).filter (· ≠ [])

/-- Whether the path has to end at a directory. -/
def endsInSlash (p : Path) : Bool := p.octets.getLast? = some Path.slash

/-- Paths that the system refuses without a look at the store. -/
def refused? (p : Path) : Option SystemError :=
  if p.octets.contains 0 then
    some (.note "file name contained an unexpected NUL byte".toList)
  else if p.octets.length ≥ 4096 then some .nameTooLong
  else if p.octets = [] then some .notFound
  else none

/-- Where the steps of a path start. -/
def origin (s : Store) (p : Path) : Location := if p.isAbsolute then [] else s.home

/-- The location that `steps` lead to from `here`. -/
def walk (s : Store) (here : Location) : List Octets → Except SystemError Location
  | [] => .ok here
  | step :: rest =>
    if s.isDirectoryAt here then
      if step = Path.hereName then s.walk here rest
      else if step = Path.upName then s.walk here.parent rest
      else if step.length > 255 then .error .nameTooLong
      else
        match s.get? (here ++ [step]) with
        | none => .error .notFound
        | some _ => s.walk (here ++ [step]) rest
    else .error .notDirectory

/-- The entry that a path leads to, with its location. -/
def resolve (s : Store) (p : Path) : Except SystemError (Location × Entry) :=
  match refused? p with
  | some cause => .error cause
  | none => do
    let loc ← s.walk (s.origin p) (steps p)
    match s.get? loc with
    | none => .error .notFound
    | some .directory => .ok (loc, .directory)
    | some entry => if endsInSlash p then .error .notDirectory else .ok (loc, entry)

/-- The directory that holds the last step of a path, and that step. -/
def parentOf (s : Store) (p : Path) : Except SystemError (Location × Octets) :=
  match refused? p with
  | some cause => .error cause
  | none => do
    let names := steps p
    let dir ← s.walk (s.origin p) names.dropLast
    if !s.isDirectoryAt dir then .error .notDirectory
    else
      let last := names.getLast?.getD Path.hereName
      if last.length > 255 then .error .nameTooLong else .ok (dir, last)

/-! ## Operations -/

/-- Whether a path leads to a file. -/
def isFile (s : Store) (p : Path) : Bool :=
  match s.resolve p with
  | .ok (_, .file _ _) => true
  | _ => false

/-- Whether a path leads to a directory. -/
def isDirectory (s : Store) (p : Path) : Bool :=
  match s.resolve p with
  | .ok (_, .directory) => true
  | _ => false

/-- The contents of the file at a path. -/
def read (s : Store) (p : Path) : Except SystemError Octets := do
  match ← s.resolve p with
  | (_, .directory) => .error .isDirectory
  | (_, .file contents _) => .ok contents

/-- The text of the file at a path. -/
def readText (s : Store) (p : Path) : Except SystemError Text := do
  match Utf8.decode? (← s.read p) with
  | some text => .ok text
  | none => .error .notText

/-- The store in which the file at a path has the given contents. A new file cannot be run. -/
def write (s : Store) (p : Path) (contents : Octets) : Except SystemError Store := do
  let (dir, name) ← s.parentOf p
  if name = Path.hereName ∨ name = Path.upName then .error .isDirectory
  else
    let loc := dir ++ [name]
    match s.get? loc with
    | some .directory => .error .isDirectory
    | some (.file _ executable) =>
      if endsInSlash p then .error .notDirectory else .ok (s.put loc (.file contents executable))
    | none =>
      if endsInSlash p then .error .isDirectory else .ok (s.put loc (.file contents false))

/-- The store with a new directory at a path. -/
def makeDirectory (s : Store) (p : Path) : Except SystemError Store := do
  let (dir, name) ← s.parentOf p
  if name = Path.hereName ∨ name = Path.upName then .error .taken
  else
    match s.get? (dir ++ [name]) with
    | some _ => .error .taken
    | none => .ok (s.put (dir ++ [name]) .directory)

/-- Makes the directory with the given steps, and before it the directories that it lies in. The
steps come last first, and `p` is the path to make. Where one of them cannot be made, those made
before it stay. -/
def makeWithParents (s : Store) (p : Path) : List Path.Component → Except SystemError Unit × Store
  | [] => (.ok (), s)
  | _ :: outer =>
    match s.makeDirectory p with
    | .ok made => (.ok (), made)
    | .error cause =>
      if cause = .notFound then
        match s.makeWithParents (Path.ofComponents outer.reverse) outer with
        | (.error cause, left) => (.error cause, left)
        | (.ok _, prepared) =>
          match prepared.makeDirectory p with
          | .ok made => (.ok (), made)
          | .error cause =>
            if prepared.isDirectory p then (.ok (), prepared) else (.error cause, prepared)
      else if s.isDirectory p then (.ok (), s)
      else (.error cause, s)

/-- Makes the directory at a path and all directories that it lies in, where they are missing, and
leaves what could be made. -/
def layDirectories (s : Store) (p : Path) : Except SystemError Unit × Store :=
  s.makeWithParents p p.components.reverse

/-- The store with the directory at a path and all directories that it lies in. -/
def makeDirectories (s : Store) (p : Path) : Except SystemError Store :=
  match s.layDirectories p with
  | (.ok _, made) => .ok made
  | (.error cause, _) => .error cause

/-- The store in which the file at a path can be run. -/
def allowRunning (s : Store) (p : Path) : Store :=
  match s.resolve p with
  | .ok (loc, .file contents _) => s.put loc (.file contents true)
  | _ => s

/-- The store without what stands at a location and in it. -/
def drop (s : Store) (loc : Location) : Store :=
  { s with entries := s.entries.filter fun e => e.1.take loc.length ≠ loc }

/-- A path to a location: from the working directory if the location is in it, else from the
root. -/
def pathTo (s : Store) (loc : Location) : Path :=
  if s.home.isPrefixOf loc then ⟨[Path.slash].intercalate (loc.drop s.home.length)⟩
  else ⟨Path.slash :: [Path.slash].intercalate loc⟩

/-- The files in the working directory with their paths, in the order of the paths. -/
def files (s : Store) : List (Path × Octets) :=
  let listed := s.entries.filterMap fun
    | (loc, .file contents _) =>
      if s.home.isPrefixOf loc then some (s.pathTo loc, contents) else none
    | (_, .directory) => none
  listed.mergeSort fun a b => (Ord.compare a.1.octets b.1.octets).isLE

end Store

end Marginalia
