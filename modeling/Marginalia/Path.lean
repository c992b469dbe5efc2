import Marginalia.Text.Utf8

/-!
# Paths

A path is a list of octets, as the system keeps it. Most paths are spelled by a text, but nothing
says that one has to be: a name may hold any octets but the slash. Where a path is shown, in a
message, on a page or in the name of a page, the replacement character stands for octets that spell
nothing, so different paths may be shown alike.

A path keeps its octets, because messages and the file system see them; it is compared by its
components. Repeated and final slashes and inner dots make no component, so `a//b`, `a/./b`,
`a/b/` and `a/b` are equal. A dot in front of a relative path is a component of its own.
-/

namespace Marginalia

open Utf8 (Octets)

/-- A path as it was written. -/
structure Path where
  octets : Octets
  deriving DecidableEq, Inhabited

namespace Path

/-- The octet between two names. -/
abbrev slash : UInt8 := 0x2F

/-- The octet in front of an ending. -/
abbrev dot : UInt8 := 0x2E

/-- The name of a directory in itself. -/
def hereName : Octets := [dot]

/-- The name that leads to the directory around. -/
def upName : Octets := [dot, dot]

theorem hereName_ne_upName : hereName ≠ upName := by decide

/-- The path that a text spells. -/
def ofText (t : Text) : Path := ⟨Utf8.encode t⟩

/-- The path as it is shown. -/
def text (p : Path) : Text := Utf8.decodeLossy p.octets

/-- Whether a path starts at the root. -/
def isAbsolute (p : Path) : Bool := p.octets.head? = some slash

/-- One step of a path. -/
inductive Component where
  | root
  | here
  | up
  | name (octets : Octets)
  deriving DecidableEq, Repr

/-- Rank of a component's kind: the root, the dot, the double dot, then names. -/
def Component.rank : Component → Nat
  | .root => 0
  | .here => 1
  | .up => 2
  | .name _ => 3

/-- Components by kind, names by their octets. -/
def Component.compare : Component → Component → Ordering
  | .name a, .name b => Ord.compare a b
  | a, b => Ord.compare a.rank b.rank

/-- The component that a piece between slashes stands for, away from the front of a path. -/
def inner? (piece : Octets) : Option Component :=
  if piece = [] ∨ piece = hereName then none
  else if piece = upName then some .up
  else some (.name piece)

/-- The component of the first piece of a relative path. -/
def front? (piece : Octets) : Option Component :=
  if piece = hereName then some .here else inner? piece

/-- The component that a path begins with, if its first piece stands for one. -/
def lead? (p : Path) (piece : Octets) : Option Component :=
  if p.isAbsolute then some .root else front? piece

/-- The steps of a path. -/
def components (p : Path) : List Component :=
  match p.octets.splitOn slash with
  | [] => []
  | piece :: pieces => (p.lead? piece).toList ++ pieces.filterMap inner?

/-- The piece between slashes that a component is written as. -/
def Component.piece : Component → Octets
  | .root => []
  | .here => hereName
  | .up => upName
  | .name n => n

/-- A path with the given steps. -/
def ofComponents (cs : List Component) : Path :=
  if cs = [.root] then ⟨[slash]⟩ else ⟨[slash].intercalate (cs.map Component.piece)⟩

/-- Lexicographic comparison of steps. -/
def compareSteps : List Component → List Component → Ordering
  | [], [] => .eq
  | [], _ :: _ => .lt
  | _ :: _, [] => .gt
  | a :: s, b :: t => (a.compare b).then (compareSteps s t)

/-- Paths are ordered by their components. -/
def compare (p q : Path) : Ordering := compareSteps p.components q.components

/-- Whether two paths have the same components. -/
def same (p q : Path) : Bool := p.components = q.components

/-- The last component, if it is a name. -/
def fileName? (p : Path) : Option Octets :=
  match p.components.getLast? with
  | some (.name n) => some n
  | _ => none

/-- A name cut at its last dot; a dot in front of the name does not count. -/
def cutName (name : Octets) : Octets × Option Octets :=
  let ending := (name.reverse.takeWhile (· ≠ dot)).reverse
  match name.reverse.dropWhile (· ≠ dot) with
  | [] => (name, none)
  | [_] => (name, none)
  | _ :: stem => (stem.reverse, some ending)

/-- The file name up to its last dot. -/
def stem? (p : Path) : Option Octets := p.fileName?.map fun n => (cutName n).1

/-- The file name after its last dot. -/
def extension? (p : Path) : Option Octets := p.fileName?.bind fun n => (cutName n).2

/-- `p` continued by `q`; a `q` from the root stands alone. -/
def join (p q : Path) : Path :=
  if q.isAbsolute then q
  else if p.octets = [] ∨ p.octets.getLast? = some slash then ⟨p.octets ++ q.octets⟩
  else ⟨p.octets ++ slash :: q.octets⟩

end Path

end Marginalia
