import Marginalia.Pattern.Class

/-!
# Patterns

A pattern describes texts: one character of a class, a place between characters, patterns one after
another, one of two patterns, or a pattern again and again. `Pattern.ends` gives the places at which
a match from a place can end, so all ways to match are followed at once and none is tried twice.
-/

namespace Marginalia

namespace Pattern

/-- A condition on the place between two characters. -/
inductive Boundary where
  | textStart
  | textEnd
  /-- At the start of a line; a carriage return ends a line too if `crlf` is set. -/
  | lineStart (crlf : Bool)
  | lineEnd (crlf : Bool)
  /-- Between a character of a class and one that is none, or an end of the text. -/
  | edge (word : Class)
  | noEdge (word : Class)
  | wordStart (word : Class)
  | wordEnd (word : Class)
  /-- No character of the class stands before the place. -/
  | freeBefore (word : Class)
  | freeAfter (word : Class)
  deriving DecidableEq

end Pattern

/-- A pattern. -/
inductive Pattern where
  | empty
  | one (s : Pattern.Class)
  | place (b : Pattern.Boundary)
  | both (p q : Pattern)
  | either (p q : Pattern)
  /-- As often as `least`, or more often up to `most`. -/
  | times (p : Pattern) (least : Nat) (most : Option Nat)
  deriving DecidableEq

namespace Pattern

/-- Whether a condition holds between two characters, where the text may have an end. -/
def Boundary.holds (b : Boundary) (before after : Option Char) : Bool :=
  let among (s : Class) (c : Option Char) : Bool := (c.map s.has).getD false
  match b with
  | .textStart => before = none
  | .textEnd => after = none
  | .lineStart crlf =>
    before = none || before = some '\n' || (crlf && before = some '\r' && after ≠ some '\n')
  | .lineEnd crlf =>
    after = none || (after = some '\n' && !(crlf && before = some '\r')) ||
      (crlf && after = some '\r')
  | .edge s => among s before != among s after
  | .noEdge s => among s before == among s after
  | .wordStart s => !among s before && among s after
  | .wordEnd s => among s before && !among s after
  | .freeBefore s => !among s before
  | .freeAfter s => !among s after

/-- The places to which a step leads from one of some places, each once. -/
def onward (step : Nat → List Nat) (places : List Nat) : List Nat :=
  (places.flatMap step).eraseDups

/-- The places after a number of steps. -/
def afterSteps (step : Nat → List Nat) : Nat → List Nat → List Nat
  | 0, places => places
  | n + 1, places => afterSteps step n (onward step places)

/-- The places within a number of steps from the newest of those reached so far. -/
def withinSteps (step : Nat → List Nat) : Nat → List Nat → List Nat → List Nat
  | 0, reached, _ => reached
  | n + 1, reached, newest =>
    match (onward step newest).filter fun i => !reached.contains i with
    | [] => reached
    | fresh => withinSteps step n (reached ++ fresh) fresh

/-- The places at which a match of a pattern from a place can end. More steps than the text has
characters, and one, lead nowhere else: a step among them stays where it is. -/
def ends (text : Array Char) : Pattern → Nat → List Nat
  | .empty, i => [i]
  | .one s, i =>
    match text[i]? with
    | some c => if s.has c then [i + 1] else []
    | none => []
  | .place b, i =>
    let before := if i = 0 then none else text[i - 1]?
    if b.holds before text[i]? then [i] else []
  | .both p q, i => onward (ends text q) (ends text p i)
  | .either p q, i => (ends text p i ++ ends text q i).eraseDups
  | .times p least most, i =>
    let limit := text.size + 1
    let first := afterSteps (ends text p) (min least limit) [i]
    let more := match most with
      | some n => min (n - least) limit
      | none => limit
    withinSteps (ends text p) more first first

/-- Whether a pattern matches somewhere in a text. -/
def occursIn (p : Pattern) (t : Text) : Bool :=
  let text := t.toArray
  (List.range (text.size + 1)).any fun i => ends text p i ≠ []

/-- Patterns one after another. -/
def sequence (ps : List Pattern) : Pattern :=
  match ps with
  | [] => .empty
  | p :: ps => ps.foldl .both p

end Pattern

end Marginalia
