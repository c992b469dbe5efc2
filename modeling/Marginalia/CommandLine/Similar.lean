import Marginalia.CommandLine.Switch

/-!
# Similar names

How alike two words are: letters count as common if they stand at about the same place in both,
and common letters in another order count less. The measure is a fraction, kept exactly.
-/

namespace Marginalia.CommandLine

/-- Marks the first unmarked place with `c` in a range of places; places are counted from `i`. -/
def markFirst (c : Char) (low high : Nat) : Nat → List (Char × Bool) → Option (List (Char × Bool))
  | _, [] => none
  | i, (d, used) :: more =>
    if low ≤ i && i < high && d = c && !used then some ((d, true) :: more)
    else (markFirst c low high (i + 1) more).map ((d, used) :: ·)

/-- The letters of `a`, counted from `i`, that have a partner in `b` within `reach`, and `b` with
the partners marked. -/
def partners (reach : Nat) : Nat → Text → List (Char × Bool) → Text × List (Char × Bool)
  | _, [], b => ([], b)
  | i, c :: a, b =>
    match markFirst c (i - reach) (i + reach + 1) 0 b with
    | none => partners reach (i + 1) a b
    | some b =>
      let (common, b) := partners reach (i + 1) a b
      (c :: common, b)

/-- Likeness as a fraction of numerator and denominator: the mean of the shares of common letters
in both words and of the common letters in order among all common ones. -/
def likeness (a b : Text) : Nat × Nat :=
  let reach := max a.length b.length / 2 - 1
  let (mine, marked) := partners reach 0 a (b.map (·, false))
  let theirs := (marked.filter Prod.snd).map Prod.fst
  let common := mine.length
  let moved := ((mine.zip theirs).filter fun (x, y) => x ≠ y).length / 2
  if common = 0 then (0, 1)
  else
    (common * b.length * common + common * a.length * common +
      (common - moved) * a.length * b.length,
      3 * a.length * b.length * common)

/-- Whether one fraction is less than another. -/
def lessThan (x y : Nat × Nat) : Bool := x.1 * y.2 < y.1 * x.2

/-- The switch whose name is most like a text, if one is like it at all; of equals the last. -/
def similar? (t : Text) : Option Switch :=
  (Switch.all.foldl (fun (best : Option (Switch × Nat × Nat)) s =>
    let l := likeness t s.name.toList
    if !lessThan (7, 10) l then best
    else
      match best with
      | none => some (s, l)
      | some (s', l') => if lessThan l l' then some (s', l') else some (s, l)) none).map Prod.fst

end Marginalia.CommandLine
