import Marginalia.Text.Basic

/-!
# Spans of time

A span is written in the largest unit that it fills: seconds, milliseconds, microseconds or
nanoseconds. The fraction has as many digits as it needs and no zero at its end.
-/

namespace Marginalia

/-- A span of whole seconds and nanoseconds, fewer than a thousand million of the latter. -/
structure Duration where
  seconds : Nat
  nanos : Nat
  deriving DecidableEq, Repr

namespace Duration

/-- A span of whole seconds. -/
def ofSeconds (n : Nat) : Duration := ⟨n, 0⟩

/-- A span of seconds and nanoseconds, of which there may be more than make up a second. -/
def ofParts (seconds nanos : Nat) : Duration :=
  ⟨seconds + nanos / 1000000000, nanos % 1000000000⟩

/-- A span of whole milliseconds. -/
def ofMillis (n : Nat) : Duration := ⟨n / 1000, n % 1000 * 1000000⟩

/-- The span in nanoseconds. -/
def toNanos (d : Duration) : Nat := d.seconds * 1000000000 + d.nanos

/-- The last `width` decimal digits of `n`. -/
def digits (width n : Nat) : Text :=
  let ds := Text.ofNat n
  List.replicate (width - ds.length) '0' ++ ds

/-- `whole` units and `part / 10 ^ places` of one, with the unit's name. -/
def decimal (whole part places : Nat) (unit : String) : Text :=
  let fraction := Text.dropEndWhile (· = '0') (digits places part)
  Text.ofNat whole ++ (if fraction = [] then [] else '.' :: fraction) ++ unit.toList

/-- The span in its largest unit. -/
def text (d : Duration) : Text :=
  if d.seconds > 0 then decimal d.seconds d.nanos 9 "s"
  else if d.nanos ≥ 1000000 then decimal (d.nanos / 1000000) (d.nanos % 1000000) 6 "ms"
  else if d.nanos ≥ 1000 then decimal (d.nanos / 1000) (d.nanos % 1000) 3 "µs"
  else decimal d.nanos 0 0 "ns"

end Duration

end Marginalia
