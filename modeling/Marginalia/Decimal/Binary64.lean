import Marginalia.Text.Basic

/-!
# Decimal numbers as binary ones

A number with a decimal point is kept with 53 binary digits and an exponent of limited range,
rounded to the nearest such number, to the even one of two equally near. It is written with the
fewest decimal digits that round to the same number again, without an exponent.
-/

namespace Marginalia

/-- The number `significand * 2 ^ exponent`, with fewer than 54 binary digits. -/
structure Binary64 where
  negative : Bool
  significand : Nat
  exponent : Int
  deriving DecidableEq

namespace Binary64

/-- `a / b` rounded to the nearest whole number, to the even one of two equally near. -/
def roundDiv (a b : Nat) : Nat :=
  let q := a / b
  let r := a % b
  if 2 * r > b ∨ (2 * r = b ∧ q % 2 = 1) then q + 1 else q

/-- `a * 2 ^ e`, as a quotient of whole numbers together with `b`. -/
def scale (a b : Nat) (base : Nat) (e : Int) : Nat × Nat :=
  if e ≥ 0 then (a * Nat.pow base e.toNat, b) else (a, b * Nat.pow base (-e).toNat)

/-- The number nearest to `a / b`; `none` if it is out of range. -/
def ofRatio? (negative : Bool) (a b : Nat) : Option Binary64 :=
  if a = 0 then some ⟨negative, 0, 0⟩
  else
    let guess : Int := (a.log2 : Int) - b.log2 - 52
    let fits (e : Int) : Bool := let (x, y) := scale a b 2 (-e); x / y < Nat.pow 2 53
    let exponent := max (-1074) (if fits (guess - 1) then guess - 1 else
      if fits guess then guess else guess + 1)
    let (x, y) := scale a b 2 (-exponent)
    let m := roundDiv x y
    let (m, exponent) := if m = Nat.pow 2 53 then (Nat.pow 2 52, exponent + 1) else (m, exponent)
    if exponent > 971 then none else some ⟨negative, m, exponent⟩

/-! ## Reading -/

/-- The number that decimal digits spell. -/
def digitsValue (ds : Text) : Nat := ds.foldl (fun n d => n * 10 + (d.toNat - '0'.toNat)) 0

/-- An exponent: a sign perhaps, and digits. -/
def exponent? (t : Text) : Option Int :=
  let (negative, ds) := match t with
    | '-' :: ds => (true, ds)
    | '+' :: ds => (false, ds)
    | ds => (false, ds)
  if ds = [] || !ds.all Char.isDigit then none
  else some (if negative then -(digitsValue ds : Int) else digitsValue ds)

/-- Reads a sign perhaps, digits with a point perhaps among them, and an exponent perhaps. -/
def ofText? (t : Text) : Option Binary64 := do
  let (negative, t) := match t with
    | '-' :: t => (true, t)
    | '+' :: t => (false, t)
    | t => (false, t)
  let whole := t.takeWhile Char.isDigit
  let t := t.dropWhile Char.isDigit
  let (part, t) := match t with
    | '.' :: t => (t.takeWhile Char.isDigit, t.dropWhile Char.isDigit)
    | t => ([], t)
  if whole = [] && part = [] then none
  else
    let shift ← match t with
      | [] => some 0
      | c :: t => if c = 'e' || c = 'E' then exponent? t else none
    let ds := (whole ++ part).dropWhile (· = '0')
    let value := digitsValue ds
    let shift := shift - part.length
    if value = 0 then some ⟨negative, 0, 0⟩
    else if shift + ds.length > 400 then none
    else if shift + ds.length < -400 then some ⟨negative, 0, 0⟩
    else
      let (a, b) := scale value 1 10 shift
      ofRatio? negative a b

/-! ## Writing -/

/-- The number as a quotient of whole numbers. -/
def ratio (x : Binary64) : Nat × Nat := scale x.significand 1 2 x.exponent

/-- Whether `d * 10 ^ k` rounds to the positive number `x`. -/
def roundsTo (x : Binary64) (d : Nat) (k : Int) : Bool :=
  let (a, b) := scale d 1 10 k
  match ofRatio? false a b with
  | some y => y.ratio.1 * x.ratio.2 = x.ratio.1 * y.ratio.2
  | none => false

/-- The number of decimal digits in front of the point of `a / b`, which is positive; zero and
below for numbers under one tenth, and so on. -/
def magnitude (a b : Nat) : Int :=
  let guess : Int := (Nat.toDigits 10 a).length - (Nat.toDigits 10 b).length
  let below (e : Int) : Bool := let (x, y) := scale a b 10 (-e); x < y
  if below guess then guess else guess + 1

/-- The digits and the decimal exponent of the shortest decimal that rounds to `x`: of the two
neighbours with `count` digits the nearer one that does, for the least possible `count`. -/
def shortest (x : Binary64) (count : Nat) : Nat → Nat × Int
  | 0 => (0, 0)
  | fuel + 1 =>
    let (a, b) := x.ratio
    let k := magnitude a b - count
    let (n, d) := scale a b 10 (-k)
    let low := n / d
    let near := roundDiv n d
    let far := if near = low then low + 1 else low
    if roundsTo x near k then (near, k)
    else if roundsTo x far k then (far, k)
    else shortest x (count + 1) fuel

/-- The digits `d * 10 ^ k` written out. -/
def positional (d : Nat) (k : Int) : Text :=
  let ds := Text.ofNat d
  if k ≥ 0 then ds ++ List.replicate k.toNat '0'
  else
    let places := (-k).toNat
    let ds := List.replicate (places + 1 - ds.length) '0' ++ ds
    let whole := ds.take (ds.length - places)
    let part := Text.dropEndWhile (· = '0') (ds.drop (ds.length - places))
    if part = [] then whole else whole ++ '.' :: part

/-- The number in decimal, with at least one digit after the point. -/
def text (x : Binary64) : Text :=
  let digits :=
    if x.significand = 0 then ['0']
    else
      let (d, k) := shortest x 1 18
      positional d k
  (if x.negative then ['-'] else []) ++ digits ++ (if digits.contains '.' then [] else ".0".toList)

end Binary64

end Marginalia
