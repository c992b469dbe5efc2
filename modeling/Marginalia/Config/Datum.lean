import Marginalia.Yaml.Document
import Marginalia.Decimal.Binary64
import Marginalia.Text.Quoted

/-!
# Data of a configuration

What a scalar stands for: nothing, a truth value, a whole number, a number with a point, or text.
Quotes always make text. Fields ask for one of these, and a datum of another kind is refused with
a description of what was found.
-/

namespace Marginalia

open Yaml (Mark ScalarStyle)

/-! ## Whole numbers -/

/-- The greatest number with the given number of binary digits. -/
def greatest (digits : Nat) : Nat := Nat.pow 2 digits - 1

namespace Integer

/-- The value of a digit in the given base. -/
def digit? (base : Nat) (c : Char) : Option Nat := do
  let n ← Yaml.Scalar.hexValue? c
  if n < base then some n else none

/-- The number that `t` spells in the given base, at least one digit. -/
def magnitude? (base : Nat) (t : Text) : Option Nat :=
  if t = [] then none
  else t.foldl (fun n c => do return (← n) * base + (← digit? base c)) (some 0)

/-- Several digits with a zero in front, which is no number. -/
def isPadded (t : Text) : Bool :=
  match t with
  | '0' :: d :: more => (d :: more).all Char.isDigit
  | _ => false

/-- `t` without one sign in front. -/
def unsigned : Text → Text
  | '-' :: t => t
  | '+' :: t => t
  | t => t

/-- The magnitude after a sign: decimal, or in another base after `0x`, `0o` or `0b`. -/
def based? (t : Text) : Option Nat :=
  let inBase := match t with
    | '0' :: 'x' :: ds => magnitude? 16 ds
    | '0' :: 'o' :: ds => magnitude? 8 ds
    | '0' :: 'b' :: ds => magnitude? 2 ds
    | _ => none
  inBase.or (if isPadded t then none else magnitude? 10 t)

/-- A number without a sign, or with a plus sign. -/
def natural? (t : Text) : Option Nat :=
  match t with
  | '+' :: t => based? t
  | t => based? t

/-- The magnitude of a number with a minus sign. -/
def negated? (t : Text) : Option Nat :=
  match t with
  | '-' :: t => based? t
  | _ => none

end Integer

/-! ## What a scalar stands for -/

/-- What a scalar stands for. A minus sign makes a number signed even if it is zero. -/
inductive Meaning where
  | nothing
  | truth (value : Bool)
  | natural (value : Nat)
  | negated (magnitude : Nat)
  | decimal (value : Binary64)
  | infinite (negative : Bool)
  | undefined
  | text (value : Text)
  deriving DecidableEq

namespace Meaning

/-- The spellings of nothing. -/
def isNothing (t : Text) : Bool :=
  t = "null".toList || t = "Null".toList || t = "NULL".toList || t = "~".toList

/-- The spellings of truth values. -/
def truth? (t : Text) : Option Bool :=
  if t = "true".toList || t = "True".toList || t = "TRUE".toList then some true
  else if t = "false".toList || t = "False".toList || t = "FALSE".toList then some false
  else none

/-- A whole number that fits into 128 bits. -/
def integer? (t : Text) : Option Meaning :=
  match Integer.natural? t, Integer.negated? t with
  | some n, _ => if n ≤ greatest 128 then some (.natural n) else none
  | none, some n => if n ≤ greatest 127 + 1 then some (.negated n) else none
  | none, none => none

/-- A number with a point, or beyond all numbers. -/
def decimal? (t : Text) : Option Meaning :=
  let infinities := [".inf", ".Inf", ".INF"].map String.toList
  let plain := match t with
    | '+' :: t => t
    | t => t
  let doubleSign := match t with
    | '+' :: c :: _ => c = '+' || c = '-'
    | _ => false
  if doubleSign then none
  else if infinities.contains plain then some (.infinite false)
  else if infinities.any fun i => t = '-' :: i then some (.infinite true)
  else if [".nan", ".NaN", ".NAN"].any fun s => t = s.toList then some .undefined
  else (Binary64.ofText? plain).map .decimal

/-- What a scalar without quotes stands for. -/
def ofPlain (t : Text) : Meaning :=
  if t = [] || isNothing t then .nothing
  else
    match truth? t with
    | some b => .truth b
    | none =>
      match integer? t with
      | some m => m
      | none =>
        if Integer.isPadded (Integer.unsigned t) then .text t else (decimal? t).getD (.text t)

/-- What was found, in words. -/
def description : Meaning → Text
  | .nothing => "unit value".toList
  | .truth b => "boolean `".toList ++ (if b then "true" else "false").toList ++ ['`']
  | .natural n =>
    "integer `".toList ++ Text.ofNat n ++ ['`'] ++
      (if n ≤ greatest 64 then [] else " as u128".toList)
  | .negated n =>
    "integer `".toList ++ (if n = 0 then [] else ['-']) ++ Text.ofNat n ++ ['`'] ++
      (if n ≤ greatest 63 + 1 then [] else " as i128".toList)
  | .decimal x => "floating point `".toList ++ x.text ++ ['`']
  | .infinite negative =>
    (if negative then "floating point `-inf`" else "floating point `inf`").toList
  | .undefined => "floating point `NaN`".toList
  | .text t => "string ".toList ++ Quoted.text t

end Meaning

/-! ## Data -/

/-- A key or a value in a document. -/
inductive Datum where
  | scalar (tag : Option Text) (style : ScalarStyle) (value : Text)
  | sequence
  | mapping
  deriving DecidableEq

/-- A datum that is not what was asked for: what it is, and what was asked for. -/
structure Mismatch where
  /-- Whether the kind is right and only the value is not. -/
  ofValue : Bool
  found : Text
  expected : String
  deriving DecidableEq

/-- The words for a mismatch. -/
def Mismatch.message (m : Mismatch) : Text :=
  (if m.ofValue then "invalid value: " else "invalid type: ").toList ++ m.found ++
    ", expected ".toList ++ m.expected.toList

namespace Datum

/-- The full name of a common kind. -/
def commonTag (name : String) : Text := "tag:yaml.org,2002:".toList ++ name.toList

/-- What a scalar is taken for where it does not fit: its tag counts, then its spelling. -/
def meaning (tag : Option Text) (style : ScalarStyle) (value : Text) : Meaning ⊕ String :=
  let plain := if style = .plain then Meaning.ofPlain value else .text value
  match tag with
  | none => .inl plain
  | some tag =>
    if tag = commonTag "bool" then
      ((Meaning.truth? value).map fun b => Sum.inl (Meaning.truth b)).getD (.inr "a boolean")
    else if tag = commonTag "int" then
      ((Meaning.integer? value).map Sum.inl).getD (.inr "an integer")
    else if tag = commonTag "float" then
      ((Meaning.decimal? value).map Sum.inl).getD (.inr "a float")
    else if tag = commonTag "null" then
      if Meaning.isNothing value then .inl .nothing else .inr "null"
    else if tag.head? = some '!' then .inl plain
    else .inl (.text value)

/-- The mismatch of a datum with what was asked for. -/
def mismatch (d : Datum) (expected : String) : Mismatch :=
  match d with
  | .sequence => ⟨false, "sequence".toList, expected⟩
  | .mapping => ⟨false, "map".toList, expected⟩
  | .scalar tag style value =>
    match meaning tag style value with
    | .inl m => ⟨false, m.description, expected⟩
    | .inr wanted => ⟨true, (Meaning.text value).description, wanted⟩

/-- Whether a scalar may be read as the kind with the given tag: it has no quotes, or is a literal
block with that tag. -/
def isBare (tag : Option Text) (style : ScalarStyle) (kind : String) : Bool :=
  style = .plain || (style = .literal && tag = some (commonTag kind))

/-- A datum as text: any scalar is. -/
def asText (expected : String) : Datum → Except Mismatch Text
  | .scalar _ _ value => .ok value
  | d => .error (d.mismatch expected)

/-- A datum as a whole number up to `limit`, which has at most 64 binary digits. -/
def asNumber (limit : Nat) (expected : String) : Datum → Except Mismatch Nat
  | .scalar tag style value =>
    let d : Datum := .scalar tag style value
    match Integer.natural? value with
    | some n =>
      if isBare tag style "int" && n ≤ greatest 64 then
        if n ≤ limit then .ok n else .error ⟨true, (Meaning.natural n).description, expected⟩
      else .error (d.mismatch expected)
    | none => .error (d.mismatch expected)
  | d => .error (d.mismatch expected)

/-- A datum as a truth value. -/
def asTruth (expected : String) : Datum → Except Mismatch Bool
  | .scalar tag style value =>
    let d : Datum := .scalar tag style value
    match Meaning.truth? value with
    | some b => if isBare tag style "bool" then .ok b else .error (d.mismatch expected)
    | none => .error (d.mismatch expected)
  | d => .error (d.mismatch expected)

end Datum

end Marginalia
