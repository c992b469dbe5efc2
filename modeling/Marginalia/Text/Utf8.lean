import Marginalia.Text.Basic

/-!
# UTF-8

Octets are decoded one at a time. Between octets the decoder knows how many octets the current
character still owes and between which bounds the next one has to lie; the bounds rule out
overlong forms, surrogates and numbers past the last character. `decode?` refuses ill-formed
octets, `decodeLossy` puts the replacement character for each longest run that could still have
become a character.
-/

namespace Marginalia.Utf8

/-- The octets of a text. -/
abbrev Octets := List UInt8

/-- A character begun: the octets it still owes, the bounds of the next one, and the number that
its octets spell so far. -/
structure Pending where
  owed : Nat
  low : Nat
  high : Nat
  value : Nat

/-- What the first octet of a character leaves pending; `none` if no character starts so. -/
def lead (b : Nat) : Option Pending :=
  if b < 0x80 then some ⟨0, 0x80, 0xBF, b⟩
  else if b < 0xC2 then none
  else if b < 0xE0 then some ⟨1, 0x80, 0xBF, b - 0xC0⟩
  else if b < 0xF0 then
    some ⟨2, if b = 0xE0 then 0xA0 else 0x80, if b = 0xED then 0x9F else 0xBF, b - 0xE0⟩
  else if b < 0xF5 then
    some ⟨3, if b = 0xF0 then 0x90 else 0x80, if b = 0xF4 then 0x8F else 0xBF, b - 0xF0⟩
  else none

/-- The pending character after one more octet; `none` if the octet cannot belong to it. -/
def Pending.step (p : Pending) (b : Nat) : Option Pending :=
  if p.low ≤ b ∧ b ≤ p.high then some ⟨p.owed - 1, 0x80, 0xBF, p.value * 64 + (b - 0x80)⟩
  else none

/-- One step of decoding: a character, the replacement for octets that form none, or nothing yet.
The flag says whether octets had to be replaced. -/
structure Decoder where
  pending : Option Pending := none
  output : Text := []
  sound : Bool := true

/-- Where ill-formed octets stood, this character stands. -/
def replacement : Char := '\uFFFD'

/-- Reads `b` as the first octet of a character. -/
def Decoder.start (d : Decoder) (b : Nat) : Decoder :=
  match lead b with
  | none => ⟨none, replacement :: d.output, false⟩
  | some p =>
    if p.owed = 0 then ⟨none, Char.ofNat p.value :: d.output, d.sound⟩
    else ⟨some p, d.output, d.sound⟩

/-- Reads one octet. The output is kept in reverse. -/
def Decoder.read (d : Decoder) (octet : UInt8) : Decoder :=
  let b := octet.toNat
  match d.pending with
  | none => d.start b
  | some p =>
    match p.step b with
    | none => Decoder.start ⟨none, replacement :: d.output, false⟩ b
    | some q =>
      if q.owed = 0 then ⟨none, Char.ofNat q.value :: d.output, d.sound⟩
      else ⟨some q, d.output, d.sound⟩

/-- The decoder at the end of the octets: a character left unfinished is replaced. -/
def Decoder.finish (d : Decoder) : Decoder :=
  match d.pending with
  | none => d
  | some _ => ⟨none, replacement :: d.output, false⟩

/-- The decoder after all of `octets`. -/
def decoder (octets : Octets) : Decoder :=
  Decoder.finish (octets.foldl Decoder.read ⟨none, [], true⟩)

/-- The text that `octets` spell, with replacements where they spell none. -/
def decodeLossy (octets : Octets) : Text := (decoder octets).output.reverse

/-- The text that `octets` spell, if they are well formed throughout. -/
def decode? (octets : Octets) : Option Text :=
  let d := decoder octets
  if d.sound then some d.output.reverse else none

/-- The octets of a text. -/
def encode (t : Text) : Octets := t.flatMap String.utf8EncodeChar

theorem encode_cons (c : Char) (t : Text) : encode (c :: t) = String.utf8EncodeChar c ++ encode t :=
  List.flatMap_cons

theorem encode_append (s t : Text) : encode (s ++ t) = encode s ++ encode t := List.flatMap_append

theorem length_encode (t : Text) : (encode t).length = t.octets := by
  induction t with
  | nil => rfl
  | cons c t ih =>
    rw [encode_cons, List.length_append, String.length_utf8EncodeChar, ih]
    rfl

end Marginalia.Utf8
