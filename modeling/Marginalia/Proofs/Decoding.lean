import Marginalia.Text.Utf8
import Mathlib.Algebra.Ring.Nat
import Mathlib.Data.List.Basic
import Mathlib.Tactic.SplitIfs

/-!
# Decoding octets

The octets that spell a character are of four kinds (`Spells`). They are what the character is
encoded as (`Spells.encodeChar`), and a decoder reads the character from them
(`Spells.foldl_read`); a decoder that never put a replacement has read nothing else
(`exists_spells_of_sound`). So octets are decoded to a text exactly if they are the octets of the
text (`decode?_eq_some_iff`).

What is decoded with replacements still shows where the octets of ASCII characters stand, since no
such octet belongs to a pending character (`Pending.Multi`). Such a character is shown only where
its octet stands (`mem_of_mem_decodeLossy`), and its octet cuts octets and what is shown of them
alike (`decodeLossy_append_cons`).
-/

namespace Marginalia.Utf8

/-- Octets, by their numbers, that spell the character with a number. -/
inductive Spells : List Nat → Nat → Prop
  | one {a : Nat} (ha : a < 0x80) : Spells [a] a
  | two {a b : Nat} (ha : 0xC2 ≤ a ∧ a < 0xE0) (hb : 0x80 ≤ b ∧ b ≤ 0xBF) :
    Spells [a, b] ((a - 0xC0) * 64 + (b - 0x80))
  | three {a b c : Nat} (ha : 0xE0 ≤ a ∧ a < 0xF0) (hb : 0x80 ≤ b ∧ b ≤ 0xBF)
    (hlow : a = 0xE0 → 0xA0 ≤ b) (hhigh : a = 0xED → b ≤ 0x9F) (hc : 0x80 ≤ c ∧ c ≤ 0xBF) :
    Spells [a, b, c] (((a - 0xE0) * 64 + (b - 0x80)) * 64 + (c - 0x80))
  | four {a b c d : Nat} (ha : 0xF0 ≤ a ∧ a < 0xF5) (hb : 0x80 ≤ b ∧ b ≤ 0xBF)
    (hlow : a = 0xF0 → 0x90 ≤ b) (hhigh : a = 0xF4 → b ≤ 0x8F) (hc : 0x80 ≤ c ∧ c ≤ 0xBF)
    (hd : 0x80 ≤ d ∧ d ≤ 0xBF) :
    Spells [a, b, c, d]
      ((((a - 0xF0) * 64 + (b - 0x80)) * 64 + (c - 0x80)) * 64 + (d - 0x80))

/-! ## Encoding -/

theorem toNat_ofNat {n : Nat} (h : n.isValidChar) : (Char.ofNat n).toNat = n := by
  rw [Char.ofNat, dif_pos h]
  rfl

/-- Every character is spelled by some octets. -/
theorem exists_spells (c : Char) : ∃ numbers, Spells numbers c.toNat := by
  have hvalid : c.toNat < 0xD800 ∨ 0xDFFF < c.toNat ∧ c.toNat < 0x110000 := c.valid
  generalize c.toNat = v at hvalid
  by_cases h1 : v < 0x80
  · exact ⟨_, .one h1⟩
  by_cases h2 : v < 0x800
  · have h := @Spells.two (0xC0 + v / 64) (0x80 + v % 64) (by omega) (by omega)
    rw [show (0xC0 + v / 64 - 0xC0) * 64 + (0x80 + v % 64 - 0x80) = v by omega] at h
    exact ⟨_, h⟩
  by_cases h3 : v < 0x10000
  · have h := @Spells.three (0xE0 + v / 4096) (0x80 + v / 64 % 64) (0x80 + v % 64) (by omega)
      (by omega) (by omega) (by omega) (by omega)
    rw [show ((0xE0 + v / 4096 - 0xE0) * 64 + (0x80 + v / 64 % 64 - 0x80)) * 64 +
      (0x80 + v % 64 - 0x80) = v by omega] at h
    exact ⟨_, h⟩
  · have h := @Spells.four (0xF0 + v / 262144) (0x80 + v / 4096 % 64) (0x80 + v / 64 % 64)
      (0x80 + v % 64) (by omega) (by omega) (by omega) (by omega) (by omega) (by omega)
    rw [show (((0xF0 + v / 262144 - 0xF0) * 64 + (0x80 + v / 4096 % 64 - 0x80)) * 64 +
      (0x80 + v / 64 % 64 - 0x80)) * 64 + (0x80 + v % 64 - 0x80) = v by omega] at h
    exact ⟨_, h⟩

namespace Spells

variable {numbers : List Nat} {n : Nat}

theorem isValidChar (h : Spells numbers n) : n.isValidChar := by
  unfold Nat.isValidChar
  cases h <;> omega

/-- A character is encoded as the octets that spell it. -/
theorem encodeChar (h : Spells numbers n) :
    String.utf8EncodeChar (Char.ofNat n) = numbers.map UInt8.ofNat := by
  have hn : (Char.ofNat n).val.toNat = n := toNat_ofNat h.isValidChar
  unfold String.utf8EncodeChar
  rw [hn]
  cases h with
  | one ha => rw [if_pos (by omega)]; rfl
  | @two a b ha hb =>
    rw [if_neg (by omega), if_pos (by omega),
      show ((a - 0xC0) * 64 + (b - 0x80)) / 64 % 32 + 192 = a by omega,
      show ((a - 0xC0) * 64 + (b - 0x80)) % 64 + 128 = b by omega]
    rfl
  | @three a b c ha hb hlow hhigh hc =>
    generalize hn : ((a - 0xE0) * 64 + (b - 0x80)) * 64 + (c - 0x80) = n
    rw [if_neg (by omega), if_neg (by omega), if_pos (by omega),
      show n / 4096 % 16 + 224 = a by omega, show n / 64 % 64 + 128 = b by omega,
      show n % 64 + 128 = c by omega]
    rfl
  | @four a b c d ha hb hlow hhigh hc hd =>
    generalize hn : (((a - 0xF0) * 64 + (b - 0x80)) * 64 + (c - 0x80)) * 64 + (d - 0x80) = n
    rw [if_neg (by omega), if_neg (by omega), if_neg (by omega),
      show n / 262144 % 8 + 240 = a by omega, show n / 4096 % 64 + 128 = b by omega,
      show n / 64 % 64 + 128 = c by omega, show n % 64 + 128 = d by omega]
    rfl

end Spells

/-! ## Reading a character -/

theorem lead_one {a : Nat} (h : a < 0x80) : lead a = some ⟨0, 0x80, 0xBF, a⟩ := if_pos h

theorem lead_two {a : Nat} (h : 0xC2 ≤ a ∧ a < 0xE0) :
    lead a = some ⟨1, 0x80, 0xBF, a - 0xC0⟩ := by
  rw [lead, if_neg (by omega), if_neg (by omega), if_pos h.2]

theorem lead_three {a : Nat} (h : 0xE0 ≤ a ∧ a < 0xF0) :
    lead a =
      some ⟨2, if a = 0xE0 then 0xA0 else 0x80, if a = 0xED then 0x9F else 0xBF, a - 0xE0⟩ := by
  rw [lead, if_neg (by omega), if_neg (by omega), if_neg (by omega), if_pos h.2]

theorem lead_four {a : Nat} (h : 0xF0 ≤ a ∧ a < 0xF5) :
    lead a =
      some ⟨3, if a = 0xF0 then 0x90 else 0x80, if a = 0xF4 then 0x8F else 0xBF, a - 0xF0⟩ := by
  rw [lead, if_neg (by omega), if_neg (by omega), if_neg (by omega), if_neg (by omega), if_pos h.2]

section Read

variable {output : Text} {sound : Bool} {owed low high value b : Nat}

theorem read_lead {p : Pending} (hb : b < 256) (h : lead b = some p) (howed : p.owed ≠ 0) :
    Decoder.read ⟨none, output, sound⟩ (UInt8.ofNat b) = ⟨some p, output, sound⟩ := by
  simp only [Decoder.read, Decoder.start, UInt8.toNat_ofNat_of_lt' hb, h, if_neg howed]

theorem read_ascii (h : b < 0x80) :
    Decoder.read ⟨none, output, sound⟩ (UInt8.ofNat b) =
      ⟨none, Char.ofNat b :: output, sound⟩ := by
  have hb : b < UInt8.size := Nat.lt_trans h (by decide)
  simp only [Decoder.read, Decoder.start, UInt8.toNat_ofNat_of_lt' hb, lead_one h, if_true]

theorem step_of_bounds (h : low ≤ b ∧ b ≤ high) :
    Pending.step ⟨owed, low, high, value⟩ b =
      some ⟨owed - 1, 0x80, 0xBF, value * 64 + (b - 0x80)⟩ := if_pos h

theorem read_next (hb : b < 256) (h : low ≤ b ∧ b ≤ high) :
    Decoder.read ⟨some ⟨owed + 2, low, high, value⟩, output, sound⟩ (UInt8.ofNat b) =
      ⟨some ⟨owed + 1, 0x80, 0xBF, value * 64 + (b - 0x80)⟩, output, sound⟩ := by
  simp only [Decoder.read, UInt8.toNat_ofNat_of_lt' hb, step_of_bounds h]
  exact if_neg (Nat.succ_ne_zero owed)

theorem read_last (hb : b < 256) (h : low ≤ b ∧ b ≤ high) :
    Decoder.read ⟨some ⟨1, low, high, value⟩, output, sound⟩ (UInt8.ofNat b) =
      ⟨none, Char.ofNat (value * 64 + (b - 0x80)) :: output, sound⟩ := by
  simp only [Decoder.read, UInt8.toNat_ofNat_of_lt' hb, step_of_bounds h]
  exact if_pos trivial

end Read

/-- A decoder reads a character from the octets that spell it. -/
theorem Spells.foldl_read {numbers : List Nat} {n : Nat} (h : Spells numbers n) (output : Text)
    (sound : Bool) :
    (numbers.map UInt8.ofNat).foldl Decoder.read ⟨none, output, sound⟩ =
      ⟨none, Char.ofNat n :: output, sound⟩ := by
  cases h with
  | one ha => exact read_ascii ha
  | two ha hb =>
    simp only [List.map_cons, List.map_nil, List.foldl_cons, List.foldl_nil]
    rw [read_lead (by omega) (lead_two ha) (Nat.succ_ne_zero 0), read_last (by omega) hb]
  | @three a b c ha hb hlow hhigh hc =>
    have hbounds : (if a = 0xE0 then 0xA0 else 0x80) ≤ b ∧
        b ≤ if a = 0xED then 0x9F else 0xBF := by
      split_ifs <;> omega
    simp only [List.map_cons, List.map_nil, List.foldl_cons, List.foldl_nil]
    rw [read_lead (by omega) (lead_three ha) (Nat.succ_ne_zero 1), read_next (by omega) hbounds,
      read_last (by omega) hc]
  | @four a b c d ha hb hlow hhigh hc hd =>
    have hbounds : (if a = 0xF0 then 0x90 else 0x80) ≤ b ∧
        b ≤ if a = 0xF4 then 0x8F else 0xBF := by
      split_ifs <;> omega
    simp only [List.map_cons, List.map_nil, List.foldl_cons, List.foldl_nil]
    rw [read_lead (by omega) (lead_four ha) (Nat.succ_ne_zero 2), read_next (by omega) hbounds,
      read_next (by omega) hc, read_last (by omega) hd]

theorem foldl_read_encodeChar (c : Char) (output : Text) (sound : Bool) :
    (String.utf8EncodeChar c).foldl Decoder.read ⟨none, output, sound⟩ =
      ⟨none, c :: output, sound⟩ := by
  obtain ⟨numbers, h⟩ := exists_spells c
  have hread := h.foldl_read output sound
  rwa [← h.encodeChar, Char.ofNat_toNat] at hread

theorem foldl_read_encode (t : Text) (output : Text) (sound : Bool) :
    (encode t).foldl Decoder.read ⟨none, output, sound⟩ =
      ⟨none, t.reverse ++ output, sound⟩ := by
  induction t generalizing output with
  | nil => rfl
  | cons c t ih =>
    rw [encode_cons, List.foldl_append, foldl_read_encodeChar, ih, List.reverse_cons,
      List.append_assoc, List.singleton_append]

theorem decoder_encode (t : Text) : decoder (encode t) = ⟨none, t.reverse, true⟩ := by
  rw [decoder, foldl_read_encode, List.append_nil]
  rfl

theorem decode?_encode (t : Text) : decode? (encode t) = some t := by
  rw [decode?, decoder_encode]
  exact congrArg some (List.reverse_reverse t)

@[simp] theorem decodeLossy_encode (t : Text) : decodeLossy (encode t) = t := by
  rw [decodeLossy, decoder_encode, List.reverse_reverse]

theorem encode_injective : Function.Injective encode := fun s t h => by
  rw [← decodeLossy_encode s, h, decodeLossy_encode]

theorem decodeLossy_of_decode? {octets : Octets} {t : Text} (h : decode? octets = some t) :
    decodeLossy octets = t := by
  unfold decode? at h
  dsimp only at h
  split_ifs at h
  exact Option.some.inj h

/-! ## What a decoder accepts -/

theorem sound_start {d : Decoder} (h : d.sound = false) (b : Nat) : (d.start b).sound = false := by
  unfold Decoder.start
  split
  · rfl
  · split_ifs <;> exact h

/-- What was replaced stays replaced. -/
theorem sound_read {d : Decoder} (h : d.sound = false) (octet : UInt8) :
    (d.read octet).sound = false := by
  unfold Decoder.read
  dsimp only
  split
  · exact sound_start h _
  · split
    · exact sound_start rfl _
    · split_ifs <;> exact h

theorem sound_foldl_read {d : Decoder} (h : d.sound = false) (octets : Octets) :
    (octets.foldl Decoder.read d).finish.sound = false := by
  induction octets generalizing d with
  | nil =>
    rw [List.foldl_nil, Decoder.finish]
    split
    · exact h
    · rfl
  | cons octet octets ih => exact ih (sound_read h octet)

/-- Behind an octet that leaves a character pending there is one between its bounds. -/
theorem exists_next_of_sound {p : Pending} {output : Text} {octets : Octets}
    (h : (octets.foldl Decoder.read ⟨some p, output, true⟩).finish.sound = true) :
    ∃ b more, octets = UInt8.ofNat b :: more ∧ b < 256 ∧ p.low ≤ b ∧ b ≤ p.high := by
  cases octets with
  | nil => cases h
  | cons octet more =>
    refine ⟨octet.toNat, more, by rw [UInt8.ofNat_toNat], octet.toNat_lt, ?_⟩
    by_contra hbounds
    have hstep : p.step octet.toNat = none := if_neg hbounds
    have hread : (Decoder.read ⟨some p, output, true⟩ octet).sound = false := by
      simp only [Decoder.read, hstep]
      exact sound_start rfl _
    rw [List.foldl_cons, sound_foldl_read hread more] at h
    cases h

/-- A decoder that never replaces finds a character first of all. -/
theorem exists_spells_of_sound {octet : UInt8} {octets : Octets} {output : Text}
    (h : ((octet :: octets).foldl Decoder.read ⟨none, output, true⟩).finish.sound = true) :
    ∃ numbers n more, Spells numbers n ∧ octet :: octets = numbers.map UInt8.ofNat ++ more := by
  obtain ⟨a, ha, rfl⟩ : ∃ a, a < 256 ∧ UInt8.ofNat a = octet :=
    ⟨octet.toNat, octet.toNat_lt, UInt8.ofNat_toNat⟩
  rw [List.foldl_cons] at h
  cases hlead : lead a with
  | none =>
    have hread : (Decoder.read ⟨none, output, true⟩ (UInt8.ofNat a)).sound = false := by
      simp only [Decoder.read, Decoder.start, UInt8.toNat_ofNat_of_lt' ha, hlead]
    rw [sound_foldl_read hread octets] at h
    cases h
  | some p =>
    by_cases h1 : a < 0x80
    · exact ⟨[a], a, octets, .one h1, rfl⟩
    by_cases h2 : a < 0xC2
    · rw [lead, if_neg h1, if_pos h2] at hlead
      cases hlead
    by_cases h3 : a < 0xE0
    · rw [read_lead ha (lead_two ⟨by omega, h3⟩) (Nat.succ_ne_zero 0)] at h
      obtain ⟨b, more, rfl, -, hb⟩ := exists_next_of_sound h
      exact ⟨[a, b], _, more, .two ⟨by omega, h3⟩ hb, rfl⟩
    by_cases h4 : a < 0xF0
    · rw [read_lead ha (lead_three ⟨by omega, h4⟩) (Nat.succ_ne_zero 1)] at h
      obtain ⟨b, more, rfl, hb', hb⟩ := exists_next_of_sound h
      rw [List.foldl_cons, read_next hb' hb] at h
      obtain ⟨c, more, rfl, -, hc⟩ := exists_next_of_sound h
      dsimp only at hb
      refine ⟨[a, b, c], _, more, .three ⟨by omega, h4⟩ ?_ ?_ ?_ hc, rfl⟩
      all_goals split_ifs at hb <;> omega
    by_cases h5 : a < 0xF5
    · rw [read_lead ha (lead_four ⟨by omega, h5⟩) (Nat.succ_ne_zero 2)] at h
      obtain ⟨b, more, rfl, hb', hb⟩ := exists_next_of_sound h
      rw [List.foldl_cons, read_next hb' hb] at h
      obtain ⟨c, more, rfl, hc', hc⟩ := exists_next_of_sound h
      rw [List.foldl_cons, read_next hc' hc] at h
      obtain ⟨d, more, rfl, -, hd⟩ := exists_next_of_sound h
      dsimp only at hb
      refine ⟨[a, b, c, d], _, more, .four ⟨by omega, h5⟩ ?_ ?_ ?_ hc hd, rfl⟩
      all_goals split_ifs at hb <;> omega
    · rw [lead, if_neg h1, if_neg h2, if_neg h3, if_neg h4, if_neg h5] at hlead
      cases hlead

/-- Octets of which nothing is replaced are those of a text. -/
theorem exists_encode_of_sound (octets : Octets) (output : Text)
    (h : (octets.foldl Decoder.read ⟨none, output, true⟩).finish.sound = true) :
    ∃ t, octets = encode t := by
  match octets with
  | [] => exact ⟨[], rfl⟩
  | octet :: octets =>
    obtain ⟨numbers, n, more, hspells, hmore⟩ := exists_spells_of_sound h
    have hshorter : more.length < (octet :: octets).length := by
      have hpos : 0 < numbers.length := by cases hspells <;> exact Nat.succ_pos _
      rw [hmore, List.length_append, List.length_map]
      omega
    rw [hmore, List.foldl_append, hspells.foldl_read] at h
    obtain ⟨t, rfl⟩ := exists_encode_of_sound more (Char.ofNat n :: output) h
    exact ⟨Char.ofNat n :: t, by rw [hmore, encode_cons, hspells.encodeChar]⟩
termination_by octets.length
decreasing_by exact hshorter

/-- **Octets are decoded to a text exactly if they are the octets of the text.** -/
theorem decode?_eq_some_iff {octets : Octets} {t : Text} :
    decode? octets = some t ↔ octets = encode t := by
  refine ⟨fun h => ?_, fun h => by rw [h, decode?_encode]⟩
  have hsound : (decoder octets).sound = true := by
    by_contra hsound
    rw [decode?, if_neg hsound] at h
    cases h
  obtain ⟨s, rfl⟩ := exists_encode_of_sound octets [] hsound
  rw [decode?_encode] at h
  rw [Option.some.inj h]

/-! ## ASCII characters among replacements -/

/-- The least number that a pending character may come to. -/
def Pending.least (p : Pending) : Nat := (p.value * 64 + (p.low - 0x80)) * 64 ^ (p.owed - 1)

/-- A pending character is no ASCII character, and no octet of it is one. -/
structure Pending.Multi (p : Pending) : Prop where
  owed : 0 < p.owed
  low : 0x80 ≤ p.low
  least : 0x80 ≤ p.least

theorem multi_of_lead {a : Nat} {p : Pending} (h : lead a = some p) (howed : p.owed ≠ 0) :
    p.Multi := by
  unfold lead at h
  split_ifs at h with h1 h2
  · cases h
    exact absurd rfl howed
  all_goals
    cases h
    refine ⟨Nat.succ_pos _, by simp, ?_⟩
    simp only [Pending.least, Nat.reduceSub, Nat.reducePow]
    omega

theorem step_eq_some {p q : Pending} {b : Nat} (h : p.step b = some q) :
    (p.low ≤ b ∧ b ≤ p.high) ∧ q = ⟨p.owed - 1, 0x80, 0xBF, p.value * 64 + (b - 0x80)⟩ := by
  unfold Pending.step at h
  split_ifs at h with hbounds
  exact ⟨hbounds, (Option.some.inj h).symm⟩

/-- The next octet of a pending character leaves one, or is its last. -/
theorem Pending.Multi.step {p q : Pending} (h : p.Multi) {b : Nat} (hstep : p.step b = some q) :
    0x80 ≤ b ∧ (q.owed ≠ 0 → q.Multi) ∧ (q.owed = 0 → 0x80 ≤ q.value) := by
  obtain ⟨⟨hb, -⟩, rfl⟩ := step_eq_some hstep
  have hlow := h.low
  have hvalue : p.value * 64 + (p.low - 0x80) ≤ p.value * 64 + (b - 0x80) := by omega
  have hleast : 0x80 ≤ (p.value * 64 + (b - 0x80)) * 64 ^ (p.owed - 1) :=
    Nat.le_trans h.least (Nat.mul_le_mul_right _ hvalue)
  refine ⟨Nat.le_trans hlow hb, fun howed => ⟨Nat.pos_of_ne_zero howed, Nat.le_refl _, ?_⟩,
    fun howed => ?_⟩
  · obtain ⟨n, hn⟩ := Nat.exists_eq_succ_of_ne_zero howed
    have hn : p.owed - 1 = n + 1 := hn
    rw [hn, Nat.pow_succ', ← Nat.mul_assoc] at hleast
    simpa only [Pending.least, hn, Nat.sub_self, Nat.add_zero, Nat.add_sub_cancel] using hleast
  · have howed : p.owed - 1 = 0 := howed
    rwa [howed, Nat.pow_zero, Nat.mul_one] at hleast

/-- A decoder that waits for no octet of an ASCII character. -/
def Decoder.Proper (d : Decoder) : Prop := ∀ p, d.pending = some p → p.Multi

theorem proper_initial : Decoder.Proper ⟨none, [], true⟩ := by
  intro p hp
  cases hp

theorem proper_start {output : Text} {sound : Bool} (b : Nat) :
    (Decoder.start ⟨none, output, sound⟩ b).Proper := by
  intro p hp
  unfold Decoder.start at hp
  split at hp
  · cases hp
  · next q hlead =>
    split_ifs at hp with howed
    cases hp
    exact multi_of_lead hlead howed

theorem Decoder.Proper.read {d : Decoder} (h : d.Proper) (octet : UInt8) :
    (d.read octet).Proper := by
  obtain ⟨pending, output, sound⟩ := d
  cases pending with
  | none => exact proper_start octet.toNat
  | some p =>
    unfold Decoder.read
    dsimp only
    cases hstep : p.step octet.toNat with
    | none => exact proper_start octet.toNat
    | some q =>
      intro r hr
      dsimp only at hr
      split_ifs at hr with howed
      cases hr
      exact ((h p rfl).step hstep).2.1 howed

/-! ## Where ASCII characters are shown -/

/-- A character of one octet. Zero is left out, since it stands for numbers of no character. -/
def IsAscii (c : Char) : Prop := 0 < c.toNat ∧ c.toNat < 0x80

instance (c : Char) : Decidable (IsAscii c) := instDecidableAnd

section Shown

variable {c : Char} {d : Decoder}

theorem IsAscii.ne_replacement (hc : IsAscii c) : c ≠ replacement := by
  rintro rfl
  exact absurd hc (by decide)

/-- A greater number is that of another character, or of none. -/
theorem IsAscii.ne_ofNat (hc : IsAscii c) {n : Nat} (h : 0x80 ≤ n) : c ≠ Char.ofNat n := by
  rintro rfl
  obtain ⟨hpos, hlt⟩ := hc
  by_cases hvalid : n.isValidChar
  · rw [toNat_ofNat hvalid] at hlt
    omega
  · rw [Char.ofNat, dif_neg hvalid] at hpos
    exact absurd hpos (by decide)

theorem proper_foldl_read (octets : Octets) :
    (octets.foldl Decoder.read ⟨none, [], true⟩).Proper := by
  exact List.foldlRecOn octets Decoder.read proper_initial fun d hd octet _ => hd.read octet

theorem mem_output_start (hc : IsAscii c) {output : Text} {sound : Bool} {octet : UInt8}
    (h : c ∈ (Decoder.start ⟨none, output, sound⟩ octet.toNat).output) :
    c ∈ output ∨ octet = UInt8.ofNat c.toNat := by
  by_cases hascii : octet.toNat < 0x80
  · unfold Decoder.start at h
    rw [lead_one hascii] at h
    rcases List.mem_cons.1 h with rfl | h
    · have hvalid : octet.toNat.isValidChar := Or.inl (Nat.lt_trans hascii (by decide))
      rw [toNat_ofNat hvalid, UInt8.ofNat_toNat]
      exact Or.inr rfl
    · exact Or.inl h
  · unfold Decoder.start at h
    cases hlead : lead octet.toNat with
    | none =>
      rw [hlead] at h
      exact Or.inl ((List.mem_cons.1 h).resolve_left hc.ne_replacement)
    | some p =>
      have howed : p.owed ≠ 0 := by
        unfold lead at hlead
        split_ifs at hlead
        all_goals
          cases hlead
          exact Nat.succ_ne_zero _
      rw [hlead] at h
      dsimp only at h
      rw [if_neg howed] at h
      exact Or.inl h

theorem mem_output_read (hc : IsAscii c) (hd : d.Proper) {octet : UInt8}
    (h : c ∈ (d.read octet).output) : c ∈ d.output ∨ octet = UInt8.ofNat c.toNat := by
  obtain ⟨pending, output, sound⟩ := d
  cases pending with
  | none => exact mem_output_start hc h
  | some p =>
    unfold Decoder.read at h
    dsimp only at h
    cases hstep : p.step octet.toNat with
    | none =>
      rw [hstep] at h
      rcases mem_output_start hc h with h | h
      · exact Or.inl ((List.mem_cons.1 h).resolve_left hc.ne_replacement)
      · exact Or.inr h
    | some q =>
      rw [hstep] at h
      dsimp only at h
      split_ifs at h with howed
      · have hvalue := ((hd p rfl).step hstep).2.2 howed
        exact Or.inl ((List.mem_cons.1 h).resolve_left (hc.ne_ofNat hvalue))
      · exact Or.inl h

theorem mem_output_foldl (hc : IsAscii c) (hd : d.Proper) {octets : Octets}
    (h : c ∈ (octets.foldl Decoder.read d).finish.output) :
    c ∈ d.output ∨ UInt8.ofNat c.toNat ∈ octets := by
  induction octets generalizing d with
  | nil =>
    rw [List.foldl_nil, Decoder.finish] at h
    split at h
    · exact Or.inl h
    · exact Or.inl ((List.mem_cons.1 h).resolve_left hc.ne_replacement)
  | cons octet octets ih =>
    rcases ih (hd.read octet) h with h | h
    · rcases mem_output_read hc hd h with h | rfl
      · exact Or.inl h
      · exact Or.inr List.mem_cons_self
    · exact Or.inr (List.mem_cons_of_mem _ h)

/-- An ASCII character is shown only where its octet stands. -/
theorem mem_of_mem_decodeLossy (hc : IsAscii c) {octets : Octets} (h : c ∈ decodeLossy octets) :
    UInt8.ofNat c.toNat ∈ octets :=
  (mem_output_foldl hc proper_initial (List.mem_reverse.1 h)).resolve_left List.not_mem_nil

/-- What an octet does to a decoder does not depend on what was put out before. -/
theorem exists_read (pending : Option Pending) (octet : UInt8) :
    ∃ after shown, ∀ output sound, ∃ sound',
      Decoder.read ⟨pending, output, sound⟩ octet = ⟨after, shown ++ output, sound'⟩ := by
  have hstart : ∀ b, ∃ after shown, ∀ output sound, ∃ sound',
      Decoder.start ⟨none, output, sound⟩ b = ⟨after, shown ++ output, sound'⟩ := by
    intro b
    unfold Decoder.start
    cases lead b with
    | none => exact ⟨none, [replacement], fun _ _ => ⟨false, rfl⟩⟩
    | some p =>
      dsimp only
      split_ifs
      · exact ⟨none, [Char.ofNat p.value], fun _ sound => ⟨sound, rfl⟩⟩
      · exact ⟨some p, [], fun _ sound => ⟨sound, rfl⟩⟩
  unfold Decoder.read
  cases pending with
  | none => exact hstart octet.toNat
  | some p =>
    dsimp only
    cases p.step octet.toNat with
    | none =>
      obtain ⟨after, shown, h⟩ := hstart octet.toNat
      refine ⟨after, shown ++ [replacement], fun output _ => ?_⟩
      obtain ⟨sound', h⟩ := h (replacement :: output) false
      exact ⟨sound', by rw [h, List.append_assoc, List.singleton_append]⟩
    | some q =>
      dsimp only
      split_ifs
      · exact ⟨none, [Char.ofNat q.value], fun _ sound => ⟨sound, rfl⟩⟩
      · exact ⟨some q, [], fun _ sound => ⟨sound, rfl⟩⟩

/-- What was put out before stays behind what is put out later. -/
theorem output_foldl_read (pending : Option Pending) (output : Text) (sound : Bool)
    (octets : Octets) :
    (octets.foldl Decoder.read ⟨pending, output, sound⟩).finish.output =
      (octets.foldl Decoder.read ⟨pending, [], true⟩).finish.output ++ output := by
  induction octets generalizing pending output sound with
  | nil => cases pending <;> rfl
  | cons octet octets ih =>
    obtain ⟨after, shown, h⟩ := exists_read pending octet
    obtain ⟨sound₁, h₁⟩ := h output sound
    obtain ⟨sound₂, h₂⟩ := h [] true
    rw [List.foldl_cons, List.foldl_cons, h₁, h₂, ih after (shown ++ output), ih after (shown ++ []),
      List.append_nil, List.append_assoc]

/-- The octet of an ASCII character ends what was pending. -/
theorem read_of_isAscii (hc : IsAscii c) (hd : d.Proper) :
    d.read (UInt8.ofNat c.toNat) = ⟨none, c :: d.finish.output, d.finish.sound⟩ := by
  obtain ⟨pending, output, sound⟩ := d
  cases pending with
  | none =>
    rw [read_ascii hc.2, Char.ofNat_toNat]
    rfl
  | some p =>
    have hoctet : (UInt8.ofNat c.toNat).toNat = c.toNat :=
      UInt8.toNat_ofNat_of_lt' (Nat.lt_trans hc.2 (by decide))
    have hstep : p.step c.toNat = none := by
      refine if_neg fun hbounds => ?_
      exact absurd (Nat.le_trans (hd p rfl).low hbounds.1) (Nat.not_le.2 hc.2)
    unfold Decoder.read
    rw [hoctet]
    dsimp only
    rw [hstep]
    dsimp only [Decoder.start]
    rw [lead_one hc.2]
    dsimp only
    rw [if_pos rfl, Char.ofNat_toNat]
    rfl

/-- The octet of an ASCII character cuts octets and what is shown of them alike. -/
theorem decodeLossy_append_cons (hc : IsAscii c) (front rest : Octets) :
    decodeLossy (front ++ UInt8.ofNat c.toNat :: rest) =
      decodeLossy front ++ c :: decodeLossy rest := by
  have hproper : (front.foldl Decoder.read ⟨none, [], true⟩).Proper := proper_foldl_read front
  unfold decodeLossy decoder
  rw [List.foldl_append, List.foldl_cons, read_of_isAscii hc hproper, output_foldl_read,
    List.reverse_append, List.reverse_cons, List.append_assoc, List.singleton_append]

/-- The octet of an ASCII character stands among those of a text exactly if the character does. -/
theorem mem_encode_iff (hc : IsAscii c) {t : Text} : UInt8.ofNat c.toNat ∈ encode t ↔ c ∈ t := by
  constructor
  · intro h
    obtain ⟨front, rest, heq⟩ := List.append_of_mem h
    rw [← decodeLossy_encode t, heq, decodeLossy_append_cons hc]
    exact List.mem_append_right _ List.mem_cons_self
  · intro h
    rw [← decodeLossy_encode t] at h
    exact mem_of_mem_decodeLossy hc h

end Shown

end Marginalia.Utf8
