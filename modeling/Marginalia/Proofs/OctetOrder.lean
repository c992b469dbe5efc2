import Marginalia.Text.Utf8
import Mathlib.Tactic.SplitIfs

/-!
# The order of octets

Texts are compared by their characters, one after another, which is a linear order
(`Text.compare_eq_compareLex`). The octets of a greater character are greater
(`encodeChar_append_lt`): more of them begin with a greater octet, and of as many the first that
differs decides. So the order of texts is that of their octets (`encode_lt_of_compare`).
-/

namespace Marginalia

open Std (OrientedCmp TransCmp LawfulEqCmp)

/-! ## Texts -/

/-- Characters are compared by their numbers. -/
instance lawfulEqCmp_toNat : LawfulEqCmp (compareOn Char.toNat) where
  eq_of_compare {a b} h := by
    have hnat : Ord.compare a.toNat b.toNat = .eq := h
    exact Char.toNat_inj.1 (LawfulEqCmp.eq_of_compare hnat)

namespace Text

theorem compare_eq_compareLex : Text.compare = List.compareLex (compareOn Char.toNat) := by
  funext s t
  induction s generalizing t with
  | nil =>
    cases t with
    | nil => rfl
    | cons b t => rfl
  | cons a s ih =>
    cases t with
    | nil => rfl
    | cons b t =>
      rw [compare, List.compareLex_cons_cons, ih]
      rfl

instance : TransCmp Text.compare := by
  rw [compare_eq_compareLex]
  infer_instance

instance : LawfulEqCmp Text.compare := by
  rw [compare_eq_compareLex]
  infer_instance

end Text

/-! ## Octets -/

namespace Utf8

/-- The first octets decide unless they are the same. -/
theorem ofNat_cons_lt {a b : Nat} {s t : Octets} (ha : a < 256) (hb : b < 256) (hle : a ≤ b)
    (h : a = b → s < t) : UInt8.ofNat a :: s < UInt8.ofNat b :: t := by
  rw [List.cons_lt_cons_iff, UInt8.lt_iff_toNat_lt, UInt8.toNat_ofNat_of_lt' ha,
    UInt8.toNat_ofNat_of_lt' hb]
  rcases Nat.lt_or_eq_of_le hle with hlt | rfl
  · exact Or.inl hlt
  · exact Or.inr ⟨rfl, h rfl⟩

/-- Characters in order have their octets in order, whatever comes after them. -/
theorem encodeChar_append_lt {c d : Char} (h : c.toNat < d.toNat) (s t : Octets) :
    String.utf8EncodeChar c ++ s < String.utf8EncodeChar d ++ t := by
  have hlimit : d.val.toNat < 0x110000 := by rcases d.valid with h | h <;> omega
  have hlt : c.val.toNat < d.val.toNat := h
  unfold String.utf8EncodeChar
  generalize c.val.toNat = m at hlt ⊢
  generalize d.val.toNat = n at hlt hlimit ⊢
  dsimp only
  -- one case for each pair of lengths; the octets before the one that differs are the same
  split_ifs
  all_goals
    simp only [List.cons_append, List.nil_append]
    repeat refine ofNat_cons_lt (by omega) (by omega) (by omega) fun _ => ?_
    exfalso
    omega

/-- **Texts are in the order of their octets.** -/
theorem encode_lt_of_compare {s t : Text} (h : s.compare t = .lt) : encode s < encode t := by
  induction s generalizing t with
  | nil =>
    cases t with
    | nil => cases h
    | cons b t =>
      obtain ⟨octet, rest, hb⟩ := List.exists_cons_of_ne_nil (String.utf8EncodeChar_ne_nil (c := b))
      rw [encode_cons, hb]
      exact List.nil_lt_cons _ _
  | cons a s ih =>
    cases t with
    | nil => cases h
    | cons b t =>
      rw [Text.compare, Ordering.then_eq_lt] at h
      rw [encode_cons, encode_cons]
      rcases h with h | ⟨hab, h⟩
      · exact encodeChar_append_lt (Nat.compare_eq_lt.1 h) _ _
      · obtain rfl := Char.toNat_inj.1 (Nat.compare_eq_eq.1 hab)
        exact List.append_left_lt (ih h)

end Utf8

namespace Text

/-- Of two texts one does not come after the other. -/
theorem isLE_or_isLE (s t : Text) : ((s.compare t).isLE || (t.compare s).isLE) = true := by
  rw [@OrientedCmp.eq_swap _ Text.compare _ t s]
  cases s.compare t <;> rfl

theorem isLE_trans (s t u : Text) (h : (s.compare t).isLE = true) (h' : (t.compare u).isLE = true) :
    (s.compare u).isLE = true :=
  Std.TransCmp.isLE_trans h h'

/-- A text that does not come after a different one comes before it. -/
theorem lt_of_isLE {s t : Text} (h : (s.compare t).isLE = true) (hne : s ≠ t) :
    s.compare t = .lt := by
  cases hcompare : s.compare t with
  | lt => rfl
  | eq => exact absurd (Std.LawfulEqCmp.eq_of_compare hcompare) hne
  | gt =>
    rw [hcompare] at h
    cases h

end Text

end Marginalia
