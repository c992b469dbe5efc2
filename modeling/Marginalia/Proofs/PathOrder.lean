import Marginalia.Path

/-!
# The order of paths

Components are compared by kind and by the octets of their names, and paths component by component.
Each is a lexicographic comparison (`Component.compare_eq_compareLex`,
`compareSteps_eq_compareLex`), so each is a linear order, and paths are equal in it exactly if they
have the same components (`compare_eq_iff`).
-/

namespace Marginalia

open Std (ReflCmp OrientedCmp TransCmp LawfulEqCmp)

namespace Path

/-! ## Components -/

namespace Component

/-- The name in a component, if it has one. -/
def nameOctets : Component → Utf8.Octets
  | .name n => n
  | _ => []

theorem compare_eq_compareLex :
    Component.compare = compareLex (compareOn rank) (compareOn nameOctets) := by
  funext a b
  cases a <;> cases b <;> rfl

instance : TransCmp Component.compare := by
  rw [compare_eq_compareLex]
  infer_instance

/-- A component is known by its kind and its name. -/
theorem eq_of_rank_eq {a b : Component} (hrank : a.rank = b.rank)
    (hname : a.nameOctets = b.nameOctets) : a = b := by
  cases a <;> cases b <;> first | rfl | exact congrArg Component.name hname | cases hrank

instance : LawfulEqCmp Component.compare where
  compare_self := ReflCmp.compare_self
  eq_of_compare {a b} h := by
    rw [compare_eq_compareLex, compareLex_eq_eq] at h
    obtain ⟨hrank, hname⟩ := h
    exact eq_of_rank_eq (@LawfulEqCmp.eq_of_compare _ Ord.compare _ _ _ hrank)
      (@LawfulEqCmp.eq_of_compare _ Ord.compare _ _ _ hname)

end Component

/-! ## Paths -/

theorem compareSteps_eq_compareLex : compareSteps = List.compareLex Component.compare := by
  funext s t
  induction s generalizing t with
  | nil =>
    cases t with
    | nil => rfl
    | cons b t => rfl
  | cons a s ih =>
    cases t with
    | nil => rfl
    | cons b t => rw [compareSteps, List.compareLex_cons_cons, ih]

instance : TransCmp compareSteps := by
  rw [compareSteps_eq_compareLex]
  infer_instance

instance : LawfulEqCmp compareSteps := by
  rw [compareSteps_eq_compareLex]
  infer_instance

instance : TransCmp Path.compare where
  eq_swap {p q} := @OrientedCmp.eq_swap _ compareSteps _ p.components q.components
  isLE_trans h h' := @TransCmp.isLE_trans _ compareSteps _ _ _ _ h h'

theorem same_iff {p q : Path} : p.same q = true ↔ p.components = q.components := by
  rw [same, decide_eq_true_iff]

/-- The order takes paths for one exactly if they have the same components. -/
theorem compare_eq_iff {p q : Path} : p.compare q = .eq ↔ p.same q = true := by
  rw [same_iff]
  exact @LawfulEqCmp.compare_eq_iff_eq _ compareSteps _ _ _

theorem same_refl (p : Path) : p.same p = true := same_iff.2 rfl

theorem same_comm (p q : Path) : p.same q = q.same p := by
  rw [Bool.eq_iff_iff, same_iff, same_iff, eq_comm]

theorem same_trans {p q r : Path} (h : p.same q = true) (h' : q.same r = true) :
    p.same r = true :=
  same_iff.2 ((same_iff.1 h).trans (same_iff.1 h'))

/-- Of two paths one does not come after the other. -/
theorem isLE_total (p q : Path) : (p.compare q).isLE = true ∨ (q.compare p).isLE = true := by
  rw [@OrientedCmp.eq_swap _ Path.compare _ q p]
  cases p.compare q <;> simp

/-- A path that does not come after a different one comes before it. -/
theorem lt_of_isLE {p q : Path} (h : (p.compare q).isLE = true) (hne : p.same q = false) :
    p.compare q = .lt := by
  cases hcompare : p.compare q with
  | lt => rfl
  | eq =>
    rw [compare_eq_iff.1 hcompare] at hne
    cases hne
  | gt =>
    rw [hcompare] at h
    cases h

theorem not_same_of_lt {p q : Path} (h : p.compare q = .lt) : p.same q = false := by
  rw [← Bool.not_eq_true, ← compare_eq_iff, h]
  decide

end Path

end Marginalia
