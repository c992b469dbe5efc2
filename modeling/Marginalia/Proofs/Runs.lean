import Mathlib.Data.List.SplitBy

/-!
# Runs

`List.splitBy r` cuts a list between neighbours that `r` does not relate. This module reads it one
element at a time (`splitBy_cons_cons`) and counts the runs by the cuts (`length_splitBy`).
-/

namespace Marginalia.Runs

variable {α : Type*}

/-- An element joins the run of the next one, or is a run of its own. -/
theorem splitBy_cons_cons (r : α → α → Bool) (a b : α) (l : List α) :
    (a :: b :: l).splitBy r =
      if r a b then ((b :: l).splitBy r).modifyHead (a :: ·) else [a] :: (b :: l).splitBy r := by
  by_cases h : r a b = true
  · rw [if_pos h, List.splitBy_eq_iff]
    have hflat := List.flatten_splitBy r (b :: l)
    have hnil := List.nil_notMem_splitBy r (b :: l)
    have hmem := fun m (hm : m ∈ (b :: l).splitBy r) => List.isChain_of_mem_splitBy hm
    have hchain := List.isChain_getLast_head_splitBy r (b :: l)
    obtain ⟨g, gs, hg⟩ := List.exists_cons_of_ne_nil
      (List.splitBy_ne_nil.2 (List.cons_ne_nil b l) : (b :: l).splitBy r ≠ [])
    rw [hg] at hflat hnil hmem hchain ⊢
    rw [List.modifyHead_cons]
    rw [List.mem_cons, not_or] at hnil
    obtain ⟨c, g, rfl⟩ := List.exists_cons_of_ne_nil (Ne.symm hnil.1)
    have hc : c = b := by
      rw [List.flatten_cons, List.cons_append, List.cons.injEq] at hflat
      exact hflat.1
    subst hc
    refine ⟨?_, ?_, ?_, ?_⟩
    · rw [List.flatten_cons, List.cons_append, ← List.flatten_cons, hflat]
    · rw [List.mem_cons, not_or]
      exact ⟨(List.cons_ne_nil _ _).symm, hnil.2⟩
    · rw [List.forall_mem_cons] at hmem ⊢
      exact ⟨List.isChain_cons_cons.2 ⟨h, hmem.1⟩, hmem.2⟩
    · rw [List.isChain_cons] at hchain ⊢
      refine ⟨fun m hm => ?_, hchain.2⟩
      obtain ⟨ha, hb, hr⟩ := hchain.1 m hm
      exact ⟨List.cons_ne_nil _ _, hb, by rwa [List.getLast_cons ha]⟩
  · rw [if_neg h]
    exact List.splitBy_append_cons (l := [a]) l (by simpa using h)

/-- The first run starts with the first element. -/
theorem exists_splitBy_cons (r : α → α → Bool) (a : α) (l : List α) :
    ∃ g gs, (a :: l).splitBy r = (a :: g) :: gs := by
  cases l with
  | nil => exact ⟨[], [], rfl⟩
  | cons b l =>
    rw [splitBy_cons_cons]
    by_cases h : r a b = true
    · obtain ⟨g, gs, hg⟩ := List.exists_cons_of_ne_nil
        (List.splitBy_ne_nil.2 (List.cons_ne_nil b l) : (b :: l).splitBy r ≠ [])
      exact ⟨g, gs, by rw [if_pos h, hg, List.modifyHead_cons]⟩
    · exact ⟨[], _, if_neg h⟩

/-- There is one run more than there are neighbours that are cut apart. -/
theorem length_splitBy (r : α → α → Bool) {l : List α} (hl : l ≠ []) :
    (l.splitBy r).length = 1 + (l.zip l.tail).countP fun p => !r p.1 p.2 := by
  obtain ⟨a, l, rfl⟩ := List.exists_cons_of_ne_nil hl
  clear hl
  induction l generalizing a with
  | nil => rfl
  | cons b l ih =>
    rw [splitBy_cons_cons, List.tail_cons, List.zip_cons_cons, List.countP_cons]
    have hb := ih b
    rw [List.tail_cons] at hb
    by_cases h : r a b = true
    · rw [if_pos h, List.length_modifyHead, hb, h]
      rfl
    · rw [if_neg h, List.length_cons, hb, Bool.eq_false_iff.2 h]
      rfl

/-! ## Neighbours in a chain -/

/-- All but the last of a chain are related to something. -/
theorem exists_of_mem_dropLast {R : α → α → Prop} {l : List α} (hl : l.IsChain R) {a : α}
    (ha : a ∈ l.dropLast) : ∃ b, R a b := by
  induction l with
  | nil => exact absurd ha List.not_mem_nil
  | cons c l ih =>
    cases l with
    | nil => exact absurd ha List.not_mem_nil
    | cons d l =>
      rw [List.isChain_cons_cons] at hl
      rw [List.dropLast_cons_cons, List.mem_cons] at ha
      rcases ha with rfl | ha
      · exact ⟨d, hl.1⟩
      · exact ih hl.2 ha

/-- Something is related to all but the first of a chain. -/
theorem exists_of_mem_tail {R : α → α → Prop} {l : List α} (hl : l.IsChain R) {b : α}
    (hb : b ∈ l.tail) : ∃ a, R a b := by
  induction l with
  | nil => exact absurd hb List.not_mem_nil
  | cons c l ih =>
    cases l with
    | nil => exact absurd hb List.not_mem_nil
    | cons d l =>
      rw [List.isChain_cons_cons] at hl
      rw [List.tail_cons, List.mem_cons] at hb
      rcases hb with rfl | hb
      · exact ⟨c, hl.1⟩
      · exact ih hl.2 hb

end Marginalia.Runs
