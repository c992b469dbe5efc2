import Marginalia.Proofs.PatternSearch

/-!
# Taking matches out of a text

All matches of a pattern are taken out of a text, one after another: each search begins where the
last match ended, and what is in front of a place is still seen by the conditions of the pattern.

1. A search that begins at a place goes on behind it if there is no match there
   (`findFrom?_of_none`).
2. So at each place either a match is taken out (`removed_of_match`) or the character stays
   (`removed_of_none`).
3. Repetitions of a class can be left at each place of a run, the last one first (`repeated_run`), so
   they go as far as they can if the rest of a pattern is not found before (`findSome?_repeated_run`).
4. Instead of being taken out, matches can be where a text is split (`split`).
-/

namespace Marginalia.Pattern

variable {p : Pattern} {t rest : Text} {c : Char} {i j n : Nat}

/-! ## Searching from a place on -/

/-- Where the first match of a pattern from a place on starts and ends. -/
def findFrom? (p : Pattern) (t : Text) (i : Nat) : Option (Nat × Nat) :=
  (List.range' i (t.length + 1 - i)).findSome? fun k => (tries t.toArray p k).head?.map (k, ·)

/-- From the front of a text on, it is the first match of all. -/
theorem findFrom?_zero (p : Pattern) (t : Text) : p.findFrom? t 0 = p.find? t := by
  rw [findFrom?, find?, List.range_eq_range', Nat.sub_zero]

theorem findFrom?_of_le (p : Pattern) (h : i ≤ t.length) : p.findFrom? t i =
    ((tries t.toArray p i).head?.map (i, ·)).or (p.findFrom? t (i + 1)) := by
  have hlength : t.length + 1 - i = (t.length + 1 - (i + 1)) + 1 := by omega
  rw [findFrom?, hlength, List.range'_succ, List.findSome?_cons, findFrom?]
  cases (tries t.toArray p i).head? <;> rfl

theorem findFrom?_of_lt (p : Pattern) (h : t.length < i) : p.findFrom? t i = none := by
  have hlength : t.length + 1 - i = 0 := by omega
  rw [findFrom?, hlength]
  rfl

/-- Where there is no match, the search goes on behind the place. -/
theorem findFrom?_of_none (h : tries t.toArray p i = []) :
    p.findFrom? t i = p.findFrom? t (i + 1) := by
  by_cases hi : i ≤ t.length
  · rw [findFrom?_of_le p hi, h]
    rfl
  · rw [findFrom?_of_lt p (by omega), findFrom?_of_lt p (by omega)]

theorem findFrom?_of_match (hi : i ≤ t.length) (h : (tries t.toArray p i).head? = some j) :
    p.findFrom? t i = some (i, j) := by
  rw [findFrom?_of_le p hi, h]
  rfl

/-- A search finds nothing in front of the place where it begins. -/
theorem le_of_findFrom? {start stop : Nat} (h : p.findFrom? t i = some (start, stop)) :
    i ≤ start ∧ start ≤ t.length := by
  obtain ⟨k, hk, hmatch⟩ := List.exists_of_findSome?_eq_some h
  obtain ⟨j, -, hpair⟩ := Option.map_eq_some_iff.1 hmatch
  rw [List.mem_range'_1] at hk
  cases hpair
  omega

/-! ## Taking out -/

/-- What is left of a text from a place on if all matches of a pattern are taken out. Behind an
empty match one character stays, so that the next search does not find it again. -/
def removed (p : Pattern) (t : Text) (i : Nat) : Text :=
  match _found : p.findFrom? t i with
  | none => t.drop i
  | some (start, stop) =>
    if start < stop then (t.take start).drop i ++ removed p t stop
    else (t.take (start + 1)).drop i ++ removed p t (start + 1)
termination_by t.length + 1 - i
decreasing_by
  all_goals
    have := le_of_findFrom? _found
    omega

theorem removed_of_findFrom?_none (h : p.findFrom? t i = none) : removed p t i = t.drop i := by
  rw [removed]
  split
  · rfl
  · next start stop hsome =>
    rw [h] at hsome
    cases hsome

theorem removed_of_findFrom? {start stop : Nat} (h : p.findFrom? t i = some (start, stop)) :
    removed p t i = if start < stop then (t.take start).drop i ++ removed p t stop
      else (t.take (start + 1)).drop i ++ removed p t (start + 1) := by
  rw [removed]
  split
  · next hnone =>
    rw [h] at hnone
    cases hnone
  · next hsome =>
    rw [h] at hsome
    cases hsome
    rfl

/-- **A match is taken out**, and the search goes on where it ended. -/
theorem removed_of_match (hi : i ≤ t.length) (h : (tries t.toArray p i).head? = some j)
    (hij : i < j) : removed p t i = removed p t j := by
  have hfront : (t.take i).drop i = [] := by
    rw [List.drop_eq_nil_iff, List.length_take]
    exact Nat.min_le_left _ _
  rw [removed_of_findFrom? (findFrom?_of_match hi h), if_pos hij, hfront, List.nil_append]

theorem drop_take_of_drop (h : t.drop i = c :: rest) {k : Nat} (hk : i + 1 ≤ k) :
    (t.take k).drop i = c :: (t.take k).drop (i + 1) := by
  obtain ⟨m, hm⟩ : ∃ m, k - i = m + 1 := ⟨k - i - 1, by omega⟩
  rw [List.drop_take, h, hm, List.take_succ_cons, List.drop_take, drop_succ_of_drop h]
  congr 1
  congr 1
  omega

/-- **Where there is no match, the character stays.** -/
theorem removed_of_none (h : t.drop i = c :: rest) (hnone : tries t.toArray p i = []) :
    removed p t i = c :: removed p t (i + 1) := by
  have hsearch := findFrom?_of_none hnone
  cases hfound : p.findFrom? t (i + 1) with
  | none =>
    rw [hfound] at hsearch
    rw [removed_of_findFrom?_none hsearch, removed_of_findFrom?_none hfound, h,
      drop_succ_of_drop h]
  | some found =>
    obtain ⟨start, stop⟩ := found
    rw [hfound] at hsearch
    have hstart := (le_of_findFrom? hfound).1
    rw [removed_of_findFrom? hsearch, removed_of_findFrom? hfound]
    split_ifs
    · rw [drop_take_of_drop h hstart]
      rfl
    · rw [drop_take_of_drop h (by omega)]
      rfl

/-- At the end of a text without a match there, nothing is left. -/
theorem removed_of_drop_eq_nil (h : t.drop i = []) (hnone : tries t.toArray p i = []) :
    removed p t i = [] := by
  have hlength := List.drop_eq_nil_iff.1 h
  have hsearch : p.findFrom? t i = none := by
    rw [findFrom?_of_none hnone, findFrom?_of_lt p (by omega)]
  rw [removed_of_findFrom?_none hsearch, h]

/-! ## Splitting -/

/-- The texts between the matches of a pattern from a place on. A match without characters ends the
splitting, so the pattern should have none. -/
def split (p : Pattern) (t : Text) (i : Nat) : List Text :=
  match _found : p.findFrom? t i with
  | none => [t.drop i]
  | some (start, stop) =>
    if start < stop then (t.take start).drop i :: split p t stop else [t.drop i]
termination_by t.length + 1 - i
decreasing_by
  have := le_of_findFrom? _found
  omega

theorem split_of_none (h : p.findFrom? t i = none) : p.split t i = [t.drop i] := by
  rw [split]
  split
  · rfl
  · next start stop hsome =>
    rw [h] at hsome
    cases hsome

theorem split_of_some {start stop : Nat} (h : p.findFrom? t i = some (start, stop))
    (hlt : start < stop) : p.split t i = (t.take start).drop i :: p.split t stop := by
  rw [split]
  split
  · next hnone =>
    rw [h] at hnone
    cases hnone
  · next hsome =>
    rw [h] at hsome
    cases hsome
    exact if_pos hlt

/-! ## Repetitions of a class -/

variable {s : Class} {run : Text}

/-- **A run of a class** can be left at each of its places, the last one first. -/
theorem repeated_run (hdrop : t.drop i = run ++ rest) (hrun : ∀ c ∈ run, s.has c = true)
    (hrest : rest.head?.any s.has = false) (hn : run.length ≤ n) :
    repeated (tries t.toArray (.one s)) n i = (List.range' i (run.length + 1)).reverse := by
  induction run generalizing i n with
  | nil =>
    have hstep : tries t.toArray (.one s) i = [] := by
      cases rest with
      | nil => exact tries_one_of_drop_eq_nil hdrop
      | cons c rest =>
        rw [tries_one_of_drop hdrop, if_neg]
        rw [List.head?_cons, Option.any_some] at hrest
        rw [hrest]
        decide
    cases n with
    | zero => rfl
    | succ n =>
      rw [repeated, hstep]
      rfl
  | cons c run ih =>
    obtain ⟨m, rfl⟩ : ∃ m, n = m + 1 := ⟨n - 1, by rw [List.length_cons] at hn; omega⟩
    have hstep : ([i + 1].filter fun j => decide (j ≠ i)) = [i + 1] := by simp
    rw [repeated, tries_one_of_drop hdrop, if_pos (hrun c List.mem_cons_self), hstep,
      List.flatMap_singleton,
      ih (drop_succ_of_drop hdrop) (fun d hd => hrun d (List.mem_cons_of_mem c hd))
        (by rw [List.length_cons] at hn; omega), List.length_cons, ← List.reverse_cons]
    rfl

/-- A run of a class is passed as a whole if nothing comes after it. -/
theorem head?_repeated_run (hdrop : t.drop i = run ++ rest) (hrun : ∀ c ∈ run, s.has c = true)
    (hrest : rest.head?.any s.has = false) (hn : run.length ≤ n) :
    (repeated (tries t.toArray (.one s)) n i).head? = some (i + run.length) := by
  rw [repeated_run hdrop hrun hrest hn, List.range'_concat, List.reverse_append, Nat.one_mul]
  rfl

/-- A run of a class is passed as a whole if there is nothing to find among its characters. -/
theorem findSome?_repeated_run {β : Type} {f : Nat → Option β} (hdrop : t.drop i = run ++ rest)
    (hrun : ∀ c ∈ run, s.has c = true) (hrest : rest.head?.any s.has = false)
    (hn : run.length ≤ n) (hf : ∀ k < run.length, f (i + k) = none) :
    (repeated (tries t.toArray (.one s)) n i).findSome? f = f (i + run.length) := by
  have hinside : (List.range' i run.length).reverse.findSome? f = none := by
    rw [List.findSome?_eq_none_iff]
    intro j hj
    obtain ⟨k, hk, rfl⟩ := List.mem_range'.1 (List.mem_reverse.1 hj)
    rw [Nat.one_mul]
    exact hf k hk
  rw [repeated_run hdrop hrun hrest hn, List.range'_concat, List.reverse_append,
    List.findSome?_append, hinside, Option.or_none, Nat.one_mul]
  exact List.findSome?_singleton

end Marginalia.Pattern
