import Marginalia.Pattern
import Mathlib.Tactic.ByContra
import Mathlib.Tactic.SplitIfs

/-!
# Searching for a pattern

A search goes for the first place at which there is a match, and of the matches from there it takes
the one that is preferred: of two patterns the first, of repetitions as many as there can be.

1. `Pattern.tries` lists the ends of matches in the order of preference, and `Pattern.find?` takes
   the first of them.
2. Following all matches at once, with the newest places first, comes to the same places as trying
   one after another (`mem_withinSteps_iff`, `mem_repeated_iff`), since both take every number of
   steps up to a limit.
3. So what is found is a match, the first one (`mem_ends_of_find?`), and there is one to find
   exactly if the pattern occurs (`isSome_find?`).
4. Patterns one after another lead from place to place (`Pattern.leads`), and those that begin with
   the start of the text match there only (`find?_textStart`).
-/

namespace Marginalia.Pattern

/-! ## The preferred match -/

/-- The places after a number of steps, those of the first step first. -/
def exactly (step : Nat → List Nat) : Nat → Nat → List Nat
  | 0, i => [i]
  | n + 1, i => (step i).flatMap (exactly step n)

/-- The places after a number of steps or fewer, more steps first. A step that stays where it is
is not taken. -/
def repeated (step : Nat → List Nat) : Nat → Nat → List Nat
  | 0, i => [i]
  | n + 1, i => ((step i).filter (· ≠ i)).flatMap (repeated step n) ++ [i]

/-- The ends of the matches of a pattern from a place, in the order of preference. -/
def tries (text : Array Char) : Pattern → Nat → List Nat
  | .empty, i => ends text .empty i
  | .one s, i => ends text (.one s) i
  | .place b, i => ends text (.place b) i
  | .both p q, i => (tries text p i).flatMap (tries text q)
  | .either p q, i => tries text p i ++ tries text q i
  | .times p least most, i =>
    let limit := text.size + 1
    let more := match most with
      | some n => min (n - least) limit
      | none => limit
    (exactly (tries text p) (min least limit) i).flatMap (repeated (tries text p) more)

/-- Where the first match of a pattern in a text starts and ends. -/
def find? (p : Pattern) (t : Text) : Option (Nat × Nat) :=
  (List.range (t.length + 1)).findSome? fun i => (tries t.toArray p i).head?.map (i, ·)

/-! ## Steps -/

variable {step step' : Nat → List Nat} {i j n : Nat} {places reached newest : List Nat}

theorem mem_exactly_zero : j ∈ exactly step 0 i ↔ j = i := List.mem_singleton

theorem mem_exactly_succ : j ∈ exactly step (n + 1) i ↔ ∃ s ∈ step i, j ∈ exactly step n s :=
  List.mem_flatMap

theorem mem_exactly_congr (h : ∀ i j, j ∈ step i ↔ j ∈ step' i) :
    j ∈ exactly step n i ↔ j ∈ exactly step' n i := by
  induction n generalizing i with
  | zero => rw [mem_exactly_zero, mem_exactly_zero]
  | succ n ih => simp only [mem_exactly_succ, ih, h]

theorem mem_onward_iff : j ∈ onward step places ↔ ∃ i ∈ places, j ∈ step i := by
  rw [onward, List.mem_eraseDups, List.mem_flatMap]

theorem mem_afterSteps_iff : j ∈ afterSteps step n places ↔ ∃ i ∈ places, j ∈ exactly step n i := by
  induction n generalizing places with
  | zero =>
    unfold afterSteps
    simp [mem_exactly_zero]
  | succ n ih =>
    unfold afterSteps
    rw [ih]
    simp only [mem_onward_iff, mem_exactly_succ]
    constructor
    · rintro ⟨s, ⟨i, hi, hs⟩, hj⟩
      exact ⟨i, hi, s, hs, hj⟩
    · rintro ⟨i, hi, s, hs, hj⟩
      exact ⟨s, ⟨i, hi, hs⟩, hj⟩

theorem mem_repeated_iff : j ∈ repeated step n i ↔ ∃ k ≤ n, j ∈ exactly step k i := by
  induction n generalizing i with
  | zero =>
    constructor
    · intro h
      exact ⟨0, Nat.le_refl 0, h⟩
    · rintro ⟨k, hk, h⟩
      obtain rfl : k = 0 := by omega
      exact h
  | succ n ih =>
    unfold repeated
    rw [List.mem_append, List.mem_flatMap, List.mem_singleton]
    constructor
    · rintro (⟨s, hs, hj⟩ | rfl)
      · obtain ⟨k, hk, hj⟩ := ih.1 hj
        exact ⟨k + 1, by omega, mem_exactly_succ.2 ⟨s, (List.mem_filter.1 hs).1, hj⟩⟩
      · exact ⟨0, by omega, mem_exactly_zero.2 rfl⟩
    · rintro ⟨k, hk, hj⟩
      -- steps that stay where they are can be left out
      induction k with
      | zero => exact Or.inr (mem_exactly_zero.1 hj)
      | succ k ihk =>
        obtain ⟨s, hs, hj⟩ := mem_exactly_succ.1 hj
        by_cases hstay : s = i
        · rw [hstay] at hj
          exact ihk (by omega) hj
        · exact Or.inl ⟨s, List.mem_filter.2 ⟨hs, by simpa using hstay⟩, ih.2 ⟨k, by omega, hj⟩⟩

/-! ## All matches at once -/

/-- The newest places are reached, and from any other that is reached no step leads out. -/
structure Followed (step : Nat → List Nat) (reached newest : List Nat) : Prop where
  known : ∀ i ∈ newest, i ∈ reached
  closed : ∀ i ∈ reached, i ∉ newest → ∀ j ∈ step i, j ∈ reached

theorem Followed.start (step : Nat → List Nat) (places : List Nat) :
    Followed step places places where
  known _ h := h
  closed _ h hnot := absurd h hnot

/-- The way to a place that is not reached leaves what is reached from a newest place. -/
theorem Followed.exists_fresh (h : Followed step reached newest) {r : Nat} (hr : r ∈ reached)
    (hj : j ∈ exactly step n r) (hout : j ∉ reached) :
    ∃ i ∈ newest, ∃ f ∈ step i, f ∉ reached ∧ ∃ m < n, j ∈ exactly step m f := by
  induction n generalizing r with
  | zero =>
    rw [mem_exactly_zero.1 hj] at hout
    exact absurd hr hout
  | succ n ih =>
    obtain ⟨s, hs, hj⟩ := mem_exactly_succ.1 hj
    by_cases hin : s ∈ reached
    · obtain ⟨i, hi, f, hf, hnew, m, hm, hj⟩ := ih hin hj
      exact ⟨i, hi, f, hf, hnew, m, by omega, hj⟩
    · have hnewest : r ∈ newest := by
        by_contra hold
        exact hin (h.closed r hr hold s hs)
      exact ⟨r, hnewest, s, hs, hin, n, by omega, hj⟩

/-- The places that a step from the newest ones leads to, and that are not reached yet. -/
def fresh (step : Nat → List Nat) (reached newest : List Nat) : List Nat :=
  (onward step newest).filter fun i => !reached.contains i

theorem mem_fresh_iff :
    j ∈ fresh step reached newest ↔ (∃ i ∈ newest, j ∈ step i) ∧ j ∉ reached := by
  unfold fresh
  rw [List.mem_filter, mem_onward_iff, Bool.not_eq_true', ← Bool.not_eq_true, List.contains_iff_mem]

theorem withinSteps_succ : withinSteps step (n + 1) reached newest =
    match fresh step reached newest with
    | [] => reached
    | fresh => withinSteps step n (reached ++ fresh) fresh :=
  rfl

theorem Followed.next (h : Followed step reached newest) :
    Followed step (reached ++ fresh step reached newest) (fresh step reached newest) where
  known i hi := List.mem_append_right _ hi
  closed i hi hold j hj := by
    rw [List.mem_append]
    have hin : i ∈ reached := (List.mem_append.1 hi).resolve_right hold
    by_cases hreached : j ∈ reached
    · exact Or.inl hreached
    · refine Or.inr (mem_fresh_iff.2 ⟨⟨i, ?_, hj⟩, hreached⟩)
      by_contra hnewest
      exact hreached (h.closed i hin hnewest j hj)

theorem mem_withinSteps_iff (h : Followed step reached newest) :
    j ∈ withinSteps step n reached newest ↔
      j ∈ reached ∨ ∃ i ∈ newest, ∃ k ≤ n, j ∈ exactly step k i := by
  induction n generalizing reached newest with
  | zero =>
    unfold withinSteps
    refine ⟨Or.inl, ?_⟩
    rintro (hj | ⟨i, hi, k, hk, hj⟩)
    · exact hj
    · obtain rfl : k = 0 := by omega
      rw [mem_exactly_zero.1 hj]
      exact h.known i hi
  | succ n ih =>
    have hnext := ih h.next
    have hleave : ∀ i ∈ newest, ∀ k ≤ n + 1, j ∈ exactly step k i → j ∉ reached →
        ∃ f ∈ fresh step reached newest, ∃ m ≤ n, j ∈ exactly step m f := by
      intro i hi k hk hj hout
      obtain ⟨r, hr, f, hf, hnew, m, hm, hj⟩ := h.exists_fresh (h.known i hi) hj hout
      exact ⟨f, mem_fresh_iff.2 ⟨⟨r, hr, hf⟩, hnew⟩, m, by omega, hj⟩
    rw [withinSteps_succ]
    cases hfresh : fresh step reached newest with
    | nil =>
      refine ⟨Or.inl, ?_⟩
      rintro (hj | ⟨i, hi, k, hk, hj⟩)
      · exact hj
      · by_contra hout
        obtain ⟨f, hf, -⟩ := hleave i hi k hk hj hout
        rw [hfresh] at hf
        cases hf
    | cons f rest =>
      dsimp only
      rw [← hfresh, hnext, List.mem_append, or_assoc]
      constructor
      · rintro (hj | hj | ⟨g, hg, k, hk, hj⟩)
        · exact Or.inl hj
        · obtain ⟨⟨i, hi, hstep⟩, -⟩ := mem_fresh_iff.1 hj
          exact Or.inr ⟨i, hi, 1, by omega, mem_exactly_succ.2 ⟨j, hstep, mem_exactly_zero.2 rfl⟩⟩
        · obtain ⟨⟨i, hi, hstep⟩, -⟩ := mem_fresh_iff.1 hg
          exact Or.inr ⟨i, hi, k + 1, by omega, mem_exactly_succ.2 ⟨g, hstep, hj⟩⟩
      · rintro (hj | ⟨i, hi, k, hk, hj⟩)
        · exact Or.inl hj
        · by_cases hin : j ∈ reached
          · exact Or.inl hin
          · exact Or.inr (Or.inr (hleave i hi k hk hj hin))

/-! ## Both searches agree -/

/-- **The order of preference is one of all matches.** -/
theorem mem_tries_iff {text : Array Char} {p : Pattern} :
    j ∈ tries text p i ↔ j ∈ ends text p i := by
  induction p generalizing i j with
  | empty => rfl
  | one s => rfl
  | place b => rfl
  | both p q ihp ihq =>
    unfold tries ends
    rw [mem_onward_iff, List.mem_flatMap]
    simp only [ihp, ihq]
  | either p q ihp ihq =>
    unfold tries ends
    rw [List.mem_append, List.mem_eraseDups, List.mem_append, ihp, ihq]
  | times p least most ih =>
    unfold tries ends
    dsimp only
    rw [mem_withinSteps_iff (Followed.start _ _), List.mem_flatMap]
    simp only [mem_repeated_iff, mem_afterSteps_iff, List.mem_singleton, exists_eq_left,
      mem_exactly_congr (fun a b => @ih a b)]
    constructor
    · rintro ⟨f, hf, k, hk, hj⟩
      exact Or.inr ⟨f, hf, k, hk, hj⟩
    · rintro (hj | ⟨f, hf, k, hk, hj⟩)
      · exact ⟨j, hj, 0, Nat.zero_le _, mem_exactly_zero.2 rfl⟩
      · exact ⟨f, hf, k, hk, hj⟩

theorem tries_eq_nil_iff {text : Array Char} {p : Pattern} :
    tries text p i = [] ↔ ends text p i = [] := by
  simp only [List.eq_nil_iff_forall_not_mem, mem_tries_iff]

/-- There is a match to find exactly if the pattern occurs. -/
theorem isSome_find? (p : Pattern) (t : Text) : (p.find? t).isSome = p.occursIn t := by
  unfold find? occursIn
  rw [Bool.eq_iff_iff, List.findSome?_isSome_iff, List.any_eq_true]
  simp only [Option.isSome_map, List.isSome_head?, List.size_toArray, decide_eq_true_eq, ne_eq,
    tries_eq_nil_iff]

/-- What is found is a match, and none starts before it. -/
theorem mem_ends_of_find? {p : Pattern} {t : Text} (h : p.find? t = some (i, j)) :
    j ∈ ends t.toArray p i ∧ ∀ k < i, ends t.toArray p k = [] := by
  unfold find? at h
  obtain ⟨before, start, after, hrange, hstart, hbefore⟩ := List.findSome?_eq_some_iff.1 h
  rw [Option.map_eq_some_iff] at hstart
  obtain ⟨stop, hstop, heq⟩ := hstart
  cases heq
  refine ⟨mem_tries_iff.1 (List.mem_of_head? hstop), fun k hk => ?_⟩
  have hsorted := List.pairwise_lt_range (n := t.length + 1)
  have hmem : i ∈ List.range (t.length + 1) := by
    rw [hrange]
    simp
  have hk' : k ∈ before ++ i :: after := by
    rw [← hrange, List.mem_range]
    exact Nat.lt_trans hk (List.mem_range.1 hmem)
  rw [hrange] at hsorted
  obtain ⟨-, hfrom, -⟩ := List.pairwise_append.1 hsorted
  have hafter : k ∉ i :: after := by
    intro hin
    rcases List.mem_cons.1 hin with rfl | hin
    · omega
    · have hlt := (List.pairwise_cons.1 hfrom).1 k hin
      omega
  have hnone := hbefore k ((List.mem_append.1 hk').resolve_right hafter)
  rw [Option.map_eq_none_iff, List.head?_eq_none_iff] at hnone
  exact tries_eq_nil_iff.1 hnone

/-! ## Patterns one after another -/

/-- The ends of the matches of patterns one after another, in the order of preference. -/
def leads (text : Array Char) : List Pattern → Nat → List Nat
  | [], i => [i]
  | p :: ps, i => (tries text p i).flatMap (leads text ps)

variable {text : Array Char} {ps qs : List Pattern} {p : Pattern} {line rest : Text} {c : Char}

theorem leads_singleton : leads text [p] i = tries text p i := by simp [leads]

theorem tries_foldl :
    tries text (ps.foldl .both p) i = (tries text p i).flatMap (leads text ps) := by
  induction ps generalizing p with
  | nil => simp [leads]
  | cons q ps ih =>
    rw [List.foldl_cons, ih, tries, List.flatMap_assoc]
    rfl

theorem tries_sequence (ps : List Pattern) : tries text (sequence ps) i = leads text ps i := by
  cases ps with
  | nil => rfl
  | cons p ps => exact tries_foldl

theorem leads_append : leads text (ps ++ qs) i = (leads text ps i).flatMap (leads text qs) := by
  induction ps generalizing i with
  | nil => simp [leads]
  | cons p ps ih =>
    have hrest : leads text (ps ++ qs) = fun j => (leads text ps j).flatMap (leads text qs) :=
      funext fun j => ih
    rw [List.cons_append, leads, leads, List.flatMap_assoc, hrest]

/-! ## Steps in a line -/

theorem getElem?_of_drop (h : line.drop i = c :: rest) : line.toArray[i]? = some c := by
  rw [List.getElem?_toArray, ← List.head?_drop, h, List.head?_cons]

theorem getElem?_of_drop_eq_nil (h : line.drop i = []) : line.toArray[i]? = none := by
  rw [List.getElem?_toArray, ← List.head?_drop, h, List.head?_nil]

theorem drop_succ_of_drop (h : line.drop i = c :: rest) : line.drop (i + 1) = rest := by
  rw [← List.tail_drop, h, List.tail_cons]

theorem tries_one_of_drop {s : Class} (h : line.drop i = c :: rest) :
    tries line.toArray (.one s) i = if s.has c then [i + 1] else [] := by
  rw [tries, ends, getElem?_of_drop h]

theorem tries_one_of_drop_eq_nil {s : Class} (h : line.drop i = []) :
    tries line.toArray (.one s) i = [] := by
  rw [tries, ends, getElem?_of_drop_eq_nil h]

theorem has_one_iff {a b : Char} : (Class.one a).has b = true ↔ a = b := by
  unfold Class.one Class.has
  rw [Bool.and_eq_true, decide_eq_true_eq, decide_eq_true_eq]
  exact ⟨fun h => Char.le_antisymm h.1 h.2, fun h => h ▸ ⟨Char.le_refl a, Char.le_refl a⟩⟩

/-- As often as there can be. -/
theorem tries_many (text : Array Char) (p : Pattern) (i : Nat) :
    tries text (.times p 0 none) i = repeated (tries text p) (text.size + 1) i := by
  rw [tries, Nat.zero_min]
  exact List.flatMap_singleton _ _

/-- Once, if it can be. -/
theorem tries_maybe (text : Array Char) (p : Pattern) (i : Nat) :
    tries text (.times p 0 (some 1)) i = repeated (tries text p) 1 i := by
  rw [tries, Nat.zero_min, Nat.sub_zero, Nat.min_eq_left (by omega)]
  exact List.flatMap_singleton _ _

/-- A character of a class is passed if it stands there. -/
theorem head?_tries_maybe {s : Class} (h : line.drop i = rest) :
    (tries line.toArray (.times (.one s) 0 (some 1)) i).head? =
      some (if rest.head?.any s.has then i + 1 else i) := by
  rw [tries_maybe]
  unfold repeated
  cases rest with
  | nil =>
    rw [tries_one_of_drop_eq_nil h]
    rfl
  | cons c rest =>
    rw [tries_one_of_drop h, List.head?_cons, Option.any_some]
    split_ifs
    · simp [repeated]
    · rfl

/-! ## Patterns at the start of a text -/

theorem tries_textStart (hi : i ≤ line.length) :
    tries line.toArray (.place .textStart) i = if i = 0 then [0] else [] := by
  rw [tries, ends]
  by_cases hzero : i = 0
  · rw [if_pos hzero, hzero]
    rfl
  · have hbefore : line.toArray[i - 1]? ≠ none := by
      rw [List.getElem?_toArray, ne_eq, List.getElem?_eq_none_iff]
      omega
    have hnot : ¬ Boundary.textStart.holds line.toArray[i - 1]? line.toArray[i]? = true :=
      fun h => hbefore (of_decide_eq_true h)
    rw [if_neg hzero, if_neg hzero, if_neg hnot]

/-- A pattern that asks for the start of the text matches there only. -/
theorem find?_textStart (ps : List Pattern) (line : Text) :
    (sequence (.place .textStart :: ps)).find? line =
      (leads line.toArray ps 0).head?.map (0, ·) := by
  have hat : ∀ i ≤ line.length, tries line.toArray (sequence (.place .textStart :: ps)) i =
      if i = 0 then leads line.toArray ps 0 else [] := by
    intro i hi
    rw [tries_sequence, leads, tries_textStart hi]
    split_ifs
    · exact List.flatMap_singleton _ _
    · rfl
  unfold find?
  rw [List.range_succ_eq_map, List.findSome?_cons, hat 0 (Nat.zero_le _), if_pos rfl]
  have hlater : List.findSome? (fun i => (tries line.toArray
      (sequence (.place .textStart :: ps)) i).head?.map fun j => (i, j))
        ((List.range line.length).map Nat.succ) = none := by
    rw [List.findSome?_eq_none_iff]
    intro i hi
    obtain ⟨k, hk, rfl⟩ := List.mem_map.1 hi
    rw [List.mem_range] at hk
    rw [hat (k + 1) hk, if_neg (Nat.succ_ne_zero k)]
    rfl
  rw [hlater]
  cases (leads line.toArray ps 0).head? <;> rfl

theorem occursIn_iff : p.occursIn line = true ↔ ∃ i ≤ line.length, tries line.toArray p i ≠ [] := by
  unfold occursIn
  simp only [List.any_eq_true, List.mem_range, List.size_toArray, Nat.lt_succ_iff,
    decide_eq_true_eq, ne_eq, tries_eq_nil_iff]

theorem occursIn_either (p q : Pattern) (line : Text) :
    (either p q).occursIn line = (p.occursIn line || q.occursIn line) := by
  rw [Bool.eq_iff_iff, Bool.or_eq_true, occursIn_iff, occursIn_iff, occursIn_iff]
  simp only [tries, ne_eq, List.append_eq_nil_iff, not_and_or, and_or_left, exists_or]

theorem occursIn_textStart (ps : List Pattern) (line : Text) :
    (sequence (.place .textStart :: ps)).occursIn line =
      (leads line.toArray ps 0).head?.isSome := by
  rw [← isSome_find?, find?_textStart, Option.isSome_map]

end Marginalia.Pattern
