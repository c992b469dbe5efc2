import Marginalia.Text.Basic
import Mathlib.Data.List.Infix

/-!
# Occurrences of a pattern

`Text.breakOn?` finds the first place at which a pattern stands, `Text.pieces` cuts a text at all
its places, from the left and without overlap.

1. The search fails exactly when the pattern is no infix (`breakOn?_eq_none_iff`), and the text in
   front of the place found does not hold the pattern (`not_infix_of_breakOn?`).
2. A pattern without line feed stands within one line, so the search goes line by line
   (`breakOn?_append_feed`), and so do the infix relation and the cutting.
3. Two different characters cannot overlap themselves, so they are found right behind a text
   that does not hold them (`breakOn?_append_pair`).
-/

namespace Marginalia.Text

/-! ## The front of a text -/

@[simp] theorem after?_append (p r : Text) : after? p (p ++ r) = some r :=
  after?_eq_some_iff.2 rfl

theorem suffix_of_after? {p t r : Text} (h : after? p t = some r) : r <:+ t :=
  ⟨p, (after?_eq_some_iff.1 h).symm⟩

theorem after?_eq_none_iff {p t : Text} : after? p t = none ↔ ¬ p <+: t := by
  constructor
  · rintro h ⟨r, rfl⟩
    rw [after?_append] at h
    cases h
  · intro h
    cases hr : after? p t with
    | none => rfl
    | some r => exact absurd ⟨r, (after?_eq_some_iff.1 hr).symm⟩ h

theorem after?_append_append (p q t : Text) : after? (p ++ q) (p ++ t) = after? q t := by
  induction p with
  | nil => rfl
  | cons a p ih => rw [List.cons_append, List.cons_append, after?, if_pos rfl, ih]

/-- A pattern of two parts is found one part after the other. -/
theorem after?_append_left (p q t : Text) : after? (p ++ q) t = (after? p t).bind (after? q) := by
  induction p generalizing t with
  | nil => rfl
  | cons a p ih =>
    cases t with
    | nil => rfl
    | cons b t =>
      rw [List.cons_append, after?, after?]
      split_ifs
      · exact ih t
      · rfl

theorem after?_cons_of_ne {a b : Char} (h : a ≠ b) (p t : Text) :
    after? (a :: p) (b :: t) = none := by
  rw [after?, if_neg h]

/-- What a pattern is found in front of goes on with the text. -/
theorem after?_append_of_some {p a r : Text} (h : after? p a = some r) (b : Text) :
    after? p (a ++ b) = some (r ++ b) := by
  rw [after?_eq_some_iff] at h ⊢
  rw [h, List.append_assoc]

/-- A pattern does not reach over a character that it lacks. -/
theorem after?_append_cons {p : Text} {x : Char} (hp : x ∉ p) (a b : Text) :
    after? p (a ++ x :: b) = (after? p a).map (· ++ x :: b) := by
  induction p generalizing a with
  | nil => rfl
  | cons c p ih =>
    rw [List.mem_cons, not_or] at hp
    cases a with
    | nil => exact after?_cons_of_ne (Ne.symm hp.1) p b
    | cons d a =>
      rw [List.cons_append, after?, after?]
      by_cases h : c = d
      · rw [if_pos h, if_pos h, ih hp.2]
      · rw [if_neg h, if_neg h]; rfl

/-- A pattern without `x` that starts `s` and `x` after it starts `s` alone. -/
theorem prefix_of_prefix_append_cons {p s t : Text} {x : Char} (hx : x ∉ p)
    (h : p <+: s ++ x :: t) : p <+: s := by
  rcases List.prefix_or_prefix_of_prefix h (List.prefix_append s (x :: t)) with hs | hs
  · exact hs
  · obtain ⟨q, rfl⟩ := hs
    rw [List.prefix_append_right_inj] at h
    cases q with
    | nil => rw [List.append_nil]
    | cons y q =>
      rw [List.cons_prefix_cons] at h
      exact absurd (by rw [h.1]; simp) hx

theorem isPrefixOf_concat {p : Text} {x : Char} (hx : x ∉ p) (t : Text) :
    p.isPrefixOf (t ++ [x]) = p.isPrefixOf t := by
  rw [Bool.eq_iff_iff, List.isPrefixOf_iff_prefix, List.isPrefixOf_iff_prefix]
  exact ⟨prefix_of_prefix_append_cons hx, fun h => h.trans (List.prefix_append t [x])⟩

/-! ## The first place -/

theorem breakOn?_cons_of_some {p t r : Text} {c : Char} (h : after? p (c :: t) = some r) :
    breakOn? p (c :: t) = some ([], r) := by
  rw [breakOn?, h]

theorem breakOn?_cons_of_none {p t : Text} {c : Char} (h : after? p (c :: t) = none) :
    breakOn? p (c :: t) = (breakOn? p t).map fun parts => (c :: parts.1, parts.2) := by
  rw [breakOn?, h]

theorem breakOn?_nil {p : Text} (hp : p ≠ []) : breakOn? p [] = none := by
  cases p with
  | nil => exact absurd rfl hp
  | cons c p => rfl

/-- A pattern at the front is found there. -/
theorem breakOn?_append {p : Text} (hp : p ≠ []) (t : Text) :
    breakOn? p (p ++ t) = some ([], t) := by
  obtain ⟨c, p, rfl⟩ := List.exists_cons_of_ne_nil hp
  exact breakOn?_cons_of_some (after?_append (c :: p) t)

/-- The search fails exactly on the texts without the pattern. -/
theorem breakOn?_eq_none_iff {p t : Text} : breakOn? p t = none ↔ ¬ p <:+: t := by
  induction t with
  | nil =>
    rw [List.infix_nil]
    cases p with
    | nil => simp [breakOn?, after?]
    | cons c p => simp [breakOn?, after?]
  | cons c t ih =>
    rw [List.infix_cons_iff, not_or, ← after?_eq_none_iff]
    cases h : after? p (c :: t) with
    | none => rw [breakOn?_cons_of_none h, Option.map_eq_none_iff, ih]; simp
    | some r => rw [breakOn?_cons_of_some h]; simp

theorem length_of_breakOn? {p t before after : Text} (hp : p ≠ [])
    (h : breakOn? p t = some (before, after)) : after.length < t.length := by
  have hlen := congrArg List.length (eq_of_breakOn? h)
  have hpos := List.length_pos_iff.2 hp
  rw [List.length_append, List.length_append] at hlen
  omega

/-- The place found is the first: the pattern does not stand in front of it. -/
theorem not_infix_of_breakOn? {p t before after : Text} (hp : p ≠ [])
    (h : breakOn? p t = some (before, after)) : ¬ p <:+: before := by
  induction t generalizing before with
  | nil => rw [breakOn?_nil hp] at h; cases h
  | cons c t ih =>
    cases hc : after? p (c :: t) with
    | some r =>
      rw [breakOn?_cons_of_some hc] at h
      cases h
      rwa [List.infix_nil]
    | none =>
      rw [breakOn?_cons_of_none hc, Option.map_eq_some_iff] at h
      obtain ⟨⟨b, a⟩, hba, he⟩ := h
      cases he
      rw [List.infix_cons_iff, not_or]
      refine ⟨fun hb => after?_eq_none_iff.1 hc (hb.trans ?_), ih hba⟩
      rw [eq_of_breakOn? hba, List.append_assoc, ← List.cons_append]
      exact List.prefix_append _ _

/-- The place found stays the first when the text goes on. -/
theorem breakOn?_append_of_some {p a before after : Text}
    (h : breakOn? p a = some (before, after)) (b : Text) :
    breakOn? p (a ++ b) = some (before, after ++ b) := by
  induction a generalizing before with
  | nil =>
    cases p with
    | cons c p => rw [breakOn?_nil (List.cons_ne_nil c p)] at h; cases h
    | nil =>
      cases h
      cases b with
      | nil => rfl
      | cons c b => rfl
  | cons c a ih =>
    cases hc : after? p (c :: a) with
    | some r =>
      rw [breakOn?_cons_of_some hc] at h
      cases h
      exact breakOn?_cons_of_some (after?_append_of_some hc b)
    | none =>
      rw [breakOn?_cons_of_none hc, Option.map_eq_some_iff] at h
      obtain ⟨⟨before', after'⟩, hbreak, he⟩ := h
      cases he
      have hlength : p.length ≤ (c :: a).length := by
        rw [eq_of_breakOn? hbreak]
        simp only [List.length_cons, List.length_append]
        omega
      -- the pattern is no longer than `c :: a`, so it would stand within it
      have hnone : after? p (c :: (a ++ b)) = none := by
        rw [after?_eq_none_iff] at hc ⊢
        rwa [← List.cons_append, List.isPrefix_append_of_length hlength]
      rw [List.cons_append, breakOn?_cons_of_none hnone, ih hbreak]
      rfl

/-- Two different characters are found right behind a text that does not hold them. -/
theorem breakOn?_append_pair {x y : Char} (hxy : x ≠ y) {a : Text} (ha : ¬ [x, y] <:+: a)
    (b : Text) : breakOn? [x, y] (a ++ x :: y :: b) = some (a, b) := by
  induction a with
  | nil => exact breakOn?_append (List.cons_ne_nil x [y]) b
  | cons c a ih =>
    rw [List.infix_cons_iff, not_or] at ha
    have hnone : after? [x, y] (c :: (a ++ x :: y :: b)) = none := by
      cases a with
      | nil =>
        -- the next character is `x`, where `y` is wanted
        by_cases h : x = c
        · rw [after?, if_pos h]; exact after?_cons_of_ne (Ne.symm hxy) _ _
        · exact after?_cons_of_ne h _ _
      | cons d a =>
        rw [after?_eq_none_iff]
        intro hpre
        rw [List.cons_append, List.cons_prefix_cons, List.cons_prefix_cons] at hpre
        obtain ⟨rfl, rfl, -⟩ := hpre
        exact ha.1 ⟨a, rfl⟩
    rw [List.cons_append, breakOn?_cons_of_none hnone, ih ha.2]
    rfl

/-! ## Lines -/

/-- A pattern without line feed is looked for line by line. -/
theorem breakOn?_append_feed {p : Text} (hne : p ≠ []) (hp : '\n' ∉ p) (a b : Text) :
    breakOn? p (a ++ '\n' :: b) =
      match breakOn? p a with
      | some (before, after) => some (before, after ++ '\n' :: b)
      | none => (breakOn? p b).map fun parts => (a ++ '\n' :: parts.1, parts.2) := by
  induction a with
  | nil =>
    have h : after? p ('\n' :: b) = none := by
      rw [← List.nil_append ('\n' :: b), after?_append_cons hp]
      obtain ⟨c, q, rfl⟩ := List.exists_cons_of_ne_nil hne
      rfl
    rw [breakOn?_nil hne, List.nil_append, breakOn?_cons_of_none h]
    rfl
  | cons c a ih =>
    have hfeed := after?_append_cons hp (c :: a) b
    cases hc : after? p (c :: a) with
    | some r =>
      rw [hc, List.cons_append] at hfeed
      rw [List.cons_append, breakOn?_cons_of_some hfeed, breakOn?_cons_of_some hc]
    | none =>
      rw [hc, List.cons_append] at hfeed
      rw [List.cons_append, breakOn?_cons_of_none hfeed, breakOn?_cons_of_none hc, ih]
      cases breakOn? p a with
      | some parts => rfl
      | none => rw [Option.map_map]; rfl

theorem infix_append_feed_iff {p : Text} (hne : p ≠ []) (hp : '\n' ∉ p) (a b : Text) :
    p <:+: a ++ '\n' :: b ↔ p <:+: a ∨ p <:+: b := by
  rw [← not_iff_not, not_or, ← breakOn?_eq_none_iff, ← breakOn?_eq_none_iff,
    ← breakOn?_eq_none_iff, breakOn?_append_feed hne hp]
  cases breakOn? p a with
  | some parts => simp
  | none => simp

@[simp] theorem unlines_nil : unlines [] = [] := rfl

@[simp] theorem unlines_cons (l : Text) (ls : List Text) :
    unlines (l :: ls) = l ++ '\n' :: unlines ls := by
  rw [unlines, List.flatMap_cons, List.append_assoc]; rfl

theorem unlines_append (as bs : List Text) : unlines (as ++ bs) = unlines as ++ unlines bs :=
  List.flatMap_append

/-- A pattern without line feed stands in a text made of lines exactly if it stands in a line. -/
theorem infix_unlines_iff {p : Text} (hne : p ≠ []) (hp : '\n' ∉ p) (ls : List Text) :
    p <:+: unlines ls ↔ ∃ l ∈ ls, p <:+: l := by
  induction ls with
  | nil => simp [hne]
  | cons l ls ih =>
    rw [unlines_cons, infix_append_feed_iff hne hp, ih, List.exists_mem_cons_iff]

/-- A pattern without line feed stands in joined lines exactly if it stands in a line. -/
theorem infix_intercalate_feed_iff {p : Text} (hne : p ≠ []) (hp : '\n' ∉ p) (ls : List Text) :
    p <:+: ['\n'].intercalate ls ↔ ∃ l ∈ ls, p <:+: l := by
  induction ls with
  | nil => simp [hne]
  | cons l ls ih =>
    cases ls with
    | nil => simp
    | cons m ls =>
      rw [List.intercalate_cons_cons, List.append_assoc, List.singleton_append,
        infix_append_feed_iff hne hp, ih, ← List.exists_mem_cons_iff]

/-! ## All places -/

/-- The texts between the places of `pattern` in `t`, taken from the left and without overlap. No
pattern is empty. -/
def pieces (pattern t : Text) : List Text :=
  if _ne : pattern = [] then [t]
  else
    match _found : breakOn? pattern t with
    | none => [t]
    | some (before, after) => before :: pieces pattern after
termination_by t.length
decreasing_by exact length_of_breakOn? _ne _found

/-- How often `pattern` stands in `t`, counted from the left and without overlap. -/
def tally (pattern t : Text) : Nat := (pieces pattern t).length - 1

theorem pieces_of_none {p t : Text} (h : breakOn? p t = none) : pieces p t = [t] := by
  unfold pieces
  by_cases hp : p = []
  · rw [dif_pos hp]
  · rw [dif_neg hp]
    split
    · rfl
    · next hs => rw [h] at hs; cases hs

theorem pieces_of_some {p t before after : Text} (hp : p ≠ [])
    (h : breakOn? p t = some (before, after)) : pieces p t = before :: pieces p after := by
  rw [pieces, dif_neg hp]
  split
  · next hn => rw [h] at hn; cases hn
  · next b a hs => rw [h] at hs; cases hs; rfl

theorem pieces_of_not_infix {p t : Text} (h : ¬ p <:+: t) : pieces p t = [t] :=
  pieces_of_none (breakOn?_eq_none_iff.2 h)

theorem pieces_append {p : Text} (hp : p ≠ []) (t : Text) : pieces p (p ++ t) = [] :: pieces p t :=
  pieces_of_some hp (breakOn?_append hp t)

theorem pieces_ne_nil (p t : Text) : pieces p t ≠ [] := by
  cases h : breakOn? p t with
  | none => rw [pieces_of_none h]; exact List.cons_ne_nil _ _
  | some parts =>
    by_cases hp : p = []
    · rw [pieces, dif_pos hp]; exact List.cons_ne_nil _ _
    · rw [pieces_of_some hp h]; exact List.cons_ne_nil _ _

theorem length_pieces (p t : Text) : (pieces p t).length = tally p t + 1 := by
  have := List.length_pos_iff.2 (pieces_ne_nil p t)
  unfold tally
  omega

/-- A text does not hold a pattern exactly if the pattern is counted zero times. -/
theorem tally_eq_zero_iff {p : Text} (hp : p ≠ []) (t : Text) : tally p t = 0 ↔ ¬ p <:+: t := by
  rw [← breakOn?_eq_none_iff]
  cases h : breakOn? p t with
  | none => rw [tally, pieces_of_none h]; simp
  | some parts =>
    rw [tally, pieces_of_some hp h, List.length_cons, length_pieces]
    simp

theorem tally_append {p : Text} (hp : p ≠ []) (t : Text) : tally p (p ++ t) = tally p t + 1 := by
  rw [tally, pieces_append hp, List.length_cons, length_pieces]
  rfl

/-- A line without the pattern becomes part of the first piece after it. -/
theorem pieces_append_feed_of_not_infix {p a : Text} (hne : p ≠ []) (hp : '\n' ∉ p)
    (ha : ¬ p <:+: a) (b : Text) :
    pieces p (a ++ '\n' :: b) = (pieces p b).modifyHead (a ++ '\n' :: ·) := by
  have h := breakOn?_append_feed hne hp a b
  rw [breakOn?_eq_none_iff.2 ha] at h
  cases hb : breakOn? p b with
  | none =>
    rw [hb] at h
    rw [pieces_of_none h, pieces_of_none hb]
    rfl
  | some parts =>
    rw [hb] at h
    rw [pieces_of_some hne h, pieces_of_some hne hb]
    rfl

/-- The places of a pattern without line feed are counted line by line. -/
theorem tally_append_feed {p : Text} (hne : p ≠ []) (hp : '\n' ∉ p) (a b : Text) :
    tally p (a ++ '\n' :: b) = tally p a + tally p b := by
  fun_induction pieces p a with
  | case1 t h => exact absurd h hne
  | case2 t _ hnone =>
    have ha := breakOn?_eq_none_iff.1 hnone
    have hb := length_pieces p b
    rw [(tally_eq_zero_iff hne t).2 ha, tally, pieces_append_feed_of_not_infix hne hp ha,
      List.length_modifyHead]
    omega
  | case3 t _ before after hsome ih =>
    have h := breakOn?_append_feed hne hp t b
    rw [hsome] at h
    have h₁ := length_pieces p after
    have h₂ := length_pieces p (after ++ '\n' :: b)
    rw [tally, tally, pieces_of_some hne h, pieces_of_some hne hsome, List.length_cons,
      List.length_cons]
    omega

end Marginalia.Text
