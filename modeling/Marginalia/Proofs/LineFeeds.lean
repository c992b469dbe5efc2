import Marginalia.Divider
import Marginalia.Proofs.Occurrence
import Mathlib.Data.List.DropRight

/-!
# Line feeds

The lines of a text are the pieces between its line feeds, without the empty piece behind a final
one (`lines_eq`). The lines with something in them, `Text.filledLines`, do not change when line
feeds are added or taken away at either end of the text (`filledLines_trimFeeds`): dividers may
take line feeds with them and lose no line. What is taken away is a run of line feeds
(`exists_feeds_append`, `exists_append_feeds`).
-/

namespace Marginalia.Text

open Marginalia.Language (isLineFeed)

/-! ## Line feeds at the ends -/

theorem isLineFeed_feed : isLineFeed '\n' = true := rfl

theorem isLineFeed_of_ne {c : Char} (h : c ≠ '\n') : isLineFeed c = false := decide_eq_false h

theorem dropEndWhile_concat (p : Char → Bool) (t : Text) (c : Char) :
    dropEndWhile p (t ++ [c]) = if p c then dropEndWhile p t else t ++ [c] :=
  List.rdropWhile_concat p t c

/-- `t` without the line feeds at its front, at its back, or at both. -/
def trimFeeds (front back : Bool) (t : Text) : Text :=
  let t := if front then t.dropWhile isLineFeed else t
  if back then dropEndWhile isLineFeed t else t

/-- `t` with a line feed at its front, at its back, or at both. -/
def padFeeds (front back : Bool) (t : Text) : Text :=
  (if front then ['\n'] else []) ++ (t ++ if back then ['\n'] else [])

theorem dropEndWhile_concat_feed (t : Text) :
    dropEndWhile isLineFeed (t ++ ['\n']) = dropEndWhile isLineFeed t := by
  rw [dropEndWhile_concat, if_pos isLineFeed_feed]

/-- Behind line feeds that are dropped at the front, a final one still counts for nothing. -/
theorem dropEndWhile_dropWhile_concat_feed (t : Text) :
    dropEndWhile isLineFeed ((t ++ ['\n']).dropWhile isLineFeed) =
      dropEndWhile isLineFeed (t.dropWhile isLineFeed) := by
  rw [List.dropWhile_append]
  by_cases h : (t.dropWhile isLineFeed).isEmpty
  · rw [if_pos h, List.isEmpty_iff.1 h]; rfl
  · rw [if_neg h, dropEndWhile_concat_feed]

theorem trimFeeds_padFeeds (front back : Bool) (t : Text) :
    trimFeeds front back (padFeeds front back t) = trimFeeds front back t := by
  cases front with
  | false =>
    cases back with
    | false => simp [trimFeeds, padFeeds]
    | true => exact dropEndWhile_concat_feed t
  | true =>
    cases back with
    | false => simp [trimFeeds, padFeeds, List.dropWhile_cons, isLineFeed_feed]
    | true => exact dropEndWhile_dropWhile_concat_feed t

/-! ## Runs of line feeds -/

/-- A run of `n` line feeds. -/
def feeds (n : Nat) : Text := List.replicate n '\n'

theorem reverse_feeds (n : Nat) : (feeds n).reverse = feeds n := List.reverse_replicate

theorem not_mem_feeds {c : Char} (hc : c ≠ '\n') (n : Nat) : c ∉ feeds n :=
  fun h => hc (List.eq_of_mem_replicate h)

theorem isLineFeed_of_mem_feeds {n : Nat} {c : Char} (h : c ∈ feeds n) : isLineFeed c = true := by
  rw [List.eq_of_mem_replicate h, isLineFeed_feed]

theorem head?_dropWhile_ne (t : Text) : (t.dropWhile isLineFeed).head? ≠ some '\n' := by
  intro h
  have hnot := List.head?_dropWhile_not isLineFeed t
  rw [h] at hnot
  cases hnot

theorem dropWhile_eq_self {t : Text} (h : t.head? ≠ some '\n') : t.dropWhile isLineFeed = t := by
  cases t with
  | nil => rfl
  | cons c t =>
    have hc : c ≠ '\n' := fun e => h (congrArg some e)
    rw [List.dropWhile_cons, isLineFeed_of_ne hc, if_neg Bool.false_ne_true]

theorem dropWhile_feeds_append (n : Nat) (t : Text) :
    (feeds n ++ t).dropWhile isLineFeed = t.dropWhile isLineFeed :=
  List.dropWhile_append_of_pos fun _ hc => isLineFeed_of_mem_feeds hc

theorem exists_feeds_append (t : Text) : ∃ n, t = feeds n ++ t.dropWhile isLineFeed := by
  have hfeeds : t.takeWhile isLineFeed = feeds (t.takeWhile isLineFeed).length := by
    refine List.eq_replicate_iff.2 ⟨rfl, fun c hc => ?_⟩
    have hfeed := List.mem_takeWhile_imp hc
    exact of_decide_eq_true hfeed
  refine ⟨(t.takeWhile isLineFeed).length, ?_⟩
  rw [← hfeeds, List.takeWhile_append_dropWhile]

theorem getLast?_dropEndWhile_ne (t : Text) :
    (dropEndWhile isLineFeed t).getLast? ≠ some '\n' := by
  unfold dropEndWhile
  rw [List.getLast?_reverse]
  exact head?_dropWhile_ne t.reverse

theorem dropEndWhile_append_feeds {t : Text} (h : t.getLast? ≠ some '\n') (n : Nat) :
    dropEndWhile isLineFeed (t ++ feeds n) = t := by
  unfold dropEndWhile
  rw [← List.head?_reverse] at h
  rw [List.reverse_append, reverse_feeds, dropWhile_feeds_append, dropWhile_eq_self h,
    List.reverse_reverse]

theorem exists_append_feeds (t : Text) : ∃ n, t = dropEndWhile isLineFeed t ++ feeds n := by
  obtain ⟨n, hn⟩ := exists_feeds_append t.reverse
  refine ⟨n, ?_⟩
  unfold dropEndWhile
  rw [← reverse_feeds n, ← List.reverse_append, ← hn, List.reverse_reverse]

/-! ## Line feeds at seams

Where two texts of a list meet, each of them may gain or lose line feeds. -/

/-- The texts of a list, each without line feeds where it meets another. -/
def trimSeams (ts : List Text) : List Text :=
  ts.mapIdx fun i t => trimFeeds (0 < i) (i + 1 < ts.length) t

/-- The texts of a list, each with a line feed where it meets another. -/
def padSeams (ts : List Text) : List Text :=
  ts.mapIdx fun i t => padFeeds (0 < i) (i + 1 < ts.length) t

theorem length_trimSeams (ts : List Text) : (trimSeams ts).length = ts.length :=
  List.length_mapIdx

theorem trimSeams_singleton (t : Text) : trimSeams [t] = [t] := rfl

theorem padSeams_singleton (t : Text) : padSeams [t] = [t] := by
  simp [padSeams, padFeeds]

theorem trimSeams_cons_cons (t u : Text) (ts : List Text) :
    trimSeams (t :: u :: ts) =
      dropEndWhile isLineFeed t :: trimSeams (u.dropWhile isLineFeed :: ts) := by
  simp only [trimSeams, List.mapIdx_cons, List.length_cons]
  refine congrArg₂ _ ?_ (congrArg₂ _ ?_ ?_)
  · simp [trimFeeds]
  · simp [trimFeeds]
  · simp

theorem padSeams_cons_cons (t u : Text) (ts : List Text) :
    padSeams (t :: u :: ts) = (t ++ ['\n']) :: (padSeams (u :: ts)).modifyHead ('\n' :: ·) := by
  simp only [padSeams, List.mapIdx_cons, List.length_cons, List.modifyHead_cons]
  refine congrArg₂ _ ?_ (congrArg₂ _ ?_ ?_)
  · simp [padFeeds]
  · simp [padFeeds]
  · simp

/-- Line feeds added at the seams are lost again when the seams are trimmed. -/
theorem trimSeams_padSeams (ts : List Text) : trimSeams (padSeams ts) = trimSeams ts := by
  unfold trimSeams padSeams
  rw [List.mapIdx_mapIdx, List.length_mapIdx]
  refine congrArg (List.mapIdx · ts) ?_
  funext i t
  exact trimFeeds_padFeeds _ _ t

/-! ## Lines with something in them -/

/-- The lines of `t` that are not empty. -/
def filledLines (t : Text) : List Text := (t.splitOn '\n').filter (· ≠ [])

@[simp] theorem filledLines_nil : filledLines [] = [] := rfl

theorem filledLines_append_feed (a b : Text) :
    filledLines (a ++ '\n' :: b) = filledLines a ++ filledLines b := by
  unfold filledLines
  rw [List.splitOn_append_cons_self, List.filter_append]

theorem filledLines_cons_feed (t : Text) : filledLines ('\n' :: t) = filledLines t := by
  simpa using filledLines_append_feed [] t

theorem filledLines_concat_feed (t : Text) : filledLines (t ++ ['\n']) = filledLines t := by
  simpa using filledLines_append_feed t []

theorem filledLines_unlines {ls : List Text} (h : ∀ l ∈ ls, '\n' ∉ l) :
    filledLines (unlines ls) = ls.filter (· ≠ []) := by
  induction ls with
  | nil => rfl
  | cons l ls ih =>
    rw [List.forall_mem_cons] at h
    rw [unlines_cons, filledLines_append_feed, ih h.2]
    unfold filledLines
    rw [List.splitOn_eq_singleton h.1, ← List.filter_append, List.singleton_append]

theorem filledLines_dropWhile (t : Text) :
    filledLines (t.dropWhile isLineFeed) = filledLines t := by
  induction t with
  | nil => rfl
  | cons c t ih =>
    by_cases h : c = '\n'
    · rw [h, List.dropWhile_cons, if_pos isLineFeed_feed, ih, filledLines_cons_feed]
    · rw [List.dropWhile_cons, if_neg (by rw [isLineFeed_of_ne h]; exact Bool.false_ne_true)]

theorem filledLines_dropEndWhile (t : Text) :
    filledLines (dropEndWhile isLineFeed t) = filledLines t := by
  induction t using List.reverseRecOn with
  | nil => rfl
  | append_singleton t c ih =>
    rw [dropEndWhile_concat]
    by_cases h : c = '\n'
    · rw [h, if_pos isLineFeed_feed, ih, filledLines_concat_feed]
    · rw [if_neg (by rw [isLineFeed_of_ne h]; exact Bool.false_ne_true)]

/-- Line feeds at the ends of a text hold no line with something in it. -/
theorem filledLines_trimFeeds (front back : Bool) (t : Text) :
    filledLines (trimFeeds front back t) = filledLines t := by
  cases front with
  | false =>
    cases back with
    | false => rfl
    | true => exact filledLines_dropEndWhile t
  | true =>
    cases back with
    | false => exact filledLines_dropWhile t
    | true => exact (filledLines_dropEndWhile _).trans (filledLines_dropWhile t)

/-! ## Lines -/

theorem not_mem_of_mem_splitOn {α : Type} [BEq α] [LawfulBEq α] {t l : List α} {x : α}
    (h : l ∈ t.splitOn x) : x ∉ l := by
  induction t generalizing l with
  | nil =>
    rw [List.splitOn_nil, List.mem_singleton] at h
    subst h
    exact List.not_mem_nil
  | cons c t ih =>
    rw [List.splitOn_cons_eq_if_modifyHead] at h
    by_cases hc : (c == x) = true
    · rw [if_pos hc, List.mem_cons] at h
      rcases h with rfl | h
      · exact List.not_mem_nil
      · exact ih h
    · obtain ⟨m, ms, hm⟩ := List.exists_cons_of_ne_nil (List.splitOn_ne_nil x t)
      rw [if_neg hc, hm, List.modifyHead_cons, List.mem_cons] at h
      rw [hm] at ih
      rcases h with rfl | h
      · rw [List.mem_cons, not_or]
        exact ⟨fun e => hc (by rw [e]; exact beq_self_eq_true c), ih List.mem_cons_self⟩
      · exact ih (List.mem_cons_of_mem m h)

theorem mem_of_mem_splitOn_feed {t l : Text} {c : Char} (hl : l ∈ t.splitOn '\n') (hc : c ∈ l)
    (hfeed : c ≠ '\n') : c ∈ t := by
  have hpieces : ['\n'].intercalate (t.splitOn '\n') = t := List.intercalate_splitOn '\n'
  rw [← List.singleton_infix_iff] at hc ⊢
  rw [← hpieces, infix_intercalate_feed_iff (List.cons_ne_nil c []) (by simpa using hfeed.symm)]
  exact ⟨l, hl, hc⟩

/-- The last piece of a text that does not end in a line feed has something in it. -/
theorem getLast?_splitOn_concat {c : Char} (hc : c ≠ '\n') (t : Text) :
    ((t ++ [c]).splitOn '\n').getLast? ≠ some [] := by
  induction t with
  | nil =>
    rw [List.nil_append, List.splitOn_eq_singleton (by simpa using Ne.symm hc)]
    simp
  | cons d t ih =>
    rw [List.cons_append, List.splitOn_cons_eq_if_modifyHead]
    obtain ⟨m, ms, hm⟩ := List.exists_cons_of_ne_nil (List.splitOn_ne_nil '\n' (t ++ [c]))
    rw [hm] at ih ⊢
    by_cases hd : (d == '\n') = true
    · rw [if_pos hd, List.getLast?_cons_cons]
      exact ih
    · rw [if_neg hd, List.modifyHead_cons]
      cases ms with
      | nil => simp
      | cons n ns => rw [List.getLast?_cons_cons] at ih ⊢; exact ih

theorem dropFirst_suffix (x : Char) (t : Text) : dropFirst x t <:+ t := by
  cases t with
  | nil => exact List.suffix_refl []
  | cons c t =>
    rw [dropFirst]
    split_ifs
    · exact List.suffix_cons c t
    · exact List.suffix_refl _

theorem dropFinal_concat (x c : Char) (t : Text) :
    dropFinal x (t ++ [c]) = if c = x then t else t ++ [c] := by
  unfold dropFinal
  rw [List.reverse_concat, dropFirst]
  by_cases h : c = x
  · rw [if_pos h, if_pos h, List.reverse_reverse]
  · rw [if_neg h, if_neg h, List.reverse_cons, List.reverse_reverse]

theorem dropFinal_eq_self {x : Char} {t : Text} (h : x ∉ t) : dropFinal x t = t := by
  induction t using List.reverseRecOn with
  | nil => rfl
  | append_singleton t c _ =>
    rw [dropFinal_concat, if_neg]
    rintro rfl
    simp at h

/-- The lines are the pieces between line feeds, without the empty piece behind a final one. -/
theorem lines_eq (t : Text) :
    lines t =
      if (t.splitOn '\n').getLast? = some [] then (t.splitOn '\n').dropLast
      else t.splitOn '\n' := by
  unfold lines
  induction t using List.reverseRecOn with
  | nil => rfl
  | append_singleton t c _ =>
    rw [if_neg (List.append_ne_nil_of_right_ne_nil t (List.cons_ne_nil c [])), dropFinal_concat]
    by_cases h : c = '\n'
    · have hsplit : (t ++ ['\n']).splitOn '\n' = t.splitOn '\n' ++ [[]] := by
        rw [List.splitOn_append_cons_self, List.splitOn_nil]
      rw [if_pos h, h, hsplit, List.getLast?_concat, if_pos rfl, List.dropLast_concat]
    · rw [if_neg h, if_neg (getLast?_splitOn_concat h t)]

theorem not_mem_of_mem_lines {t l : Text} (h : l ∈ lines t) : '\n' ∉ l := by
  unfold lines at h
  by_cases ht : t = []
  · rw [if_pos ht] at h
    exact absurd h List.not_mem_nil
  · rw [if_neg ht] at h
    exact not_mem_of_mem_splitOn h

end Marginalia.Text
