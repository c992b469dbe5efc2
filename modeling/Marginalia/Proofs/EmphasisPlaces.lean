import Marginalia.Proofs.BlockScan
import Marginalia.Text.Utf8

/-!
# Places of emphasised comments

A comment with `!` directly behind its opener is told by its place in octets, and the place is
counted from the other end: the source less what is left of it.

1. What is left behind an opener is an end of the source, opener and all (`suffix_of_mem_behind`),
   so the count never goes below zero, and it gives the octets in front of the opener
   (`octets_sub`).
2. The loop stops at the comments of the source taken apart and nowhere else (`insides_eq`), each
   time with less left than before (`behind_decreasing`), so the places go up.
-/

namespace Marginalia

/-! ## Octets -/

namespace Text

theorem octets_append (s t : Text) : (s ++ t).octets = s.octets + t.octets := by
  rw [← Utf8.length_encode, Utf8.encode_append, List.length_append, Utf8.length_encode,
    Utf8.length_encode]

theorem octets_le_of_suffix {s t : Text} (h : s <:+ t) : s.octets ≤ t.octets := by
  obtain ⟨front, rfl⟩ := h
  rw [octets_append]
  exact Nat.le_add_left _ _

end Text

/-! ## Emphasis -/

namespace Comment

theorem firstMarker_eq_some_bang_iff (t : Text) : firstMarker t = some '!' ↔ ['!'] <+: t := by
  cases t with
  | nil => simp [firstMarker]
  | cons c t =>
    have hcloser : closer <+: c :: t → c = '*' := fun h => (List.cons_prefix_cons.1 h).1.symm
    simp only [firstMarker, List.head?_cons, Option.filter_some, List.cons_prefix_cons,
      List.nil_prefix, and_true]
    grind

/-- A comment is emphasised if `!` is the first character behind its opener. -/
theorem intensified_read_iff (t : Text) : (read t).1.intensified = true ↔ ['!'] <+: t := by
  obtain ⟨hfits, hinside⟩ := fits_read t
  rw [← firstMarker_eq_some_bang_iff, intensified, decide_eq_true_iff, hfits.marker, hinside]

end Comment

namespace Scan

open Comment (opener)

/-! ## What is left behind an opener -/

/-- What is left behind the opener of each of these comments. -/
def behind : List (Comment × Text) → List Text
  | [] => []
  | (k, code) :: more => k.inside (code ++ commentsText more) :: behind more

/-- The loop stops once at each comment of the source. -/
theorem insides_eq (source : Text) : insides source = behind (ofText source).comments := by
  fun_induction insides source with
  | case1 source hcut => rw [ofText_of_none hcut, behind]
  | case2 source lead t hcut k hread =>
    have hinside := (Comment.fits_read t).2
    rw [hread] at hinside
    rw [ofText_of_open hcut hread]
    exact congrArg ([·]) hinside.symm
  | case3 source lead t hcut k rest hread ih =>
    have hinside := (Comment.fits_read t).2
    rw [hread, Option.getD_some] at hinside
    rw [ofText_of_closed hcut hread, behind, (ofText_of rest).lead_append, hinside, ih]

theorem opener_append_inside (k : Comment) (code : Text) (more : List (Comment × Text)) :
    opener ++ k.inside (code ++ commentsText more) = commentsText ((k, code) :: more) := by
  rw [commentsText_cons, Comment.text_append]
  rfl

theorem commentsText_append (front back : List (Comment × Text)) :
    commentsText (front ++ back) = commentsText front ++ commentsText back :=
  List.flatMap_append

/-- From the opener of a comment on, the text is that of the comment and of those after it. -/
theorem mem_behind {comments : List (Comment × Text)} {t : Text} :
    t ∈ behind comments ↔
      ∃ front back, comments = front ++ back ∧ commentsText back = opener ++ t := by
  induction comments with
  | nil =>
    refine iff_of_false List.not_mem_nil ?_
    rintro ⟨front, back, hcomments, hback⟩
    rw [(List.append_eq_nil_iff.1 hcomments.symm).2] at hback
    cases hback
  | cons p more ih =>
    obtain ⟨k, code⟩ := p
    rw [behind, List.mem_cons, ih]
    constructor
    · rintro (rfl | ⟨front, back, rfl, hback⟩)
      · exact ⟨[], (k, code) :: more, rfl, (opener_append_inside k code more).symm⟩
      · exact ⟨(k, code) :: front, back, rfl, hback⟩
    · rintro ⟨front, back, hcomments, hback⟩
      cases front with
      | nil =>
        obtain rfl : (k, code) :: more = back := hcomments
        rw [← opener_append_inside] at hback
        exact Or.inl (List.append_cancel_left hback).symm
      | cons q front =>
        cases hcomments
        exact Or.inr ⟨front, back, rfl, hback⟩

/-- What is left behind an opener is an end of the text, opener and all. -/
theorem suffix_of_mem_behind {comments : List (Comment × Text)} {t : Text}
    (ht : t ∈ behind comments) : opener ++ t <:+ commentsText comments := by
  obtain ⟨front, back, rfl, hback⟩ := mem_behind.1 ht
  rw [← hback, commentsText_append]
  exact List.suffix_append _ _

theorem octets_lt_of_mem_behind {comments : List (Comment × Text)} {t : Text}
    (ht : t ∈ behind comments) : t.octets < (commentsText comments).octets := by
  have hle := Text.octets_le_of_suffix (suffix_of_mem_behind ht)
  have hopener : opener.octets = 2 := rfl
  rw [Text.octets_append] at hle
  omega

/-- There is less left behind each opener than behind those before it. -/
theorem behind_decreasing (comments : List (Comment × Text)) :
    (behind comments).Pairwise fun t u => u.octets < t.octets := by
  induction comments with
  | nil => exact List.Pairwise.nil
  | cons p more ih =>
    obtain ⟨k, code⟩ := p
    refine List.Pairwise.cons (fun t ht => ?_) ih
    have hmore : commentsText more <:+ k.inside (code ++ commentsText more) :=
      (List.suffix_append code _).trans (Comment.suffix_inside k _)
    exact (octets_lt_of_mem_behind ht).trans_le (Text.octets_le_of_suffix hmore)

/-! ## Places -/

/-- A comment of `s` with `!` behind its opener has `n` octets in front of it. -/
def EmphasisedAt (s : Scan) (n : Nat) : Prop :=
  ∃ front back, s.comments = front ++ back ∧ "/*!".toList <+: commentsText back ∧
    (Utf8.encode (s.lead ++ commentsText front)).length = n

theorem Of.eq_append {s : Scan} {source : Text} (h : s.Of source)
    {front back : List (Comment × Text)} (hs : s.comments = front ++ back) :
    source = (s.lead ++ commentsText front) ++ commentsText back := by
  rw [← h.lead_append, hs, commentsText_append, List.append_assoc]

/-- The octets in front of an opener are those of the whole without what is left behind it. -/
theorem octets_sub {source front t : Text} (h : source = front ++ (opener ++ t)) :
    source.octets - t.octets - opener.octets = front.octets := by
  rw [h, Text.octets_append, Text.octets_append]
  omega

theorem suffix_of_mem_insides {source t : Text} (ht : t ∈ insides source) :
    opener ++ t <:+ source := by
  have htext := (ofText_of source).lead_append
  rw [insides_eq] at ht
  exact (suffix_of_mem_behind ht).trans ⟨_, htext⟩

/-- No octets are taken away that are not there. -/
theorem octets_of_mem_insides {source t : Text} (ht : t ∈ insides source) :
    t.octets ≤ source.octets ∧ opener.octets ≤ source.octets - t.octets := by
  have hle := Text.octets_le_of_suffix (suffix_of_mem_insides ht)
  rw [Text.octets_append] at hle
  omega

/-- The places go up since what is left goes down. -/
theorem places_increasing (source : Text) : (places source).Pairwise (· < ·) := by
  have hleft : (insides source).Pairwise fun t u => u.octets < t.octets := by
    rw [insides_eq]
    exact behind_decreasing _
  rw [places, List.pairwise_map]
  refine (hleft.filter _).imp_of_mem fun ht hu hlt => ?_
  have ht' := octets_of_mem_insides (List.mem_of_mem_filter ht)
  have hu' := octets_of_mem_insides (List.mem_of_mem_filter hu)
  omega

theorem mem_places {source : Text} {n : Nat} :
    n ∈ places source ↔ (ofText source).EmphasisedAt n := by
  simp only [places, List.mem_map, List.mem_filter, Comment.intensified_read_iff, insides_eq,
    mem_behind]
  constructor
  · rintro ⟨t, ⟨⟨front, back, hcomments, hback⟩, hbang⟩, rfl⟩
    have hsource := (ofText_of source).eq_append hcomments
    rw [hback] at hsource
    refine ⟨front, back, hcomments, ?_, ?_⟩
    · rw [hback]
      exact (List.prefix_append_right_inj opener).2 hbang
    · rw [octets_sub hsource, Utf8.length_encode]
  · rintro ⟨front, back, hcomments, ⟨u, hu⟩, rfl⟩
    have hback : commentsText back = opener ++ '!' :: u := hu.symm
    have hsource := (ofText_of source).eq_append hcomments
    rw [hback] at hsource
    refine ⟨'!' :: u, ⟨⟨front, back, hcomments, hback⟩, ⟨u, rfl⟩⟩, ?_⟩
    rw [octets_sub hsource, Utf8.length_encode]

/-- At the place of an emphasised comment stand the octets of `/*!`. -/
theorem EmphasisedAt.octets {s : Scan} {source : Text} (hs : s.Of source) {n : Nat}
    (h : s.EmphasisedAt n) : ((Utf8.encode source).drop n).take 3 = [0x2F, 0x2A, 0x21] := by
  obtain ⟨front, back, hcomments, ⟨u, hu⟩, rfl⟩ := h
  rw [hs.eq_append hcomments, ← hu, Utf8.encode_append _ ("/*!".toList ++ u), List.drop_left,
    Utf8.encode_append]
  rfl

end Scan

/-- **Places of emphasised comments.** A source is taken apart in one way, and what is told of it,
from the first place to the last, is how many octets stand in front of each of its comments with
`!` directly behind the opener. In counting them no more octets are taken away than there are. -/
theorem blockJournal_places (source : Text) :
    ∃ s : Scan, (∀ t : Scan, t.Of source ↔ t = s) ∧
      blockJournal source = (Scan.places source).map (fun n =>
        ⟨.trace, .sections, "intensified comment at byte ".toList ++ Text.ofNat n⟩) ∧
      (Scan.places source).Pairwise (· < ·) ∧
      (∀ n ∈ Scan.places source, ((Utf8.encode source).drop n).take 3 = [0x2F, 0x2A, 0x21]) ∧
      (∀ n, n ∈ Scan.places source ↔ s.EmphasisedAt n) ∧
      ∀ t ∈ Scan.insides source,
        t.octets ≤ source.octets ∧ Comment.opener.octets ≤ source.octets - t.octets :=
  ⟨Scan.ofText source, fun t => Scan.of_iff t source, rfl, Scan.places_increasing source,
    fun _ hn => (Scan.mem_places.1 hn).octets (Scan.ofText_of source), fun _ => Scan.mem_places,
    fun _ ht => Scan.octets_of_mem_insides ht⟩

/-- Characters of two octets in front, an emphasis inside a comment, and a comment left open. -/
example : Scan.places "é /*! ü /*! */\r\n/*!*/ */*!".toList = [3, 18, 25] := by cbv

end Marginalia
