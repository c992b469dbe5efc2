import Marginalia.Proofs.OctetOrder
import Marginalia.Proofs.PageNames
import Marginalia.Registry
import Mathlib.Data.List.Nodup

/-!
# Registrations

A registry is made by registrations, one after another.

1. It keeps what they say (`Registry.Keeps`): under each key the language of the last one, and no
   other keys. One more registration does not change that (`Keeps.register`), so it holds of every
   registry (`Keeps.registerAll`).
2. A file name has an ending exactly if there is something in front of its last dot
   (`Path.extension?_eq_some_iff`), so no ending has a dot or a slash in it.
3. All that can be asked of a registry follows from the registrations (`registerAll_answers`).
-/

namespace Marginalia

/-! ## File names -/

namespace Path

/-- `name` ends in a dot and then `ending`. The dot is the last one, and something stands in front
of it. -/
def HasEnding (name : Utf8.Octets) (ending : Text) : Prop :=
  '.' ∉ ending ∧ ∃ stem, stem ≠ [] ∧ name = stem ++ dot :: Utf8.encode ending

theorem cutName_append {stem ending : Utf8.Octets} (hstem : stem ≠ []) (hdot : dot ∉ ending) :
    cutName (stem ++ dot :: ending) = (stem, some ending) := by
  have hreverse : (stem ++ dot :: ending).reverse = ending.reverse ++ dot :: stem.reverse := by
    simp
  have hrun : ∀ octet ∈ ending.reverse, decide (octet ≠ dot) = true := fun octet hoctet =>
    decide_eq_true fun heq => hdot (heq ▸ List.mem_reverse.1 hoctet)
  obtain ⟨octet, rest, hrest⟩ := List.exists_cons_of_ne_nil (List.reverse_ne_nil_iff.2 hstem)
  unfold cutName
  rw [hreverse, List.takeWhile_append_of_pos hrun, List.dropWhile_append_of_pos hrun,
    List.takeWhile_cons_of_neg (by simp), List.dropWhile_cons_of_neg (by simp), List.append_nil,
    List.reverse_reverse, hrest]
  show ((octet :: rest).reverse, some ending) = _
  rw [← hrest, List.reverse_reverse]

theorem cutName_snd_iff {name : Utf8.Octets} {ending : Text} :
    (cutName name).2 = some (Utf8.encode ending) ↔ HasEnding name ending := by
  constructor
  · intro h
    obtain ⟨hname, hdot, hstem⟩ :=
      eq_of_cutName (Prod.ext rfl h : cutName name = (_, some (Utf8.encode ending)))
    exact ⟨mt dot_mem_encode_iff.2 hdot, _, hstem, hname⟩
  · rintro ⟨hdot, stem, hstem, rfl⟩
    rw [cutName_append hstem (mt dot_mem_encode_iff.1 hdot)]

theorem extension?_eq_some_iff {p : Path} {ending : Text} :
    p.extension? = some (Utf8.encode ending) ↔
      ∃ name, p.fileName? = some name ∧ HasEnding name ending := by
  unfold extension?
  simp only [Option.bind_eq_some_iff, cutName_snd_iff]

theorem not_slash_of_extension? {p : Path} {ending : Text}
    (h : p.extension? = some (Utf8.encode ending)) : '/' ∉ ending := by
  obtain ⟨name, hname, -, stem, -, rfl⟩ := extension?_eq_some_iff.1 h
  have hslash := not_mem_of_name_mem_components (List.mem_of_getLast? (getLast?_components hname))
  intro hmem
  exact hslash (List.mem_append_right _ (List.mem_cons_of_mem _ (slash_mem_encode_iff.2 hmem)))

end Path

/-! ## Registering -/

/-- What is said when a language is registered. -/
structure Registration where
  extension : Text
  language : Language

namespace Registration

/-- Where a registration is kept. -/
def key (c : Registration) : Text := Registry.key c.extension

/-- The registrations with a key. -/
def under (k : Text) (calls : List Registration) : List Registration :=
  calls.filter fun c => c.key = k

/-- The languages known from the start, as they are registered. -/
def builtin : List Registration :=
  [⟨".coffee".toList, ⟨"coffee-script".toList, ['#'], .line⟩⟩,
    ⟨".js".toList, ⟨"javascript".toList, "//".toList, .block⟩⟩,
    ⟨".rb".toList, ⟨"ruby".toList, ['#'], .line⟩⟩,
    ⟨".py".toList, ⟨"python".toList, ['#'], .line⟩⟩,
    ⟨".tex".toList, ⟨"tex".toList, ['%'], .line⟩⟩,
    ⟨".latex".toList, ⟨"tex".toList, ['%'], .line⟩⟩]

variable {k : Text} {calls : List Registration} {c : Registration}

theorem under_concat (k : Text) (calls : List Registration) (c : Registration) :
    under k (calls ++ [c]) = if c.key = k then under k calls ++ [c] else under k calls := by
  unfold under
  rw [List.filter_append, List.filter_singleton]
  split_ifs with h
  · simp [h]
  · simp [h]

theorem mem_under_iff : c ∈ under k calls ↔ c ∈ calls ∧ c.key = k := by
  unfold under
  rw [List.mem_filter, decide_eq_true_iff]

/-- The last registration with a key has no other behind it. -/
theorem getLast?_under_iff : (under k calls).getLast? = some c ↔
    ∃ before after, calls = before ++ c :: after ∧ c.key = k ∧ ∀ d ∈ after, d.key ≠ k := by
  rw [← List.head?_reverse, under, ← List.filter_reverse, List.head?_filter,
    List.find?_eq_some_iff_append]
  simp only [decide_eq_true_eq, Bool.not_eq_true', decide_eq_false_iff_not]
  constructor
  · rintro ⟨hkey, after, before, hcalls, hafter⟩
    refine ⟨before.reverse, after.reverse, ?_, hkey, fun d hd => hafter d (List.mem_reverse.1 hd)⟩
    rw [← List.reverse_reverse calls, hcalls]
    simp
  · rintro ⟨before, after, rfl, hkey, hafter⟩
    refine ⟨hkey, after.reverse, before.reverse, ?_, fun d hd => hafter d (List.mem_reverse.1 hd)⟩
    simp

end Registration

namespace Registry

open Registration (under builtin)

variable {r : Registry} {calls : List Registration}

/-- A dot in front does not count, and no other character does not. -/
theorem key_spec (extension : Text) :
    (∃ n, extension = List.replicate n '.' ++ key extension) ∧
      (key extension).head? ≠ some '.' := by
  constructor
  · have hdots : extension.takeWhile (· = '.') =
        List.replicate (extension.takeWhile (· = '.')).length '.' := by
      rw [List.eq_replicate_iff]
      exact ⟨rfl, fun c hc => by simpa using List.mem_takeWhile_imp hc⟩
    refine ⟨(extension.takeWhile (· = '.')).length, ?_⟩
    rw [← hdots]
    exact List.takeWhile_append_dropWhile.symm
  · intro hdot
    have hnot := List.head?_dropWhile_not (· = '.') extension
    unfold key at hdot
    rw [hdot] at hnot
    simp at hnot

/-- An extension without a dot in front is its own key. -/
theorem key_eq_self {extension : Text} (h : extension.head? ≠ some '.') :
    key extension = extension := by
  cases extension with
  | nil => rfl
  | cons c t =>
    have hc : ¬ decide (c = '.') = true := by simpa using h
    exact List.dropWhile_cons_of_neg hc

/-- What a registry keeps of the registrations that it was made by. -/
structure Keeps (r : Registry) (calls : List Registration) : Prop where
  lookup_eq : ∀ k, r.entries.lookup k = (under k calls).getLast?.map Registration.language
  nodup : (r.entries.map (·.1)).Nodup

/-- A registry after further registrations. -/
def registerAll (r : Registry) (calls : List Registration) : Registry :=
  calls.foldl (fun r c => r.register c.extension c.language) r

theorem lookup_filter_ne (entries : List (Text × Language)) (a k : Text) :
    (entries.filter fun e => e.1 ≠ a).lookup k = if k = a then none else entries.lookup k := by
  induction entries with
  | nil => simp
  | cons e entries ih =>
    by_cases he : e.1 = a
    · rw [List.filter_cons_of_neg (by simpa using he), ih, List.lookup_cons]
      split_ifs with hk
      · rfl
      · have hne : (k == e.1) = false := beq_eq_false_iff_ne.2 fun h => hk (h.trans he)
        rw [hne]
    · rw [List.filter_cons_of_pos (by simpa using he), List.lookup_cons, List.lookup_cons, ih]
      by_cases hk : k = e.1
      · have hne : k ≠ a := fun h => he (hk.symm.trans h)
        simp only [if_neg hne]
      · rw [beq_eq_false_iff_ne.2 hk]

/-- **One more registration** holds under its key, and nothing else changes. -/
theorem Keeps.register (h : r.Keeps calls) (c : Registration) :
    (r.register c.extension c.language).Keeps (calls ++ [c]) where
  lookup_eq k := by
    show ((c.key, c.language) :: r.entries.filter fun e => e.1 ≠ c.key).lookup k = _
    rw [Registration.under_concat, List.lookup_cons, lookup_filter_ne]
    by_cases hk : k = c.key
    · rw [beq_iff_eq.2 hk, if_pos hk.symm, List.getLast?_concat]
      rfl
    · rw [beq_eq_false_iff_ne.2 hk, if_neg hk, if_neg (Ne.symm hk), h.lookup_eq]
  nodup := by
    show (c.key :: (r.entries.filter fun e => e.1 ≠ c.key).map (·.1)).Nodup
    refine List.nodup_cons.2 ⟨fun hmem => ?_, ?_⟩
    · obtain ⟨e, he, hkey⟩ := List.mem_map.1 hmem
      have hne := (List.mem_filter.1 he).2
      rw [decide_eq_true_iff] at hne
      exact hne hkey
    · exact h.nodup.sublist (List.filter_sublist.map _)

theorem keeps_empty : Registry.empty.Keeps [] where
  lookup_eq _ := rfl
  nodup := List.nodup_nil

/-- **A registry keeps what it was made by** through all further registrations. -/
theorem Keeps.registerAll (h : r.Keeps calls) (more : List Registration) :
    (r.registerAll more).Keeps (calls ++ more) := by
  induction more generalizing r calls with
  | nil => rwa [List.append_nil]
  | cons c more ih =>
    have hmore := ih (h.register c)
    rwa [List.append_assoc] at hmore

theorem keeps_registerAll (calls : List Registration) :
    (Registry.empty.registerAll calls).Keeps calls := keeps_empty.registerAll calls

/-! ## Answers -/

theorem Keeps.get?_eq (h : r.Keeps calls) (extension : Text) :
    r.get? extension = (under (key extension) calls).getLast?.map Registration.language :=
  h.lookup_eq _

theorem Keeps.get?_eq_some_iff (h : r.Keeps calls) {extension : Text} {lang : Language} :
    r.get? extension = some lang ↔ ∃ before c after, calls = before ++ c :: after ∧
      c.key = key extension ∧ (∀ d ∈ after, d.key ≠ key extension) ∧ c.language = lang := by
  rw [h.get?_eq, Option.map_eq_some_iff]
  simp only [Registration.getLast?_under_iff]
  constructor
  · rintro ⟨c, ⟨before, after, hcalls, hkey, hafter⟩, hlang⟩
    exact ⟨before, c, after, hcalls, hkey, hafter, hlang⟩
  · rintro ⟨before, c, after, hcalls, hkey, hafter, hlang⟩
    exact ⟨c, ⟨before, after, hcalls, hkey, hafter⟩, hlang⟩

theorem Keeps.lookup_eq_none_iff (h : r.Keeps calls) {k : Text} :
    r.entries.lookup k = none ↔ ∀ c ∈ calls, c.key ≠ k := by
  rw [h.lookup_eq, Option.map_eq_none_iff, List.getLast?_eq_none_iff,
    List.eq_nil_iff_forall_not_mem]
  simp only [Registration.mem_under_iff, not_and]

theorem Keeps.mem_extensions_iff (h : r.Keeps calls) {k : Text} :
    k ∈ r.extensions ↔ ∃ c ∈ calls, c.key = k := by
  have hkeys : k ∈ r.entries.map (·.1) ↔ r.entries.lookup k ≠ none := by
    rw [ne_eq, List.lookup_eq_none_iff, List.mem_map]
    push Not
    refine exists_congr fun e => and_congr_right fun _ => ?_
    rw [ne_eq, bne_iff_ne, not_not, eq_comm]
  rw [extensions, List.mem_mergeSort, hkeys, ne_eq, h.lookup_eq_none_iff]
  push Not
  rfl

/-- Each key is listed once, and the keys are in order. -/
theorem Keeps.pairwise_extensions (h : r.Keeps calls) :
    (r.extensions.map Utf8.encode).Pairwise (· < ·) := by
  have hsorted : r.extensions.Pairwise fun a b => (a.compare b).isLE = true :=
    List.pairwise_mergeSort Text.isLE_trans Text.isLE_or_isLE _
  have hdistinct : r.extensions.Nodup :=
    (List.mergeSort_perm _ _).nodup_iff.2 h.nodup
  rw [List.pairwise_map]
  refine (hsorted.and hdistinct).imp ?_
  rintro a b ⟨hle, hne⟩
  exact Utf8.encode_lt_of_compare (Text.lt_of_isLE hle hne)

theorem lookup_eq_error {p : Path} (h : ∀ lang, r.lookup p ≠ .ok lang) :
    r.lookup p = .error (.unsupported p) := by
  unfold lookup at h ⊢
  cases hfound : (p.extension?.bind Utf8.decode?).bind r.get? with
  | none => rfl
  | some lang =>
    rw [hfound] at h
    exact absurd rfl (h lang)

theorem lookup_congr {r' : Registry} {p : Path}
    (h : ∀ ending, p.extension? = some (Utf8.encode ending) → r.get? ending = r'.get? ending) :
    r.lookup p = r'.lookup p := by
  have hfound : (p.extension?.bind Utf8.decode?).bind r.get? =
      (p.extension?.bind Utf8.decode?).bind r'.get? := by
    cases hext : p.extension?.bind Utf8.decode? with
    | none => rfl
    | some ending =>
      obtain ⟨octets, hoctets, hending⟩ := Option.bind_eq_some_iff.1 hext
      rw [Utf8.decode?_eq_some_iff] at hending
      exact h ending (hending ▸ hoctets)
  rw [lookup, lookup, hfound]

/-- What can be asked of a registry, as the registrations that it was made by tell it. -/
structure Answers (r : Registry) (calls : List Registration) : Prop where
  /-- Dots in front of an extension do not count. -/
  key_eq : ∀ extension, (∃ n, extension = List.replicate n '.' ++ key extension) ∧
    (key extension).head? ≠ some '.'
  /-- An extension has the language of the last registration with its key. -/
  get?_eq_some : ∀ extension lang, r.get? extension = some lang ↔
    ∃ before c after, calls = before ++ c :: after ∧ key c.extension = key extension ∧
      (∀ d ∈ after, key d.extension ≠ key extension) ∧ c.language = lang
  get?_eq_none : ∀ extension, r.get? extension = none ↔
    ∀ c ∈ calls, key c.extension ≠ key extension
  /-- The keys are listed in the order of their octets, each once. -/
  sorted : (r.extensions.map Utf8.encode).Pairwise (· < ·)
  mem_extensions : ∀ k, k ∈ r.extensions ↔ ∃ c ∈ calls, key c.extension = k
  /-- A path is found by the ending of its file name, and refused by its own name. -/
  lookup_eq_ok : ∀ p lang, r.lookup p = .ok lang ↔
    ∃ name ending, p.fileName? = some name ∧ Path.HasEnding name ending ∧
      r.get? ending = some lang
  lookup_refused : ∀ p, (∃ lang, r.lookup p = .ok lang) ∨
    r.lookup p = .error (.unsupported p)
  /-- What is found for a path is registered under a key without a dot and without a slash. -/
  lookup_plain : ∀ p lang, r.lookup p = .ok lang → ∃ before c after, calls = before ++ c :: after ∧
    '.' ∉ key c.extension ∧ '/' ∉ key c.extension ∧
      (∀ d ∈ after, key d.extension ≠ key c.extension) ∧ c.language = lang
  /-- Registrations under other keys do not matter. -/
  get?_local : ∀ calls' extension, under (key extension) calls = under (key extension) calls' →
    r.get? extension = (Registry.empty.registerAll calls').get? extension
  lookup_local : ∀ calls' p, (∀ name ending, p.fileName? = some name →
    Path.HasEnding name ending → under ending calls = under ending calls') →
      r.lookup p = (Registry.empty.registerAll calls').lookup p

/-- The ending of a file name is its own key. -/
theorem key_eq_self_of_extension? {p : Path} {ending : Text}
    (h : p.extension? = some (Utf8.encode ending)) : key ending = ending := by
  obtain ⟨-, -, hdot, -⟩ := Path.extension?_eq_some_iff.1 h
  exact key_eq_self fun hfront => hdot (List.mem_of_mem_head? hfront)

theorem Keeps.lookup_plain (h : r.Keeps calls) {p : Path} {lang : Language}
    (hlookup : r.lookup p = .ok lang) : ∃ before c after, calls = before ++ c :: after ∧
      '.' ∉ c.key ∧ '/' ∉ c.key ∧ (∀ d ∈ after, d.key ≠ c.key) ∧ c.language = lang := by
  obtain ⟨ending, hext, hget⟩ := lookup_eq_ok_iff.1 hlookup
  obtain ⟨before, c, after, hcalls, hkey, hafter, hlang⟩ := h.get?_eq_some_iff.1 hget
  obtain ⟨-, -, hdot, -⟩ := Path.extension?_eq_some_iff.1 hext
  rw [key_eq_self_of_extension? hext] at hkey hafter
  rw [← hkey] at hafter hdot
  have hslash := Path.not_slash_of_extension? hext
  rw [← hkey] at hslash
  exact ⟨before, c, after, hcalls, hdot, hslash, hafter, hlang⟩

theorem Keeps.lookup_local {r' : Registry} {calls' : List Registration} (h : r.Keeps calls)
    (h' : r'.Keeps calls') {p : Path} (hunder : ∀ name ending, p.fileName? = some name →
      Path.HasEnding name ending → under ending calls = under ending calls') :
    r.lookup p = r'.lookup p := by
  apply lookup_congr
  intro ending hext
  obtain ⟨name, hname, hending⟩ := Path.extension?_eq_some_iff.1 hext
  rw [h.get?_eq, h'.get?_eq, key_eq_self_of_extension? hext, hunder name ending hname hending]

/-- A registry that keeps its registrations answers by them. -/
theorem Keeps.answers (h : r.Keeps calls) : r.Answers calls where
  key_eq := key_spec
  get?_eq_some _ _ := h.get?_eq_some_iff
  get?_eq_none _ := h.lookup_eq_none_iff
  sorted := h.pairwise_extensions
  mem_extensions _ := h.mem_extensions_iff
  lookup_eq_ok p lang := by
    rw [lookup_eq_ok_iff]
    constructor
    · rintro ⟨ending, hext, hget⟩
      obtain ⟨name, hname, hending⟩ := Path.extension?_eq_some_iff.1 hext
      exact ⟨name, ending, hname, hending, hget⟩
    · rintro ⟨name, ending, hname, hending, hget⟩
      exact ⟨ending, Path.extension?_eq_some_iff.2 ⟨name, hname, hending⟩, hget⟩
  lookup_refused p := by
    by_cases hfound : ∃ lang, r.lookup p = .ok lang
    · exact Or.inl hfound
    · push Not at hfound
      exact Or.inr (lookup_eq_error hfound)
  lookup_plain _ _ := h.lookup_plain
  get?_local calls' extension hunder := by
    rw [h.get?_eq, (keeps_registerAll calls').get?_eq, hunder]
  lookup_local calls' _ hunder := h.lookup_local (keeps_registerAll calls') hunder

/-- The last registration counts however it spells the extension, and a longer one is not found. -/
example :
    let shell : Language := ⟨"bash".toList, ['#'], .line⟩
    let other : Language := ⟨"sh".toList, ['#'], .line⟩
    let r := Registry.default.registerAll
      [⟨"sh".toList, shell⟩, ⟨"..sh".toList, other⟩, ⟨"tar.sh".toList, shell⟩]
    r.lookup (.ofText "a/b.tar.sh/".toList) = .ok other ∧
      r.lookup (.ofText ".sh".toList) = .error (.unsupported (.ofText ".sh".toList)) := by
  exact ⟨rfl, rfl⟩

end Registry

end Marginalia
