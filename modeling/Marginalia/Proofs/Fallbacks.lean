import Marginalia.Highlight
import Marginalia.Proofs.DividerRoundTrip

/-!
# Faults of a file and faults of a section

A highlighter that fails, or whose output does not fall into one fragment for each section, fails
the whole file (`highlightSections_eq_error_iff`). A renderer that fails concerns one section.

1. Highlighted sections keep prose and code, in order (`map_zipWith_highlighted`), and take the
   fragments as they come (`map_codeMarkup_zipWith`).
2. The fallbacks are the sections whose prose the renderer refuses, in rising order, with its
   reasons (`mem_fallbacksFrom_iff`, `pairwise_fallbacksFrom`).
3. So two renderers can disagree only where they treat the prose of a section differently
   (`highlightSections_local`).
-/

namespace Marginalia

/-! ## The whole file -/

section File

variable {highlight : Highlighter} {render : Renderer} {lang : Language} {sections : List Section}

theorem length_of_splitHighlighted {output : Text} {n : Nat} {fragments : List Text}
    (h : lang.splitHighlighted output n = .ok fragments) : fragments.length = n := by
  rw [Language.splitHighlighted] at h
  by_cases hlength : (lang.cut (Fragment.unwrap output)).length = n
  · rw [if_pos hlength] at h
    cases h
    rw [List.length_map, hlength]
  · rw [if_neg hlength] at h
    cases h

theorem highlightSections_of_error {fault : Fault}
    (h : (highlight lang.name (lang.joinCode sections)).2 = .error fault) :
    (highlightSections highlight render lang sections).2 = .error fault := by
  show (highlight lang.name (lang.joinCode sections)).2.bind _ = _
  rw [h]
  rfl

theorem highlightSections_of_ok {output : Text}
    (h : (highlight lang.name (lang.joinCode sections)).2 = .ok output) :
    (highlightSections highlight render lang sections).2 =
      (lang.splitHighlighted output sections.length).map fun fragments =>
        ⟨sections.zipWith (Section.highlighted render) fragments,
          fallbacksFrom render 0 sections⟩ := by
  show (highlight lang.name (lang.joinCode sections)).2.bind _ = _
  rw [h]
  show (lang.splitHighlighted output sections.length).bind _ = _
  cases lang.splitHighlighted output sections.length with
  | ok fragments => rfl
  | error fault => rfl

/-- A file fails only for its highlighter or for the number of its fragments. -/
theorem highlightSections_eq_error_iff {fault : Fault} :
    (highlightSections highlight render lang sections).2 = .error fault ↔
      (highlight lang.name (lang.joinCode sections)).2 = .error fault ∨
        ∃ output, (highlight lang.name (lang.joinCode sections)).2 = .ok output ∧
          lang.splitHighlighted output sections.length = .error fault := by
  cases houtput : (highlight lang.name (lang.joinCode sections)).2 with
  | error other =>
    rw [highlightSections_of_error houtput]
    simp
  | ok output =>
    rw [highlightSections_of_ok houtput]
    cases hsplit : lang.splitHighlighted output sections.length with
    | error other => simp [Except.map, hsplit]
    | ok fragments => simp [Except.map, hsplit]

theorem highlightSections_eq_ok_iff {file : HighlightedFile} :
    (highlightSections highlight render lang sections).2 = .ok file ↔
      ∃ output fragments, (highlight lang.name (lang.joinCode sections)).2 = .ok output ∧
        lang.splitHighlighted output sections.length = .ok fragments ∧
        file = ⟨sections.zipWith (Section.highlighted render) fragments,
          fallbacksFrom render 0 sections⟩ := by
  cases houtput : (highlight lang.name (lang.joinCode sections)).2 with
  | error other =>
    rw [highlightSections_of_error houtput]
    simp
  | ok output =>
    rw [highlightSections_of_ok houtput]
    cases hsplit : lang.splitHighlighted output sections.length with
    | error other => simp [Except.map, hsplit]
    | ok fragments => simp [Except.map, hsplit, eq_comm (a := file)]

end File

/-! ## The sections -/

section Sections

variable (render : Renderer) {sections : List Section} {fragments : List Text}

/-- A section looks the same under renderers that treat its prose alike. -/
theorem highlighted_congr {render other : Renderer} {s : Section}
    (h : render s.docs = other s.docs) (fragment : Text) :
    s.highlighted render fragment = s.highlighted other fragment := by
  unfold Section.highlighted
  rw [h]

/-- What only depends on the sections goes through `zipWith` as it goes through `map`. -/
theorem map_zipWith_highlighted {α : Type} (f : HighlightedSection → α) (g : Section → α)
    (hfg : ∀ s fragment, f (s.highlighted render fragment) = g s)
    (hlength : fragments.length = sections.length) :
    (sections.zipWith (Section.highlighted render) fragments).map f = sections.map g := by
  induction sections generalizing fragments with
  | nil => rfl
  | cons s sections ih =>
    obtain ⟨fragment, fragments, rfl⟩ := List.exists_cons_of_length_eq_add_one hlength
    rw [List.zipWith_cons_cons, List.map_cons, List.map_cons, hfg,
      ih (Nat.succ.inj hlength)]

theorem map_codeMarkup_zipWith (hlength : fragments.length = sections.length) :
    (sections.zipWith (Section.highlighted render) fragments).map (·.codeMarkup) = fragments := by
  induction sections generalizing fragments with
  | nil => exact (List.eq_nil_of_length_eq_zero hlength).symm
  | cons s sections ih =>
    obtain ⟨fragment, fragments, rfl⟩ := List.exists_cons_of_length_eq_add_one hlength
    rw [List.zipWith_cons_cons, List.map_cons, ih (Nat.succ.inj hlength)]
    rfl

/-! ## The fallbacks -/

/-- The fallbacks are the sections whose prose the renderer refuses. -/
theorem mem_fallbacksFrom_iff {n i : Nat} {reason : Text} :
    ⟨i, reason⟩ ∈ fallbacksFrom render n sections ↔
      ∃ k s, i = n + k ∧ sections[k]? = some s ∧ render s.docs = .error reason := by
  induction sections generalizing n with
  | nil => simp [fallbacksFrom]
  | cons s rest ih =>
    -- the place of a section is the first one, or one more than its place in the rest
    have hplace : (∃ k t, i = n + k ∧ (s :: rest)[k]? = some t ∧ render t.docs = .error reason) ↔
        (i = n ∧ render s.docs = .error reason) ∨
          ∃ k t, i = n + 1 + k ∧ rest[k]? = some t ∧ render t.docs = .error reason := by
      constructor
      · rintro ⟨_ | k, t, hi, ht, hr⟩
        · cases ht
          exact Or.inl ⟨hi, hr⟩
        · exact Or.inr ⟨k, t, by omega, ht, hr⟩
      · rintro (⟨hi, hr⟩ | ⟨k, t, hi, ht, hr⟩)
        · exact ⟨0, s, hi, rfl, hr⟩
        · exact ⟨k + 1, t, by omega, ht, hr⟩
    rw [hplace, ← ih, fallbacksFrom]
    cases hs : render s.docs with
    | ok markup => simp
    | error other =>
      simp only [List.mem_cons, Fallback.mk.injEq, Except.error.injEq, eq_comm (a := other)]

theorem mem_fallbacksFrom_zero_iff {i : Nat} {reason : Text} :
    ⟨i, reason⟩ ∈ fallbacksFrom render 0 sections ↔
      ∃ s, sections[i]? = some s ∧ render s.docs = .error reason := by
  rw [mem_fallbacksFrom_iff]
  constructor
  · rintro ⟨k, s, hi, hs⟩
    rw [Nat.zero_add] at hi
    subst hi
    exact ⟨s, hs⟩
  · rintro ⟨s, hs⟩
    exact ⟨i, s, (Nat.zero_add i).symm, hs⟩

theorem le_index_of_mem_fallbacksFrom {n : Nat} {f : Fallback}
    (h : f ∈ fallbacksFrom render n sections) : n ≤ f.index := by
  obtain ⟨k, _, hk, -⟩ := (mem_fallbacksFrom_iff render).1 h
  omega

/-- The fallbacks stand in the order of the sections, each section at most once. -/
theorem pairwise_fallbacksFrom (n : Nat) (sections : List Section) :
    (fallbacksFrom render n sections).Pairwise (·.index < ·.index) := by
  induction sections generalizing n with
  | nil => exact List.Pairwise.nil
  | cons s rest ih =>
    rw [fallbacksFrom]
    cases render s.docs with
    | ok markup => exact ih (n + 1)
    | error reason =>
      rw [List.pairwise_cons]
      exact ⟨fun f hf => le_index_of_mem_fallbacksFrom render hf, ih (n + 1)⟩

end Sections

/-- Prose as plain text brings no tag with it and can be read back. -/
theorem exists_plainProse (docs : Text) :
    ∃ body, plainProse docs = "<pre>".toList ++ body ++ "</pre>".toList ∧
      '<' ∉ body ∧ '>' ∉ body ∧ Markup.unescape body = docs :=
  ⟨Markup.escape docs, rfl, Markup.not_mem_escape (Or.inl rfl) docs,
    Markup.not_mem_escape (Or.inr rfl) docs, Markup.unescape_escape docs⟩

/-- **All or nothing, and faults of prose stay where they are.** A file fails exactly if its
highlighter or the split into fragments fails. Otherwise each section keeps its prose and code and
has its own fragment, and its prose is rendered or shown as plain text; the fallbacks tell which.
A second renderer changes nothing but the prose that it treats differently. -/
theorem highlightSections_local (highlight : Highlighter) (lang : Language)
    (sections : List Section) (render other : Renderer) :
    let output := (highlight lang.name (lang.joinCode sections)).2
    let answer (r : Renderer) := (highlightSections highlight r lang sections).2
    (∀ fault, answer render = .error fault ↔
      output = .error fault ∨
        ∃ t, output = .ok t ∧ lang.splitHighlighted t sections.length = .error fault) ∧
    (∀ file, answer render = .ok file →
      file.sections.map (fun s => Section.mk s.docs s.code) = sections ∧
      (∃ t, output = .ok t ∧
        lang.splitHighlighted t sections.length = .ok (file.sections.map (·.codeMarkup))) ∧
      file.sections.map (·.docsMarkup) =
        sections.map (fun s => match render s.docs with
          | .ok markup => markup
          | .error _ => plainProse s.docs) ∧
      file.fallbacks.Pairwise (·.index < ·.index) ∧
      ∀ i reason, ⟨i, reason⟩ ∈ file.fallbacks ↔
        ∃ s, sections[i]? = some s ∧ render s.docs = .error reason) ∧
    (∀ fault, answer render = .error fault ↔ answer other = .error fault) ∧
    (∀ file file', answer render = .ok file → answer other = .ok file' →
      file.sections.map (·.codeMarkup) = file'.sections.map (·.codeMarkup) ∧
      ∀ i s, sections[i]? = some s → render s.docs = other s.docs →
        file.sections[i]? = file'.sections[i]? ∧
        ∀ reason, ⟨i, reason⟩ ∈ file.fallbacks ↔ ⟨i, reason⟩ ∈ file'.fallbacks) ∧
    ∀ docs, ∃ body, plainProse docs = "<pre>".toList ++ body ++ "</pre>".toList ∧
      '<' ∉ body ∧ '>' ∉ body ∧ Markup.unescape body = docs := by
  intro output answer
  refine ⟨fun fault => highlightSections_eq_error_iff, ?_, ?_, ?_, exists_plainProse⟩
  · intro file hfile
    obtain ⟨t, fragments, ht, hsplit, rfl⟩ := highlightSections_eq_ok_iff.1 hfile
    have hlength := length_of_splitHighlighted hsplit
    refine ⟨?_, ⟨t, ht, ?_⟩, ?_, pairwise_fallbacksFrom render 0 sections, ?_⟩
    · rw [map_zipWith_highlighted render _ id (fun _ _ => rfl) hlength, List.map_id]
    · rw [map_codeMarkup_zipWith render hlength, hsplit]
    · exact map_zipWith_highlighted render _ _ (fun _ _ => rfl) hlength
    · intro i reason
      rw [mem_fallbacksFrom_zero_iff]
  · intro fault
    exact highlightSections_eq_error_iff.trans highlightSections_eq_error_iff.symm
  · intro file file' hfile hfile'
    obtain ⟨t, fragments, ht, hsplit, rfl⟩ := highlightSections_eq_ok_iff.1 hfile
    obtain ⟨t', fragments', ht', hsplit', rfl⟩ := highlightSections_eq_ok_iff.1 hfile'
    cases ht.symm.trans ht'
    cases hsplit.symm.trans hsplit'
    have hlength := length_of_splitHighlighted hsplit
    refine ⟨?_, fun i s hs hsame => ⟨?_, fun reason => ?_⟩⟩
    · rw [map_codeMarkup_zipWith render hlength, map_codeMarkup_zipWith other hlength]
    · show (sections.zipWith _ fragments)[i]? = (sections.zipWith _ fragments)[i]?
      rw [List.getElem?_zipWith, List.getElem?_zipWith, hs]
      cases fragments[i]? with
      | none => rfl
      | some fragment => exact congrArg some (highlighted_congr hsame fragment)
    · show _ ∈ fallbacksFrom render 0 sections ↔ _ ∈ fallbacksFrom other 0 sections
      rw [mem_fallbacksFrom_zero_iff, mem_fallbacksFrom_zero_iff, hs]
      simp [hsame]

/-- The first of two sections is refused by one renderer and not by the other; the second section
is the same for both. -/
theorem highlightSections_local_refused :
    let hash : Language := ⟨"python".toList, ['#'], .line⟩
    let m : Manner := ⟨fun _ => true, false, ['\n'], by simp⟩
    let highlight : Highlighter := fun _ code => ([], .ok (m.highlight hash code))
    let sections : List Section := [⟨"<one>".toList, ['a']⟩, ⟨"two".toList, ['b']⟩]
    let render : Renderer := fun docs =>
      if '<' ∈ docs then .error "tag".toList else .ok docs
    let other : Renderer := .ok
    ∃ file file', (highlightSections highlight render hash sections).2 = .ok file ∧
      (highlightSections highlight other hash sections).2 = .ok file' ∧
      file.sections.map (·.docsMarkup) = ["<pre>&lt;one&gt;</pre>".toList, "two".toList] ∧
      ⟨0, "tag".toList⟩ ∈ file.fallbacks ∧ file.sections[1]? = file'.sections[1]? := by
  intro hash m highlight sections render other
  obtain ⟨fragments, hsplit⟩ : ∃ fragments, hash.splitHighlighted
      (m.highlight hash (hash.joinCode sections)) sections.length = .ok fragments :=
    ⟨_, Language.splitHighlighted_of_not_infix (by decide) (by decide) m (by decide) (by decide)⟩
  have hfile : ∀ r : Renderer, (highlightSections highlight r hash sections).2 =
      .ok ⟨sections.zipWith (Section.highlighted r) fragments, fallbacksFrom r 0 sections⟩ :=
    fun r => highlightSections_eq_ok_iff.2 ⟨_, fragments, rfl, hsplit, rfl⟩
  obtain ⟨-, hkept, -, hsame, -⟩ :=
    highlightSections_local highlight hash sections render other
  obtain ⟨-, -, hdocs, -, hfallbacks⟩ := hkept _ (hfile render)
  exact ⟨_, _, hfile render, hfile other, hdocs.trans (by decide),
    (hfallbacks 0 _).2 ⟨_, rfl, by decide⟩,
    ((hsame _ _ (hfile render) (hfile other)).2 1 _ rfl (by decide)).1⟩

end Marginalia
