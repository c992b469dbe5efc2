import Marginalia.Proofs.ConfigFields
import Mathlib.Data.List.Forall2
import Mathlib.Data.List.Nodup

/-!
# Entries of a configuration

A document that is one flat mapping is a list of entries, each a key and a scalar (`flat?`).

1. Entries can be assigned one after another exactly if each has the key of a field and a value
   for it, and none has the key of another (`assign_eq_ok_iff`). What the fields are afterwards
   does not depend on the order.
2. A text that is a flat mapping is decoded by its entries (`decode_eq_ok_iff`). It is not blank,
   so it is not taken for one that leaves all defaults.
3. What was decoded makes sense exactly if the entries do (`Makes.invalidity?_eq_none_iff`), which
   settles what comes of the text (`ofText_of_flat`).
-/

namespace Marginalia.Config

open Yaml (Mark)

/-! ## Flat mappings -/

/-- A key with its value. -/
structure Entry where
  key : Scalar
  value : Scalar
  deriving DecidableEq

/-- The scalar that a node stands for, through an alias if it is one. -/
def scalarOf? (nodes : List (Yaml.Node × Mark)) (n : Yaml.Node × Mark) : Option Scalar :=
  match datumOf nodes n with
  | some (.scalar tag style value, _) => some ⟨tag, style, value⟩
  | _ => none

/-- The entries of a mapping from scalars to scalars, read off the nodes after its start. -/
def entries? (nodes : List (Yaml.Node × Mark)) : List (Yaml.Node × Mark) → Option (List Entry)
  | [(.mappingEnd, _)] => some []
  | k :: v :: rest => do
    let key ← scalarOf? nodes k
    let value ← scalarOf? nodes v
    let more ← entries? nodes rest
    return ⟨key, value⟩ :: more
  | _ => none

/-- The entries of a text that is one document, a mapping from scalars to scalars. -/
def flat? (text : Text) : Option (List Entry) :=
  match Yaml.Document.ofText text with
  | (⟨(.mappingStart, began) :: inner, none⟩, false) =>
    entries? ((.mappingStart, began) :: inner) inner
  | _ => none

/-! ## Entries -/

/-- An entry whose key is that of a field. -/
def Entry.IsFor (e : Entry) (f : Field) : Prop := f.name.toList = e.key.value

instance (e : Entry) (f : Field) : Decidable (e.IsFor f) :=
  inferInstanceAs (Decidable (f.name.toList = e.key.value))

/-- Entries that configure: each has the key of a field, no two have the same one, and each has a
value for its field. -/
structure Fits (es : List Entry) : Prop where
  known : ∀ e ∈ es, ∃ f, e.IsFor f
  distinct : (es.map (·.key.value)).Nodup
  taken : ∀ e ∈ es, ∀ f, e.IsFor f → f.Takes e.value

/-- The configuration `c'` that entries make of `c`: their fields have the values they spell, and
the other fields are left. -/
structure Makes (es : List Entry) (c c' : Config) : Prop where
  given : ∀ e ∈ es, ∀ f, e.IsFor f → f.Holds e.value c'
  left : ∀ f, (∀ e ∈ es, ¬e.IsFor f) → f.Agrees c' c

variable {e : Entry} {es es' : List Entry} {f g : Field} {a b c c' : Config}

theorem Entry.IsFor.eq (h : e.IsFor f) (h' : e.IsFor g) : f = g :=
  Field.name_injective (Eq.trans h (Eq.symm h'))

/-- Entries make one configuration only. -/
theorem Makes.eq (ha : Makes es c a) (hb : Makes es c b) : a = b := by
  refine Field.eq_of_agrees fun f => ?_
  by_cases hf : ∃ e ∈ es, e.IsFor f
  · obtain ⟨e, he, hef⟩ := hf
    exact (ha.given e he f hef).agrees (hb.given e he f hef)
  · have hnone : ∀ e ∈ es, ¬e.IsFor f := fun e he hef => hf ⟨e, he, hef⟩
    exact (ha.left f hnone).trans (hb.left f hnone).symm

/-- The order of entries does not matter. -/
theorem Fits.perm (h : Fits es) (hperm : es'.Perm es) : Fits es' where
  known e he := h.known e (hperm.mem_iff.1 he)
  distinct := ((hperm.map _).nodup_iff).2 h.distinct
  taken e he := h.taken e (hperm.mem_iff.1 he)

theorem Makes.perm (h : Makes es c c') (hperm : es'.Perm es) : Makes es' c c' where
  given e he := h.given e (hperm.mem_iff.1 he)
  left f hf := h.left f fun e he => hf e (hperm.mem_iff.2 he)

theorem fits_nil : Fits [] :=
  ⟨fun _ he => absurd he List.not_mem_nil, List.nodup_nil, fun _ he => absurd he List.not_mem_nil⟩

theorem makes_nil_iff : Makes [] c c' ↔ c = c' := by
  constructor
  · intro h
    exact Field.eq_of_agrees fun f => (h.left f fun _ he => absurd he List.not_mem_nil).symm
  · rintro rfl
    exact ⟨fun _ he => absurd he List.not_mem_nil, fun f _ => Field.Agrees.refl f c⟩

/-- The first entry goes into its field, and the others make the rest. -/
theorem makes_cons (hef : e.IsFor f) (hother : ∀ e' ∈ es, ¬e'.IsFor f) {c₁ : Config}
    (hc : ∀ g ≠ f, g.Agrees c₁ c) (hholds : f.Holds e.value c₁) (h : Makes es c₁ c') :
    Makes (e :: es) c c' where
  given e' he' g hg := by
    obtain rfl | he' := List.mem_cons.1 he'
    · obtain rfl := hef.eq hg
      exact hholds.congr (h.left f hother)
    · exact h.given e' he' g hg
  left g hg := by
    have hgf : g ≠ f := fun heq => hg e List.mem_cons_self (heq ▸ hef)
    exact (h.left g fun e' he' => hg e' (List.mem_cons_of_mem e he')).trans (hc g hgf)

/-- What entries make, made without the first one. -/
theorem Makes.tail (h : Makes (e :: es) c c') (hef : e.IsFor f) : Makes es (f.copy c' c) c' where
  given e' he' := h.given e' (List.mem_cons_of_mem e he')
  left g hg := by
    by_cases hgf : g = f
    · rw [hgf]
      exact (Field.agrees_copy f c' c).symm
    · refine (h.left g fun e' he' hg' => ?_).trans (Field.agrees_copy_of_ne hgf c' c).symm
      obtain rfl | he' := List.mem_cons.1 he'
      · exact hgf (hg'.eq hef)
      · exact hg e' he' hg'

/-- The keys of fields that are not seen yet, each once, with values for them. -/
theorem fits_cons_iff (hef : e.IsFor f) :
    Fits (e :: es) ↔ f.Takes e.value ∧ (∀ e' ∈ es, ¬e'.IsFor f) ∧ Fits es := by
  constructor
  · intro h
    obtain ⟨hfresh, hdistinct⟩ := List.nodup_cons.1 (List.map_cons ▸ h.distinct)
    refine ⟨h.taken e List.mem_cons_self f hef, fun e' he' hf => hfresh ?_, ?_, hdistinct, ?_⟩
    · exact List.mem_map.2 ⟨e', he', Eq.trans (Eq.symm hf) hef⟩
    · exact fun e' he' => h.known e' (List.mem_cons_of_mem e he')
    · exact fun e' he' => h.taken e' (List.mem_cons_of_mem e he')
  · rintro ⟨htaken, hother, h⟩
    refine ⟨fun e' he' => ?_, ?_, fun e' he' g hg => ?_⟩
    · obtain rfl | he' := List.mem_cons.1 he'
      · exact ⟨f, hef⟩
      · exact h.known e' he'
    · rw [List.map_cons, List.nodup_cons]
      refine ⟨fun hmem => ?_, h.distinct⟩
      obtain ⟨e', he', hkey⟩ := List.mem_map.1 hmem
      exact hother e' he' (Eq.trans hef (Eq.symm hkey))
    · obtain rfl | he' := List.mem_cons.1 he'
      · exact hef.eq hg ▸ htaken
      · exact h.taken e' he' g hg

/-! ## Assigning -/

/-- A setting with the key and the value of an entry. -/
def Entry.Sets (e : Entry) (s : Setting) : Prop :=
  s.key = e.key.datum ∧ ∃ place, s.value = some (e.value.datum, place)

section
variable {fault : Option Yaml.DocumentFault} {began : Mark} {seen : List Field} {s : Setting}
  {given : List Setting}

/-- One step of assigning: the key is that of a field that is not seen yet, and the field is set. -/
theorem assign_cons_eq_ok_iff (hs : e.Sets s) :
    assign fault began c seen (s :: given) = .ok c' ↔
      ∃ f c₁, e.IsFor f ∧ f ∉ seen ∧ f.set e.value.datum c = .ok c₁ ∧
        assign fault began c₁ (f :: seen) given = .ok c' := by
  obtain ⟨hkey, place, hvalue⟩ := hs
  have hname : s.key.asText "field identifier" = .ok e.key.value := by rw [hkey]; rfl
  simp only [assign, hname]
  cases hfield : Field.ofName? e.key.value with
  | none =>
    simp only [reduceCtorEq, false_iff]
    rintro ⟨f, c₁, hef, -⟩
    rw [Field.ofName?_eq_some_iff.2 hef] at hfield
    exact Option.some_ne_none f hfield
  | some f =>
    have hef : e.IsFor f := Field.ofName?_eq_some_iff.1 hfield
    have honly : ∀ {P : Field → Prop}, (∃ g, e.IsFor g ∧ P g) ↔ P f := by
      intro P
      exact ⟨fun ⟨g, hg, hP⟩ => hef.eq hg ▸ hP, fun hP => ⟨f, hef, hP⟩⟩
    simp only [exists_and_left, honly, hvalue, List.contains_iff_mem]
    split_ifs with hseen
    · simp [hseen]
    · cases hset : f.set e.value.datum c with
      | error cause => simp
      | ok c₁ => simp [hseen]

/-- **Assigning entries** succeeds exactly if they configure and none is for a field that is set
already; the fields are then as the entries make them. -/
theorem assign_eq_ok_iff (hgiven : List.Forall₂ Entry.Sets es given) :
    assign fault began c seen given = .ok c' ↔
      Fits es ∧ (∀ f ∈ seen, ∀ e ∈ es, ¬e.IsFor f) ∧ Makes es c c' := by
  induction hgiven generalizing c seen with
  | nil =>
    rw [makes_nil_iff, assign]
    simp [fits_nil]
  | @cons e s es given hs _ ih =>
    rw [assign_cons_eq_ok_iff hs]
    constructor
    · rintro ⟨f, c₁, hef, hseen, hset, hrest⟩
      obtain ⟨htaken, hholds, hsame⟩ := Field.set_eq_ok_iff.1 hset
      obtain ⟨hfits, hfresh, hmakes⟩ := ih.1 hrest
      have hother := hfresh f List.mem_cons_self
      refine ⟨(fits_cons_iff hef).2 ⟨htaken, hother, hfits⟩, fun g hg e' he' hg' => ?_,
        makes_cons hef hother hsame hholds hmakes⟩
      obtain rfl | he' := List.mem_cons.1 he'
      · exact hseen (hef.eq hg' ▸ hg)
      · exact hfresh g (List.mem_cons_of_mem f hg) e' he' hg'
    · rintro ⟨hfits, hfresh, hmakes⟩
      obtain ⟨f, hef⟩ := hfits.known e List.mem_cons_self
      obtain ⟨htaken, hother, hfits⟩ := (fits_cons_iff hef).1 hfits
      have hholds := hmakes.given e List.mem_cons_self f hef
      refine ⟨f, f.copy c' c, hef, fun hf => hfresh f hf e List.mem_cons_self hef, ?_,
        ih.2 ⟨hfits, ?_, hmakes.tail hef⟩⟩
      · exact Field.set_eq_ok_iff.2 ⟨htaken, hholds.congr (Field.agrees_copy f c' c),
          fun g hg => Field.agrees_copy_of_ne hg c' c⟩
      · intro g hg
        obtain rfl | hg := List.mem_cons.1 hg
        · exact hother
        · exact fun e' he' => hfresh g hg e' (List.mem_cons_of_mem e he')

end

/-! ## Decoding -/

theorem datumOf_of_scalarOf? {nodes : List (Yaml.Node × Mark)} {n : Yaml.Node × Mark} {s : Scalar}
    (h : scalarOf? nodes n = some s) : ∃ place, datumOf nodes n = some (s.datum, place) := by
  unfold scalarOf? at h
  split at h
  · next tag style value place hdatum =>
    obtain rfl := Option.some.inj h
    exact ⟨place, hdatum⟩
  · cases h

/-- What no scalar begins with. -/
theorem ne_collection_of_scalarOf? {nodes : List (Yaml.Node × Mark)} {n : Yaml.Node × Mark}
    {s : Scalar} (h : scalarOf? nodes n = some s) :
    n.1 ≠ .sequenceStart ∧ n.1 ≠ .mappingStart := by
  obtain ⟨node, place⟩ := n
  constructor
  · rintro rfl
    cases h
  · rintro rfl
    cases h

/-- The settings of a mapping from scalars to scalars are its entries, to the end. -/
theorem settings_of_entries? {nodes inner : List (Yaml.Node × Mark)}
    (h : entries? nodes inner = some es) :
    ∃ given, settings nodes inner = (given, .closed) ∧ List.Forall₂ Entry.Sets es given := by
  fun_induction entries? nodes inner generalizing es with
  | case1 place =>
    obtain rfl := Option.some.inj h
    exact ⟨[], rfl, .nil⟩
  | case2 k v rest ih =>
    simp only [Option.bind_eq_bind, Option.bind_eq_some_iff, Option.pure_def,
      Option.some.injEq] at h
    obtain ⟨key, hkey, value, hvalue, more, hmore, rfl⟩ := h
    obtain ⟨given, hgiven, hsets⟩ := ih hmore
    obtain ⟨place, hk⟩ := datumOf_of_scalarOf? hkey
    obtain ⟨place', hv⟩ := datumOf_of_scalarOf? hvalue
    obtain ⟨hsequence, hmapping⟩ := ne_collection_of_scalarOf? hvalue
    have hstep : ∃ label, settings nodes (k :: v :: rest) =
        (⟨key.datum, place, label, some (value.datum, place')⟩ :: given, .closed) := by
      obtain ⟨node, mark⟩ := v
      cases node with
      | sequenceStart => exact absurd rfl hsequence
      | mappingStart => exact absurd rfl hmapping
      | _ =>
        simp only [settings, hk, hv, hgiven]
        exact ⟨_, rfl⟩
    obtain ⟨label, hstep⟩ := hstep
    exact ⟨_, hstep, .cons ⟨rfl, place', rfl⟩ hsets⟩
  | case3 => cases h

/-- A flat mapping is decoded by assigning its entries to the defaults. -/
theorem decode_of_flat? {text : Text} (h : flat? text = some es) :
    ∃ began given, List.Forall₂ Entry.Sets es given ∧
      decode text = assign none began default [] given := by
  unfold flat? at h
  split at h
  · next began inner htext =>
    obtain ⟨given, hgiven, hsets⟩ := settings_of_entries? h
    refine ⟨began, given, hsets, ?_⟩
    rw [decode, htext]
    simp only [ofDocument, hgiven]
    cases assign none began default [] given <;> rfl
  · cases h

/-- **A flat mapping is decoded** exactly if its entries configure, and then into what they make of
the defaults. -/
theorem decode_eq_ok_iff {text : Text} (h : flat? text = some es) :
    decode text = .ok c ↔ Fits es ∧ Makes es default c := by
  obtain ⟨began, given, hsets, hdecode⟩ := decode_of_flat? h
  rw [hdecode, assign_eq_ok_iff hsets]
  simp

/-! ## Values that make sense -/

/-- Entries whose values a run can honour. -/
structure Sensible (es : List Entry) : Prop where
  jobs : ∀ e ∈ es, e.IsFor .jobs → Integer.natural? e.value.value ≠ some 0
  highlighter : ∀ e ∈ es, e.IsFor .highlighter → e.value.value.allBlank = false

theorem Sensible.perm (h : Sensible es) (hperm : es'.Perm es) : Sensible es' where
  jobs e he := h.jobs e (hperm.mem_iff.1 he)
  highlighter e he := h.highlighter e (hperm.mem_iff.1 he)

/-- What entries make of the defaults makes sense exactly if the entries do. -/
theorem Makes.invalidity?_eq_none_iff (h : Makes es default c) :
    c.invalidity? = none ↔ Sensible es := by
  rw [Config.invalidity?_eq_none_iff]
  constructor
  · rintro ⟨hjobs, hblank⟩
    refine ⟨fun e he hef hzero => hjobs ?_, fun e he hef => ?_⟩
    · exact Option.some.inj ((h.given e he .jobs hef).symm.trans hzero)
    · rw [← show c.highlighter = e.value.value from h.given e he .highlighter hef]
      exact hblank
  · intro hs
    constructor
    · by_cases hf : ∃ e ∈ es, e.IsFor .jobs
      · obtain ⟨e, he, hef⟩ := hf
        exact fun hzero => hs.jobs e he hef (hzero ▸ h.given e he .jobs hef)
      · rw [show c.jobs = 1 from h.left .jobs fun e he hef => hf ⟨e, he, hef⟩]
        decide
    · by_cases hf : ∃ e ∈ es, e.IsFor .highlighter
      · obtain ⟨e, he, hef⟩ := hf
        rw [show c.highlighter = e.value.value from h.given e he .highlighter hef]
        exact hs.highlighter e he hef
      · rw [show c.highlighter = default.highlighter from
          h.left .highlighter fun e he hef => hf ⟨e, he, hef⟩]
        rfl

/-- Entries that configure make something of any configuration. -/
theorem Fits.exists_makes (h : Fits es) (c : Config) : ∃ c', Makes es c c' := by
  induction es generalizing c with
  | nil => exact ⟨c, makes_nil_iff.2 rfl⟩
  | cons e es ih =>
    obtain ⟨f, hef⟩ := h.known e List.mem_cons_self
    obtain ⟨htaken, hother, hfits⟩ := (fits_cons_iff hef).1 h
    obtain ⟨c₁, hholds, hsame⟩ := htaken.exists_holds c
    obtain ⟨c', hmakes⟩ := ih hfits c₁
    exact ⟨c', makes_cons hef hother hsame hholds hmakes⟩

/-! ## Texts -/

theorem flat?_eq_none_of_allBlank {text : Text} (h : text.allBlank = true) : flat? text = none := by
  unfold flat?
  split
  · next began inner htext =>
    have hbare := Yaml.Document.isBare_ofText h
    rw [htext] at hbare
    exact (hbare _ List.mem_cons_self).elim
  · rfl

/-- The configuration of a flat mapping, or what is wrong with its entries. -/
theorem ofText_cases {text : Text} (h : flat? text = some es) :
    (Fits es ∧ Sensible es ∧ ∃ c, Makes es default c ∧ ofText text = .ok c) ∨
      (Fits es ∧ ¬Sensible es ∧ ∃ cause, ofText text = .error (.invalid cause)) ∨
      (¬Fits es ∧ ∃ fault, ofText text = .error (.parse fault)) := by
  have hfilled : text.trim ≠ [] := by
    rw [Ne, Text.trim_eq_nil_iff]
    intro hblank
    rw [flat?_eq_none_of_allBlank hblank] at h
    cases h
  unfold ofText
  rw [if_neg hfilled]
  by_cases hfits : Fits es
  · obtain ⟨c, hmakes⟩ := hfits.exists_makes default
    rw [(decode_eq_ok_iff h).2 ⟨hfits, hmakes⟩]
    have hvalid := hmakes.invalidity?_eq_none_iff
    dsimp only [validated]
    cases hc : c.invalidity? with
    | none => exact .inl ⟨hfits, hvalid.1 hc, c, hmakes, rfl⟩
    | some cause =>
      refine .inr (.inl ⟨hfits, fun hs => ?_, cause, rfl⟩)
      rw [hvalid.2 hs] at hc
      cases hc
  · cases hdecode : decode text with
    | error fault => exact .inr (.inr ⟨hfits, fault, rfl⟩)
    | ok c => exact absurd ((decode_eq_ok_iff h).1 hdecode).1 hfits

/-- **A flat mapping as a configuration.** It is accepted exactly if every key is that of a field,
no key occurs twice, every value is one for its field, and the values make sense. The configuration
then has the value of each entry in its field, and the defaults in the other fields. A wrong key or
value is a fault of the document whatever else is wrong, and only documents that can be decoded are
told to make no sense. The order of the entries changes neither the configuration nor the kind of
the error. -/
theorem ofText_of_flat {text : Text} {es : List Entry} (h : flat? text = some es) :
    ((∃ c, ofText text = .ok c) ↔ Fits es ∧ Sensible es) ∧
      (∀ c, ofText text = .ok c → Makes es default c) ∧
      ((∃ fault, ofText text = .error (.parse fault)) ↔ ¬Fits es) ∧
      ((∃ cause, ofText text = .error (.invalid cause)) ↔
        (∃ c, decode text = .ok c) ∧ ¬Sensible es) ∧
      ∀ text' es', flat? text' = some es' → es'.Perm es →
        (∃ c, ofText text = .ok c ∧ ofText text' = .ok c) ∨
          ∃ e e', ofText text = .error e ∧ ofText text' = .error e' ∧ e.kind = e'.kind := by
  have hdecode : (∃ c, decode text = .ok c) ↔ Fits es :=
    ⟨fun ⟨c, hc⟩ => ((decode_eq_ok_iff h).1 hc).1, fun hfits =>
      (hfits.exists_makes default).imp fun c hc => (decode_eq_ok_iff h).2 ⟨hfits, hc⟩⟩
  rw [hdecode]
  obtain ⟨hfits, hs, c, hmakes, htext⟩ | ⟨hfits, hs, cause, htext⟩ | ⟨hfits, fault, htext⟩ :=
    ofText_cases h
  · refine ⟨by simp [htext, hfits, hs], fun c' hc' => ?_, by simp [htext, hfits],
      by simp [htext, hs], fun text' es' h' hperm => .inl ⟨c, htext, ?_⟩⟩
    · rw [htext] at hc'
      exact Except.ok.inj hc' ▸ hmakes
    · obtain ⟨-, -, c', hmakes', htext'⟩ | ⟨-, hs', -⟩ | ⟨hfits', -⟩ := ofText_cases h'
      · rw [htext', hmakes'.eq (hmakes.perm hperm)]
      · exact absurd (hs.perm hperm) hs'
      · exact absurd (hfits.perm hperm) hfits'
  · refine ⟨by simp [htext, hs], by simp [htext], by simp [htext, hfits],
      by simp [htext, hfits, hs], fun text' es' h' hperm => .inr ?_⟩
    obtain ⟨-, hs', -⟩ | ⟨-, -, cause', htext'⟩ | ⟨hfits', -⟩ := ofText_cases h'
    · exact absurd (hs'.perm hperm.symm) hs
    · exact ⟨_, _, htext, htext', rfl⟩
    · exact absurd (hfits.perm hperm) hfits'
  · refine ⟨by simp [htext, hfits], by simp [htext], by simp [htext, hfits], by simp [htext, hfits],
      fun text' es' h' hperm => .inr ?_⟩
    obtain ⟨hfits', -⟩ | ⟨hfits', -⟩ | ⟨-, fault', htext'⟩ := ofText_cases h'
    · exact absurd (hfits'.perm hperm.symm) hfits
    · exact absurd (hfits'.perm hperm.symm) hfits
    · exact ⟨_, _, htext, htext', rfl⟩

/-- No jobs and an unknown key: the key is what is wrong. -/
theorem ofText_no_jobs_and_unknown_key :
    flat? "jobs: 0\nverbose: true\n".toList =
        some [⟨⟨none, .plain, "jobs".toList⟩, ⟨none, .plain, "0".toList⟩⟩,
          ⟨⟨none, .plain, "verbose".toList⟩, ⟨none, .plain, "true".toList⟩⟩] ∧
      ∃ fault, ofText "jobs: 0\nverbose: true\n".toList = .error (.parse fault) := by
  have hflat : flat? "jobs: 0\nverbose: true\n".toList =
      some [⟨⟨none, .plain, "jobs".toList⟩, ⟨none, .plain, "0".toList⟩⟩,
        ⟨⟨none, .plain, "verbose".toList⟩, ⟨none, .plain, "true".toList⟩⟩] := by
    decide +kernel
  refine ⟨hflat, (ofText_of_flat hflat).2.2.1.2 fun hfits => ?_⟩
  obtain ⟨f, hf⟩ := hfits.known _ (List.mem_cons_of_mem _ List.mem_cons_self)
  cases f <;> exact absurd hf (by decide)

end Marginalia.Config
