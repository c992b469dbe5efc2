import Marginalia.Config
import Marginalia.Proofs.BlankDocuments
import Mathlib.Tactic.SplitIfs

/-!
# Fields of a configuration

What a scalar has to be for each field (`Field.Takes`) and what value it then spells
(`Field.Holds`). Setting a field takes the scalars that are for it, gives the field the value
spelled and leaves the other fields as they are (`Field.set_eq_ok_iff`).
-/

namespace Marginalia.Config

/-- A scalar of a document. -/
structure Scalar where
  tag : Option Text
  style : Yaml.ScalarStyle
  value : Text
  deriving DecidableEq

/-- A scalar as a datum. -/
def Scalar.datum (s : Scalar) : Datum := .scalar s.tag s.style s.value

/-! ## Fields -/

namespace Field

/-- A whole number of a width, written without quotes. -/
def IsNumber (digits : Nat) (s : Scalar) : Prop :=
  Datum.isBare s.tag s.style "int" = true ∧
    ∃ n ≤ greatest digits, Integer.natural? s.value = some n

/-- A truth value, written without quotes. -/
def IsTruth (s : Scalar) : Prop :=
  Datum.isBare s.tag s.style "bool" = true ∧ (Meaning.truth? s.value).isSome = true

/-- Whether a scalar is a value for a field. Any scalar is a text. -/
def Takes : Field → Scalar → Prop
  | .outputDir, _ => True
  | .highlighter, _ => True
  | .tabSize, s => IsNumber 32 s
  | .timeoutSecs, s => IsNumber 64 s
  | .jobs, s => IsNumber 64 s
  | .rawHtml, s => IsTruth s

/-- A field of `c` has the value that a scalar spells. -/
def Holds : Field → Scalar → Config → Prop
  | .outputDir, s, c => c.outputDir = Path.ofText s.value
  | .highlighter, s, c => c.highlighter = s.value
  | .tabSize, s, c => Integer.natural? s.value = some c.tabSize
  | .timeoutSecs, s, c => Integer.natural? s.value = some c.timeoutSecs
  | .jobs, s, c => Integer.natural? s.value = some c.jobs
  | .rawHtml, s, c => Meaning.truth? s.value = some c.rawHtml

/-- A field has the same value in two configurations. -/
def Agrees : Field → Config → Config → Prop
  | .outputDir, a, b => a.outputDir = b.outputDir
  | .highlighter, a, b => a.highlighter = b.highlighter
  | .tabSize, a, b => a.tabSize = b.tabSize
  | .timeoutSecs, a, b => a.timeoutSecs = b.timeoutSecs
  | .jobs, a, b => a.jobs = b.jobs
  | .rawHtml, a, b => a.rawHtml = b.rawHtml

variable {f g : Field} {s : Scalar} {a b c c' : Config} {k : Text}

theorem Agrees.refl (f : Field) (c : Config) : f.Agrees c c := by
  cases f <;> rfl

theorem Agrees.symm (h : f.Agrees a b) : f.Agrees b a := by
  cases f <;> exact Eq.symm h

theorem Agrees.trans (h : f.Agrees a b) (h' : f.Agrees b c) : f.Agrees a c := by
  cases f <;> exact Eq.trans h h'

/-- A configuration is known by its fields. -/
theorem eq_of_agrees (h : ∀ f : Field, f.Agrees a b) : a = b := by
  obtain ⟨⟩ := a
  obtain ⟨⟩ := b
  simp only [Config.mk.injEq]
  exact ⟨h .outputDir, h .highlighter, h .tabSize, h .timeoutSecs, h .jobs, h .rawHtml⟩

/-- A scalar spells one value only. -/
theorem Holds.agrees (h : f.Holds s a) (h' : f.Holds s b) : f.Agrees a b := by
  cases f with
  | outputDir => exact Eq.trans h (Eq.symm h')
  | highlighter => exact Eq.trans h (Eq.symm h')
  | tabSize => exact Option.some.inj (Eq.trans (Eq.symm h) h')
  | timeoutSecs => exact Option.some.inj (Eq.trans (Eq.symm h) h')
  | jobs => exact Option.some.inj (Eq.trans (Eq.symm h) h')
  | rawHtml => exact Option.some.inj (Eq.trans (Eq.symm h) h')

theorem Holds.congr (h : f.Holds s a) (hab : f.Agrees b a) : f.Holds s b := by
  cases f with
  | outputDir => exact Eq.trans hab h
  | highlighter => exact Eq.trans hab h
  | tabSize => exact Eq.trans h (congrArg some (Eq.symm hab))
  | timeoutSecs => exact Eq.trans h (congrArg some (Eq.symm hab))
  | jobs => exact Eq.trans h (congrArg some (Eq.symm hab))
  | rawHtml => exact Eq.trans h (congrArg some (Eq.symm hab))

/-- `b` with the value that a field has in `a`. -/
def copy : Field → Config → Config → Config
  | .outputDir, a, b => { b with outputDir := a.outputDir }
  | .highlighter, a, b => { b with highlighter := a.highlighter }
  | .tabSize, a, b => { b with tabSize := a.tabSize }
  | .timeoutSecs, a, b => { b with timeoutSecs := a.timeoutSecs }
  | .jobs, a, b => { b with jobs := a.jobs }
  | .rawHtml, a, b => { b with rawHtml := a.rawHtml }

theorem agrees_copy (f : Field) (a b : Config) : f.Agrees (f.copy a b) a := by
  cases f <;> rfl

theorem agrees_copy_of_ne (h : g ≠ f) (a b : Config) : g.Agrees (f.copy a b) b := by
  cases f <;> cases g <;> first | rfl | exact absurd rfl h

/-- Fields have different keys. -/
theorem ofName?_eq_some_iff : ofName? k = some f ↔ f.name.toList = k := by
  constructor
  · intro h
    have := List.find?_some h
    simpa using this
  · rintro rfl
    cases f <;> rfl

theorem name_injective (h : f.name.toList = g.name.toList) : f = g :=
  Option.some.inj ((ofName?_eq_some_iff.2 h).symm.trans (ofName?_eq_some_iff.2 rfl))

theorem greatest_le_greatest {a b : Nat} (h : a ≤ b) : greatest a ≤ greatest b :=
  Nat.sub_le_sub_right (Nat.pow_le_pow_right (by decide) h) 1

theorem asNumber_eq_ok_iff {digits n : Nat} {expected : String} (hdigits : digits ≤ 64) :
    s.datum.asNumber (greatest digits) expected = .ok n ↔
      IsNumber digits s ∧ Integer.natural? s.value = some n := by
  have hlimit := greatest_le_greatest hdigits
  unfold IsNumber Scalar.datum Datum.asNumber
  cases hspelled : Integer.natural? s.value with
  | none => simp [hspelled]
  | some m =>
    simp only [hspelled]
    split_ifs with hbare hm
    · rw [Bool.and_eq_true] at hbare
      simp only [Except.ok.injEq, Option.some.injEq]
      exact ⟨fun h => ⟨⟨hbare.1, m, hm, rfl⟩, h⟩, fun h => h.2⟩
    · simp only [Option.some.injEq, false_iff, not_and]
      rintro ⟨-, k, hk, rfl⟩
      exact absurd hk hm
    · simp only [Option.some.injEq, false_iff, not_and]
      rintro ⟨hplain, k, hk, rfl⟩
      refine absurd ?_ hbare
      rw [hplain, Bool.true_and, decide_eq_true_iff]
      exact Nat.le_trans hk hlimit

theorem asTruth_eq_ok_iff {value : Bool} {expected : String} :
    s.datum.asTruth expected = .ok value ↔ IsTruth s ∧ Meaning.truth? s.value = some value := by
  unfold IsTruth Scalar.datum Datum.asTruth
  cases hspelled : Meaning.truth? s.value with
  | none => simp [hspelled]
  | some b =>
    simp only [hspelled]
    split_ifs with hbare
    · simp [hbare]
    · simp [hbare]

/-- How a field is set: a value is read, if there is one, and put into the field. -/
theorem read_and_put_iff {α : Type} {e : Except Mismatch α} {put : α → Config} {taken : Prop}
    {spelled : α → Prop} (value : Config → α) (hread : ∀ v, e = .ok v ↔ taken ∧ spelled v)
    (hvalue : ∀ v, value (put v) = v) (hput : ∀ c', put (value c') = f.copy c' c) :
    (do return put (← e)) = Except.ok c' ↔
      taken ∧ spelled (value c') ∧ ∀ g ≠ f, g.Agrees c' c := by
  have hresult : (do return put (← e)) = Except.ok c' ↔ ∃ v, e = .ok v ∧ put v = c' := by
    refine Yaml.bind_eq_ok_iff.trans (exists_congr fun v => and_congr_right fun _ => ?_)
    exact ⟨Except.ok.inj, congrArg Except.ok⟩
  rw [hresult]
  constructor
  · rintro ⟨v, hv, rfl⟩
    obtain ⟨htaken, hspelled⟩ := (hread v).1 hv
    have hcopy := hput (put v)
    rw [hvalue] at hcopy
    refine ⟨htaken, by rwa [hvalue], fun g hg => ?_⟩
    rw [hcopy]
    exact agrees_copy_of_ne hg _ _
  · rintro ⟨htaken, hspelled, hsame⟩
    refine ⟨value c', (hread _).2 ⟨htaken, hspelled⟩, eq_of_agrees fun g => ?_⟩
    rw [hput]
    by_cases hg : g = f
    · rw [hg]
      exact agrees_copy f c' c
    · exact (agrees_copy_of_ne hg c' c).trans (hsame g hg).symm

theorem asText_eq_ok_iff {value : Text} {expected : String} :
    s.datum.asText expected = .ok value ↔ True ∧ value = s.value := by
  show Except.ok s.value = Except.ok value ↔ _
  simp [eq_comm]

/-- **Setting a field** takes a value for it, and nothing else changes. -/
theorem set_eq_ok_iff : f.set s.datum c = .ok c' ↔
    f.Takes s ∧ f.Holds s c' ∧ ∀ g ≠ f, g.Agrees c' c := by
  cases f with
  | outputDir =>
    have hread (p : Path) : (Except.ok (Path.ofText s.value) : Except Mismatch Path) = .ok p ↔
        True ∧ p = Path.ofText s.value := by
      rw [Except.ok.injEq, true_and, eq_comm]
    show (do return { c with outputDir := ← Except.ok (Path.ofText s.value) }) = _ ↔ True ∧ _
    exact read_and_put_iff Config.outputDir hread (fun _ => rfl) (fun _ => rfl)
  | highlighter =>
    exact read_and_put_iff Config.highlighter (fun _ => asText_eq_ok_iff) (fun _ => rfl)
      (fun _ => rfl)
  | tabSize =>
    exact read_and_put_iff Config.tabSize (fun _ => asNumber_eq_ok_iff (by decide)) (fun _ => rfl)
      (fun _ => rfl)
  | timeoutSecs =>
    exact read_and_put_iff Config.timeoutSecs (fun _ => asNumber_eq_ok_iff (by decide))
      (fun _ => rfl) (fun _ => rfl)
  | jobs =>
    exact read_and_put_iff Config.jobs (fun _ => asNumber_eq_ok_iff (by decide)) (fun _ => rfl)
      (fun _ => rfl)
  | rawHtml =>
    exact read_and_put_iff Config.rawHtml (fun _ => asTruth_eq_ok_iff) (fun _ => rfl)
      (fun _ => rfl)

/-- A value for a field can be given to it. -/
theorem Takes.exists_holds (h : f.Takes s) (c : Config) :
    ∃ c₁, f.Holds s c₁ ∧ ∀ g ≠ f, g.Agrees c₁ c := by
  have hput (c' : Config) (hc : f.Holds s c') : ∃ c₁, f.Holds s c₁ ∧ ∀ g ≠ f, g.Agrees c₁ c :=
    ⟨f.copy c' c, hc.congr (agrees_copy f c' c), fun g hg => agrees_copy_of_ne hg c' c⟩
  cases f with
  | outputDir => exact hput { c with outputDir := .ofText s.value } rfl
  | highlighter => exact hput { c with highlighter := s.value } rfl
  | tabSize =>
    obtain ⟨-, n, -, hn⟩ := h
    exact hput { c with tabSize := n } hn
  | timeoutSecs =>
    obtain ⟨-, n, -, hn⟩ := h
    exact hput { c with timeoutSecs := n } hn
  | jobs =>
    obtain ⟨-, n, -, hn⟩ := h
    exact hput { c with jobs := n } hn
  | rawHtml =>
    obtain ⟨b, hb⟩ := Option.isSome_iff_exists.1 h.2
    exact hput { c with rawHtml := b } hb

end Field

/-! ## Validity -/

/-- The configurations that a run can honour. -/
theorem invalidity?_eq_none_iff {c : Config} :
    c.invalidity? = none ↔ c.jobs ≠ 0 ∧ c.highlighter.allBlank = false := by
  unfold invalidity?
  simp only [Text.trim_eq_nil_iff]
  split_ifs with hjobs hblank
  · simp [hjobs]
  · simp [hblank]
  · simp [hjobs, hblank]

/-- A configuration stays as it is if a run can honour it. -/
theorem validated_eq_ok_iff {b c : Config} :
    b.validated = .ok c ↔ b = c ∧ b.invalidity? = none := by
  unfold validated
  cases b.invalidity? <;> simp

end Marginalia.Config
