import Marginalia.CommandLine
import Marginalia.Proofs.ConfigFields
import Marginalia.Proofs.StoreWrites
import Mathlib.Tactic.SplitIfs

/-!
# Layers of a configuration

A call finds its configuration in layers: the defaults, the file over them, and the switches over
the file.

1. What comes of a file depends on its text only: it is a configuration that makes sense, or an
   error of one of three kinds (`Config.load_eq_iff`).
2. The usual file counts if it is a regular file in the working directory
   (`Store.isFile_usual_iff`).
3. A configuration is found exactly if the file gives one that makes sense both as it is and with
   the switches laid over it. An error of the file stays, whatever is laid over it
   (`Arguments.configure_layers`).
-/

namespace Marginalia

/-! ## Files -/

namespace Config

/-- What comes of the file at a path. -/
inductive Loads (store : Store) (p : Path) : Except ConfigError Config → Prop
  | unreadable {cause : SystemError} (h : store.readText p = .error cause) :
    Loads store p (.error (.read p cause))
  | blank {text : Text} (h : store.readText p = .ok text) (hblank : text.allBlank = true) :
    Loads store p (.ok default)
  | undecodable {text : Text} {fault : DecodeFault} (h : store.readText p = .ok text)
    (hfilled : text.allBlank = false) (hdecode : decode text = .error fault) :
    Loads store p (.error (.parse fault))
  | senseless {text : Text} {c : Config} {cause : Invalidity} (h : store.readText p = .ok text)
    (hfilled : text.allBlank = false) (hdecode : decode text = .ok c)
    (hinvalid : c.invalidity? = some cause) : Loads store p (.error (.invalid cause))
  | sound {text : Text} {c : Config} (h : store.readText p = .ok text)
    (hfilled : text.allBlank = false) (hdecode : decode text = .ok c)
    (hvalid : c.invalidity? = none) : Loads store p (.ok c)

variable {store : Store} {p : Path} {result : Except ConfigError Config} {text : Text}

theorem load_of_error {cause : SystemError} (h : store.readText p = .error cause) :
    load store p = .error (.read p cause) := by
  rw [load, h]

theorem load_of_allBlank (h : store.readText p = .ok text) (hblank : text.allBlank = true) :
    load store p = .ok default := by
  rw [load, h]
  exact if_pos (Text.trim_eq_nil_iff.2 hblank)

theorem load_of_filled (h : store.readText p = .ok text) (hfilled : text.allBlank = false) :
    load store p = match decode text with
      | .error fault => .error (.parse fault)
      | .ok c => c.validated := by
  rw [load, h]
  refine if_neg fun hnil => ?_
  rw [Text.trim_eq_nil_iff, hfilled] at hnil
  cases hnil

theorem loads_load (store : Store) (p : Path) : Loads store p (load store p) := by
  cases hread : store.readText p with
  | error cause =>
    rw [load_of_error hread]
    exact .unreadable hread
  | ok text =>
    cases hblank : text.allBlank with
    | true =>
      rw [load_of_allBlank hread hblank]
      exact .blank hread hblank
    | false =>
      rw [load_of_filled hread hblank]
      cases hdecode : decode text with
      | error fault => exact .undecodable hread hblank hdecode
      | ok c =>
        dsimp only [validated]
        cases hvalid : c.invalidity? with
        | some cause => exact .senseless hread hblank hdecode hvalid
        | none => exact .sound hread hblank hdecode hvalid

theorem Loads.eq (h : Loads store p result) : load store p = result := by
  cases h with
  | unreadable hread => exact load_of_error hread
  | blank hread hblank => exact load_of_allBlank hread hblank
  | undecodable hread hblank hdecode => rw [load_of_filled hread hblank, hdecode]
  | senseless hread hblank hdecode hvalid =>
    rw [load_of_filled hread hblank, hdecode]
    dsimp only [validated]
    rw [hvalid]
  | sound hread hblank hdecode hvalid =>
    rw [load_of_filled hread hblank, hdecode]
    exact validated_eq_ok_iff.2 ⟨rfl, hvalid⟩

/-- A file gives a configuration or one of three errors. -/
theorem load_eq_iff : load store p = result ↔ Loads store p result :=
  ⟨fun h => h ▸ loads_load store p, Loads.eq⟩

end Config

/-! ## The usual file -/

namespace Store

/-- The path of the usual file from the working directory. -/
def usual : Path := .ofText "./litdoc.yaml".toList

/-- The place of the usual file. -/
def usualPlace (store : Store) : Location := store.home ++ [Utf8.encode "litdoc.yaml".toList]

/-- The usual path leads to what stands there in the working directory. -/
theorem resolve_usual (store : Store) :
    store.resolve usual = match store.get? store.usualPlace with
      | none => .error .notFound
      | some entry => .ok (store.usualPlace, entry) := by
  have hrefused : refused? usual = none := by decide
  have horigin : store.origin usual = store.home := rfl
  have hsteps : steps usual = [Path.hereName, Utf8.encode "litdoc.yaml".toList] := by decide
  have hwalk : store.walk store.home (steps usual) =
      match store.get? store.usualPlace with
      | none => .error .notFound
      | some _ => .ok store.usualPlace := by
    have hhome : store.isDirectoryAt store.home = true :=
      isDirectoryAt_iff.2 (get?_of_prefix_home List.prefix_rfl)
    rw [hsteps, walk, walk, if_pos hhome, if_pos rfl, if_pos hhome, if_neg (by decide),
      if_neg (by decide), if_neg (by decide), usualPlace]
    cases store.get? (store.home ++ [Utf8.encode "litdoc.yaml".toList]) <;> rfl
  unfold resolve
  rw [hrefused, horigin, hwalk]
  cases hentry : store.get? store.usualPlace with
  | none => rfl
  | some entry =>
    simp only [bind, Except.bind, hentry]
    cases entry with
    | directory => rfl
    | file contents executable => exact if_neg (by decide)

/-- The usual path leads to a file exactly if one stands there in the working directory. -/
theorem isFile_usual_iff {store : Store} :
    store.isFile usual = true ↔
      ∃ contents executable, store.get? store.usualPlace = some (.file contents executable) := by
  unfold isFile
  rw [resolve_usual]
  cases store.get? store.usualPlace with
  | none => simp
  | some entry => cases entry <;> simp

end Store

/-! ## Layers -/

namespace CommandLine.Arguments

/-- The file that a call takes its configuration from: the one that is named, or else the usual one
if it is a file in the working directory. -/
def file? (a : Arguments) (store : Store) : Option Path :=
  match a.config with
  | some p => some p
  | .none =>
    match store.get? store.usualPlace with
    | some (.file _ _) => some Store.usual
    | _ => .none

/-- What a call has before its switches are laid over it. -/
def base (a : Arguments) (store : Store) : Except ConfigError Config :=
  (Config.discover store a.config (.ofText ['.'])).2

/-- `c` has the value of each switch that is given, and those of `b` otherwise. -/
structure LiesOver (a : Arguments) (b c : Config) : Prop where
  outputDir : c.outputDir = a.output.getD b.outputDir
  highlighter : c.highlighter = a.highlighter.getD b.highlighter
  tabSize : c.tabSize = a.tabSize.getD b.tabSize
  timeoutSecs : c.timeoutSecs = a.timeout.getD b.timeoutSecs
  jobs : c.jobs = a.jobs.getD b.jobs
  rawHtml : c.rawHtml = true ↔ a.rawHtml = true ∨ b.rawHtml = true

/-- How the configuration of a call is found in a store. -/
structure Layers (a : Arguments) (store : Store) : Prop where
  /-- There is one exactly if there is a base that makes sense with the switches laid over it. -/
  accepted : (∃ c, (a.configure store).2 = .ok c) ↔
    ∃ b, a.base store = .ok b ∧ (a.over b).invalidity? = .none
  /-- It is the base with the switches laid over it, at least one job and a highlighter. -/
  laid : ∀ c, (a.configure store).2 = .ok c ↔
    ∃ b, a.base store = .ok b ∧ a.LiesOver b c ∧ 1 ≤ c.jobs ∧ c.highlighter.allBlank = false
  /-- Where there is a file, the base is what comes of the file. -/
  ofFile : ∀ p result, a.file? store = some p →
    (a.base store = result ↔ Config.Loads store p result)
  /-- Where there is none, the base is the defaults. -/
  ofNothing : a.file? store = .none → a.base store = .ok Config.default
  /-- What is wrong with the file is what is reported, whatever the switches are. -/
  faulty : ∀ p e, a.file? store = some p → Config.Loads store p (.error e) →
    (a.configure store).2 = .error e

variable {a : Arguments} {store : Store} {b c : Config} {p : Path}

theorem liesOver_over (a : Arguments) (b : Config) : a.LiesOver b (a.over b) where
  outputDir := rfl
  highlighter := rfl
  tabSize := rfl
  timeoutSecs := rfl
  jobs := rfl
  rawHtml := Bool.or_eq_true a.rawHtml b.rawHtml ▸ Iff.rfl

/-- Switches laid over a configuration make one only. -/
theorem liesOver_iff : a.LiesOver b c ↔ c = a.over b := by
  refine ⟨fun h => ?_, fun h => h ▸ liesOver_over a b⟩
  have hraw : c.rawHtml = (a.over b).rawHtml :=
    Bool.eq_iff_iff.2 (h.rawHtml.trans (liesOver_over a b).rawHtml.symm)
  obtain ⟨⟩ := c
  exact Config.mk.injEq .. ▸ ⟨h.outputDir, h.highlighter, h.tabSize, h.timeoutSecs, h.jobs, hraw⟩

theorem configure_eq (a : Arguments) (store : Store) :
    (a.configure store).2 = (a.base store).bind fun b => (a.over b).validated := rfl

theorem configure_eq_ok_iff : (a.configure store).2 = .ok c ↔
    ∃ b, a.base store = .ok b ∧ a.over b = c ∧ (a.over b).invalidity? = .none := by
  rw [configure_eq]
  cases a.base store with
  | error e => simp [Except.bind]
  | ok b => simp [Except.bind, Config.validated_eq_ok_iff]

theorem base_of_config (h : a.config = some p) : a.base store = Config.load store p := by
  unfold base Config.discover
  rw [h]

theorem base_of_no_config (h : a.config = .none) :
    a.base store =
      if store.isFile Store.usual then Config.load store Store.usual else .ok Config.default := by
  have hjoin : Path.join (.ofText ['.']) Config.usualName = Store.usual := by decide
  unfold base Config.discover
  rw [h, hjoin]
  dsimp only
  split_ifs <;> rfl

theorem base_of_file? (h : a.file? store = some p) : a.base store = Config.load store p := by
  unfold file? at h
  split at h
  · next hconfig =>
    cases h
    exact base_of_config hconfig
  · next hconfig =>
    split at h
    · next contents executable hentry =>
      cases h
      rw [base_of_no_config hconfig, if_pos (Store.isFile_usual_iff.2 ⟨_, _, hentry⟩)]
    · cases h

theorem base_of_no_file (h : a.file? store = .none) : a.base store = .ok Config.default := by
  unfold file? at h
  split at h
  · cases h
  · next hconfig =>
    rw [base_of_no_config hconfig, if_neg]
    rw [Store.isFile_usual_iff]
    rintro ⟨contents, executable, hentry⟩
    rw [hentry] at h
    cases h

/-- **The configuration of a call** is the file over the defaults and the switches over the file,
and has to make sense before and after the switches. -/
theorem configure_layers (a : Arguments) (store : Store) : a.Layers store where
  accepted := by
    simp only [configure_eq_ok_iff]
    exact ⟨fun ⟨_, b, hb, _, hvalid⟩ => ⟨b, hb, hvalid⟩,
      fun ⟨b, hb, hvalid⟩ => ⟨_, b, hb, rfl, hvalid⟩⟩
  laid c := by
    rw [configure_eq_ok_iff]
    refine exists_congr fun b => and_congr_right fun _ => ?_
    rw [liesOver_iff, Config.invalidity?_eq_none_iff, Nat.one_le_iff_ne_zero]
    constructor
    · rintro ⟨rfl, hvalid⟩
      exact ⟨rfl, hvalid⟩
    · rintro ⟨rfl, hvalid⟩
      exact ⟨rfl, hvalid⟩
  ofFile p result h := by rw [base_of_file? h, Config.load_eq_iff]
  ofNothing h := base_of_no_file h
  faulty p e h hfault := by rw [configure_eq, base_of_file? h, hfault.eq]; rfl

/-- A file that is named from the root and asks for no jobs is refused although the switches ask for
two. -/
example :
    let named : Path := .ofText "/litdoc.yaml".toList
    (({ none with config := some named, jobs := some 2 } : Arguments).configure
      ⟨[Utf8.encode "home".toList],
        [([Utf8.encode "litdoc.yaml".toList], .file (Utf8.encode "jobs: 0".toList) false)]⟩).2 =
      .error (.invalid .noJobs) := by
  decide +kernel

end CommandLine.Arguments

end Marginalia
