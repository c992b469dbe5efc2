import Marginalia.Journal
import Marginalia.Pattern.Reader

/-!
# Which records are shown

A filter is written as rules between commas: a level for everything, a topic for all that is told
of it, or a topic and a level. The rule with the longest name that a topic starts with decides.
After a slash, a pattern may stand that messages have to match. What makes no sense is left out,
with a warning.
-/

namespace Marginalia.CommandLine

/-- A rule: topics that start with a name, or all of them, are shown down to a rank. -/
structure Rule where
  topic : Option Text
  rank : Nat
  deriving DecidableEq

/-- The rank of a level that is asked for by its name, in either case; zero shows nothing. -/
def rank? (t : Text) : Option Nat :=
  match String.ofList (t.map Char.toLower) with
  | "off" => some 0
  | "error" => some Level.error.rank
  | "warn" => some Level.warn.rank
  | "info" => some Level.info.rank
  | "debug" => some Level.debug.rank
  | "trace" => some Level.trace.rank
  | _ => none

/-- The rule that a text gives, or the part of it that makes no sense. -/
def rule (t : Text) : Except Text Rule :=
  match t.splitOn '=' with
  | [name] =>
    match rank? name with
    | some rank => .ok ⟨none, rank⟩
    | none => .ok ⟨some name, Level.trace.rank⟩
  | [name, level] =>
    let level := Text.trim level
    if level = [] then .ok ⟨some name, Level.trace.rank⟩
    else
      match rank? level with
      | some rank => .ok ⟨some name, rank⟩
      | none => .error level
  | _ => .error t

/-- The rules with one more. It takes the place of one with the same name. -/
def addRule (rules : List Rule) (r : Rule) : List Rule :=
  if rules.any (·.topic = r.topic) then rules.map fun q => if q.topic = r.topic then r else q
  else rules ++ [r]

/-- What is shown of a journal: records that a rule allows and whose message matches a pattern. -/
structure Filter where
  rules : List Rule
  pattern : Option Pattern
  deriving DecidableEq

/-- A warning about a part of a filter. -/
def neglect (problem : Text) : Text :=
  "warning: ".toList ++ problem ++ ", ignoring it\n".toList

/-- A part of a filter that makes no sense. -/
def badRule (t : Text) : Text := "invalid logging spec '".toList ++ t ++ ['\'']

namespace Filter

/-- The filter that shows errors only. -/
def errors : Filter := ⟨[⟨none, Level.error.rank⟩], none⟩

/-- The rules that texts give, and warnings about the others. -/
def readRules : List Text → List Rule → Text × List Rule
  | [], rules => ([], rules)
  | t :: ts, rules =>
    match rule t with
    | .ok r => readRules ts (addRule rules r)
    | .error part =>
      let (warnings, rules) := readRules ts rules
      (neglect (badRule part) ++ warnings, rules)

/-- The pattern that a text gives, and a warning if it gives none. -/
def readPattern (t : Text) : Text × Option Pattern :=
  match Pattern.ofText t with
  | .ok p => ([], some p)
  | .error fault =>
    (neglect ("invalid regex filter - ".toList ++ fault.message t), none)

/-- The filter that a text gives, and warnings about what makes no sense in it. Without any rule
only errors are shown. -/
def ofText (t : Text) : Text × Filter :=
  match t.splitOn '/' with
  | rules :: more =>
    if more.length > 1 then (neglect (badRule t ++ " (too many '/'s)".toList), errors)
    else
      let given := ((rules.splitOn ',').map Text.trim).filter (· ≠ [])
      let (warnings, rules) := readRules given []
      let (more, pattern) := (more.head?.map readPattern).getD ([], none)
      (warnings ++ more, ⟨if rules = [] then errors.rules else rules, pattern⟩)
  | [] => ([], errors)

/-- The filter that shows a level and all graver ones. -/
def ofLevel (l : Level) : Filter := ⟨[⟨none, l.rank⟩], none⟩

/-- The rule for a topic: of those with the longest name the last. -/
def ruleFor? (f : Filter) (topic : Text) : Option Rule :=
  let width (r : Rule) : Nat := (r.topic.getD []).length
  (f.rules.filter fun r => (Text.after? (r.topic.getD []) topic).isSome).foldl (fun best r =>
    match best with
    | none => some r
    | some b => if width r < width b then some b else some r) none

/-- Whether a record is shown. -/
def shows (f : Filter) (r : Record) : Bool :=
  (match f.ruleFor? r.topic.name.toList with
    | some rule => decide (r.level.rank ≤ rule.rank)
    | none => false) &&
  (match f.pattern with
    | some p => p.occursIn r.message
    | none => true)

/-- What is written of a journal. -/
def text (f : Filter) (j : Journal) : Text := Text.unlines ((j.filter f.shows).map Record.bracketed)

end Filter

end Marginalia.CommandLine
