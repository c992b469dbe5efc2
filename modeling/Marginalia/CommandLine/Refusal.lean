import Marginalia.CommandLine.Similar

/-!
# Refusals

Why a command line is refused, and the words for it. Some refusals show how the program is called,
with what was understood so far.
-/

namespace Marginalia.CommandLine

/-- Why a text is no number for a switch. -/
inductive NumberFault where
  | empty
  | digit
  | large
  | small
  | outside (value : Int) (greatest : Nat)
  deriving DecidableEq

/-- The words for a number that is none. -/
def NumberFault.message : NumberFault → Text
  | .empty => "cannot parse integer from empty string".toList
  | .digit => "invalid digit found in string".toList
  | .large => "number too large to fit in target type".toList
  | .small => "number too small to fit in target type".toList
  | .outside value greatest =>
    let sign := if value < 0 then ['-'] else []
    sign ++ Text.ofNat value.natAbs ++ " is not in 0..=".toList ++ Text.ofNat greatest

/-- Why a command line is refused. -/
inductive Refusal where
  /-- An argument that is no switch, with a switch that may be meant. -/
  | unknown (arg : Text) (similar : Option Switch) (given : List Slot)
  | noSources (given : List Slot)
  | noValue (slot : Slot)
  | badNumber (value : Text) (s : Switch) (cause : NumberFault)
  /-- Two switches that exclude each other. -/
  | conflict (first second : Switch) (given : List Slot)
  | repeated (s : Switch)
  /-- A value for a switch that takes none. -/
  | surplus (value : Text) (s : Switch) (given : List Slot)
  deriving DecidableEq

namespace Refusal

/-- What is wrong. -/
def problem : Refusal → Text
  | .unknown arg _ _ => "unexpected argument '".toList ++ arg ++ "' found".toList
  | .noSources _ =>
    "the following required arguments were not provided:\n  ".toList ++ sourcesShown
  | .noValue slot =>
    "a value is required for '".toList ++ slot.shown ++ "' but none was supplied".toList
  | .badNumber value s cause =>
    "invalid value '".toList ++ value ++ "' for '".toList ++ s.shown ++ "': ".toList ++
      cause.message
  | .conflict first second _ =>
    "the argument '".toList ++ first.shown ++ "' cannot be used with '".toList ++ second.shown ++
      ['\'']
  | .repeated s => "the argument '".toList ++ s.shown ++ "' cannot be used multiple times".toList
  | .surplus value s _ =>
    "unexpected value '".toList ++ value ++ "' for '".toList ++ s.shown ++
      "' found; no more were expected".toList

/-- What may help. -/
def tip? : Refusal → Option Text
  | .unknown _ (some s) _ => some ("a similar argument exists: '".toList ++ s.dashed ++ ['\''])
  | .unknown arg none _ =>
    some ("to pass '".toList ++ arg ++ "' as a value, use '-- ".toList ++ arg ++ ['\''])
  | _ => none

/-- How the program is called. -/
def usage? : Refusal → Option Text
  | .unknown _ _ given => some (usage given)
  | .noSources given => some (usage given)
  | .conflict _ _ given => some (usage given)
  | .repeated _ => some (usage [])
  | .surplus _ _ given => some (usage given)
  | _ => none

/-- All that is said. -/
def message (r : Refusal) : Text :=
  let tip := match r.tip? with
    | some t => "  tip: ".toList ++ t ++ "\n\n".toList
    | none => []
  let usage := match r.usage? with
    | some t => t ++ "\n\n".toList
    | none => []
  "error: ".toList ++ r.problem ++ "\n\n".toList ++ tip ++ usage ++
    "For more information, try '--help'.\n".toList

end Refusal

end Marginalia.CommandLine
