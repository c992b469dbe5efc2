import Marginalia.Yaml.Mark

/-!
# Tokens

The words of the notation: indicators, scalars, names of nodes and kinds, directives, and the
marks of where a block begins and ends by its indentation.
-/

namespace Marginalia.Yaml

/-- How a scalar is written. -/
inductive ScalarStyle where
  | plain
  | singleQuoted
  | doubleQuoted
  | literal
  | folded
  deriving DecidableEq, Repr

/-- One word of the notation. -/
inductive Token where
  | streamStart
  | streamEnd
  | version (major minor : Nat)
  | tagDirective (handle lead : Text)
  | documentStart
  | documentEnd
  | blockSequenceStart
  | blockMappingStart
  | blockEnd
  | flowSequenceStart
  | flowSequenceEnd
  | flowMappingStart
  | flowMappingEnd
  | blockEntry
  | flowEntry
  | key
  | value
  | alias (name : Text)
  | anchor (name : Text)
  | tag (handle ending : Text)
  | scalar (style : ScalarStyle) (value : Text)
  deriving DecidableEq

/-- A token with the places of its front and its end. -/
structure Placed where
  token : Token
  front : Mark
  back : Mark
  deriving DecidableEq

end Marginalia.Yaml
