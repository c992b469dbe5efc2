import Marginalia.Text.Basic

/-!
# The journal

What a run tells about itself while it works: records with a level and a message, in order.
-/

namespace Marginalia

/-- How much a record matters. -/
inductive Level where
  | error
  | warn
  | info
  | debug
  | trace
  deriving DecidableEq, Repr

namespace Level

/-- The name of a level. -/
def name : Level → String
  | .error => "ERROR"
  | .warn => "WARN"
  | .info => "INFO"
  | .debug => "DEBUG"
  | .trace => "TRACE"

/-- The levels from the gravest, counted from one. -/
def rank : Level → Nat
  | .error => 1
  | .warn => 2
  | .info => 3
  | .debug => 4
  | .trace => 5

end Level

/-- What a record is about. -/
inductive Topic where
  | sections
  | highlighting
  | batch
  | config
  | command
  deriving DecidableEq, Repr

/-- The name by which a topic is asked for. -/
def Topic.name : Topic → String
  | .sections => "litdoc_core::parse"
  | .highlighting => "litdoc_core::highlight"
  | .batch => "litdoc::batch"
  | .config => "litdoc::config"
  | .command => "litdoc"

/-- One thing told. -/
structure Record where
  level : Level
  topic : Topic
  message : Text
  deriving DecidableEq

/-- Everything told, in order. -/
abbrev Journal := List Record

namespace Record

/-- The level, a blank and the message. -/
def line (r : Record) : Text := r.level.name.toList ++ ' ' :: r.message

/-- The level in brackets, as wide as the widest level, and the message. Further lines of the
message are indented. -/
def bracketed (r : Record) : Text :=
  let indented := r.message.flatMap fun c => if c = '\n' then "\n    ".toList else [c]
  '[' :: Text.padEnd 5 r.level.name.toList ++ "] ".toList ++ indented

end Record

end Marginalia
