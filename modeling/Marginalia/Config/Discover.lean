import Marginalia.Config
import Marginalia.Journal
import Marginalia.Store

/-!
# Finding the configuration

A file named explicitly has to be there. Otherwise the file with the usual name counts if there is
one, and the defaults if there is none.
-/

namespace Marginalia.Config

/-- The name of a configuration file that is found without being named. -/
def usualName : Path := .ofText "litdoc.yaml".toList

/-- The configuration in the file at a path. -/
def load (store : Store) (p : Path) : Except ConfigError Config :=
  match store.readText p with
  | .error cause => .error (.read p cause)
  | .ok text => ofText text

/-- The configuration of a run in a directory, and what is told while it is looked for. -/
def discover (store : Store) (explicit : Option Path) (directory : Path) :
    Journal × Except ConfigError Config :=
  match explicit with
  | some p => ([], load store p)
  | none =>
    let candidate := directory.join usualName
    if store.isFile candidate then
      ([⟨.debug, .config, "using config ".toList ++ candidate.text⟩], load store candidate)
    else ([], .ok default)

end Marginalia.Config
