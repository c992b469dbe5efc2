import Marginalia.Language
import Marginalia.Journal

/-!
# Sections

A source file is a list of sections, each a stretch of prose and the code that follows it. How
prose is told from code depends on the style of the language's comments.
-/

namespace Marginalia

/-- Prose without its comment marks, and the code after it as it stands in the source. -/
structure Section where
  docs : Text
  code : Text
  deriving DecidableEq, Inhabited

namespace Section

/-- No prose and no code. -/
def empty : Section := ⟨[], []⟩

/-- `s` with more prose in front. -/
def addDocs (docs : Text) (s : Section) : Section := ⟨docs ++ s.docs, s.code⟩

/-- `s` with more code in front. -/
def addCode (code : Text) (s : Section) : Section := ⟨s.docs, code ++ s.code⟩

end Section

end Marginalia
