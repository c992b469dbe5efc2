import Marginalia.Section

/-!
# Sections of marked lines

Every line is prose or code. A section is a run of prose lines and the run of code lines after it,
so a new one starts at each prose line that directly follows a code line.
-/

namespace Marginalia

/-- A line of a source: prose without its comment mark, or code. -/
inductive SourceLine where
  | prose (text : Text)
  | code (text : Text)
  deriving DecidableEq

namespace SourceLine

/-- A line as the comment symbol tells it. Prose loses one carriage return at its end. -/
def classify (lang : Language) (line : Text) : SourceLine :=
  if lang.isComment line then .prose (Text.dropFinal '\r' (lang.strip line)) else .code line

/-- Puts a line in front of the sections after it. Prose joins the first of them, and so does code
unless that section has prose of its own. -/
def addTo : SourceLine → List Section → List Section
  | .prose text, s :: rest => s.addDocs (text ++ ['\n']) :: rest
  | .prose text, [] => [⟨text ++ ['\n'], []⟩]
  | .code text, s :: rest =>
    if s.docs = [] then s.addCode (text ++ ['\n']) :: rest else ⟨[], text ++ ['\n']⟩ :: s :: rest
  | .code text, [] => [⟨[], text ++ ['\n']⟩]

/-- The sections of a list of lines; there is always at least one. -/
def sections (ls : List SourceLine) : List Section := ls.foldr addTo [Section.empty]

end SourceLine

/-- The sections of a source whose documentation stands on marked lines. -/
def lineSections (lang : Language) (source : Text) : List Section :=
  SourceLine.sections (source.lines.map (SourceLine.classify lang))

end Marginalia
