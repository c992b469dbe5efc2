import Marginalia.Text.Basic

/-!
# Switches

The switches of the command line, with their names, and the text that explains them.
-/

namespace Marginalia.CommandLine

/-- A switch of the command line. -/
inductive Switch where
  | output
  | config
  | highlighter
  | tabSize
  | timeout
  | jobs
  | rawHtml
  | quiet
  | verbose
  | help
  | version
  deriving DecidableEq, Repr

namespace Switch

/-- All switches, in the order in which they are explained. -/
def all : List Switch :=
  [.output, .config, .highlighter, .tabSize, .timeout, .jobs, .rawHtml, .quiet, .verbose, .help,
   .version]

/-- The name after two dashes. -/
def name : Switch → String
  | .output => "output"
  | .config => "config"
  | .highlighter => "highlighter"
  | .tabSize => "tab-size"
  | .timeout => "timeout"
  | .jobs => "jobs"
  | .rawHtml => "raw-html"
  | .quiet => "quiet"
  | .verbose => "verbose"
  | .help => "help"
  | .version => "version"

/-- The letter after one dash. -/
def letter? : Switch → Option Char
  | .output => some 'o'
  | .jobs => some 'j'
  | .quiet => some 'q'
  | .verbose => some 'v'
  | .help => some 'h'
  | .version => some 'V'
  | _ => none

/-- Whether a value belongs to the switch. -/
def takesValue : Switch → Bool
  | .output | .config | .highlighter | .tabSize | .timeout | .jobs => true
  | _ => false

/-- Whether the switch may be given more than once. -/
def counts (s : Switch) : Bool := s = .verbose

/-- What the switch is for. -/
def purpose : Switch → String
  | .output => "Output directory (default: docs)"
  | .config => "Config file (default: ./litdoc.yaml if present)"
  | .highlighter => "Highlighter executable (default: pygmentize)"
  | .tabSize => "Tab width passed to the highlighter"
  | .timeout => "Seconds before a highlighter run is killed; 0 disables"
  | .jobs => "Files to process concurrently"
  | .rawHtml => "Pass raw HTML in comments through unescaped"
  | .quiet => "Only report warnings and errors"
  | .verbose => "More logging (repeat for trace)"
  | .help => "Print help"
  | .version => "Print version"

/-- The name with its dashes. -/
def dashed (s : Switch) : Text := "--".toList ++ s.name.toList

/-- The form of the switch in messages. -/
def shown (s : Switch) : Text :=
  if s.takesValue then s.dashed ++ " <".toList ++ s.name.toList ++ ['>']
  else if s.counts then s.dashed ++ "...".toList
  else s.dashed

/-- The switch with a name. -/
def ofName? (t : Text) : Option Switch := all.find? fun s => s.name.toList = t

/-- The switch with a letter. -/
def ofLetter? (c : Char) : Option Switch := all.find? fun s => s.letter? = some c

/-- The line that explains the switch. -/
def line (s : Switch) : Text :=
  let letter := match s.letter? with
    | some c => ['-', c, ',']
    | none => [' ', ' ', ' ']
  "  ".toList ++ letter ++ ' ' :: Text.padEnd 29 s.shown ++ s.purpose.toList

end Switch

/-! ## Help -/

/-- The name of the program. -/
def program : Text := "litdoc".toList

/-- The form of the sources in messages. -/
def sourcesShown : Text := "<sources>...".toList

/-- What a value belongs to. -/
inductive Slot where
  | switch (s : Switch)
  | sources
  deriving DecidableEq

/-- The form of a slot in messages. -/
def Slot.shown : Slot → Text
  | .switch s => s.shown
  | .sources => sourcesShown

/-- How the program is called: with what is given, or with any switches. Sources come last. -/
def usage (given : List Slot) : Text :=
  let shown := ((given.filter (· ≠ .sources)).map Slot.shown).foldl (fun acc s =>
    if acc.contains s then acc else acc ++ [s]) []
  let middle := if given = [] then ["[OPTIONS]".toList] else shown
  "Usage: ".toList ++ [' '].intercalate (program :: middle ++ [sourcesShown])

/-- The text that explains the program. -/
def helpText : Text :=
  Text.unlines
    (["Generate side-by-side documentation pages from annotated source files".toList, [],
      usage [], [], "Arguments:".toList, "  <sources>...  Source files to document".toList, [],
      "Options:".toList] ++ Switch.all.map Switch.line)

/-- The version of the program. -/
def versionText : Text := Text.unlines [program ++ " 0.0.1".toList]

end Marginalia.CommandLine
