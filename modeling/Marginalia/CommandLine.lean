import Marginalia.Batch
import Marginalia.Config.Discover
import Marginalia.Markdown.Sheet
import Marginalia.Shell
import Marginalia.CommandLine.Arguments
import Marginalia.CommandLine.Filter

/-!
# The command

A call of the program: its command line is read, the configuration is found and the switches are
laid over it, and the sources are documented. The journal goes to the second output. The store
stands for the files that the call can see, and the report holds the store that it leaves.
-/

namespace Marginalia.CommandLine

/-- What a call leaves behind. -/
structure Report where
  status : Nat
  output : Text
  complaints : Text
  store : Store

/-! ## Configuration -/

/-- A configuration with switches laid over it. What is not given stays. -/
def Arguments.over (a : Arguments) (c : Config) : Config :=
  { outputDir := a.output.getD c.outputDir
    highlighter := a.highlighter.getD c.highlighter
    tabSize := a.tabSize.getD c.tabSize
    timeoutSecs := a.timeout.getD c.timeoutSecs
    jobs := a.jobs.getD c.jobs
    rawHtml := a.rawHtml || c.rawHtml }

/-- The configuration of a call, and what is told while it is found. The configuration has to be
sound both before and after the switches are laid over it. -/
def Arguments.configure (a : Arguments) (store : Store) : Journal × Except ConfigError Config :=
  let (told, base) := Config.discover store a.config (.ofText ['.'])
  (told, base.bind fun c => (a.over c).validated)

/-- The program that a configuration names for highlighting. -/
def tool (c : Config) : Tool := ⟨c.highlighter, c.tabSize, c.timeout?⟩

/-- What a configuration makes of sources. -/
def workshop (c : Config) (run : Runner) : Workshop :=
  { registry := Registry.default
    highlight := (tool c).highlighter run
    render := fun t => .ok (Markdown.render c.rawHtml t)
    directory := c.outputDir }

/-! ## Calls -/

/-- The filter that switches ask for. -/
def Arguments.filter (a : Arguments) : Filter :=
  if a.quiet then .ofLevel .warn
  else if a.verbosity = 0 then .ofLevel .info
  else if a.verbosity = 1 then .ofLevel .debug
  else .ofLevel .trace

/-- Something that is told of the call as a whole. -/
def complaint (t : Text) : Record := ⟨.error, .command, t⟩

/-- The status of a batch and what is told at its end. -/
def verdict (c : Config) (result : Except Fault (List Outcome)) : Nat × Journal :=
  match result with
  | .error fault =>
    let place := c.outputDir.text
    (1, [complaint ("could not prepare ".toList ++ place ++ ": ".toList ++ fault.message)])
  | .ok outcomes =>
    let failed := (outcomes.filter fun o => !o.succeeded).length
    if failed = 0 then (0, [])
    else
      (1, [complaint (Text.ofNat failed ++ " of ".toList ++ Text.ofNat outcomes.length ++
        " files failed".toList)])

/-- Documents the sources that arguments give. -/
def document (a : Arguments) (store : Store) : Nat × Journal × Store :=
  match a.configure store with
  | (told, .error e) => (2, told ++ [complaint e.message], store)
  | (told, .ok c) =>
    let batch := (workshop c Shell.runner).run a.sources store
    let (status, last) := verdict c batch.result
    (status, told ++ batch.journal ++ last, batch.store)

/-- The paths that a call may look at, as far as a store with some of them tells. -/
def interests (args : List Text) (store : Store) : List Path :=
  match readArguments args with
  | .error _ => []
  | .ok a =>
    let named := a.config.getD Config.usualName :: a.sources
    match (a.configure store).2 with
    | .error _ => named
    | .ok c =>
      let pages := a.sources.map (Page.destination c.outputDir)
      named ++ .ofText c.highlighter :: c.outputDir :: c.outputDir.join (.ofText Stylesheet.name) ::
        pages

/-- What a call does. A filter that is given counts more than the switches. -/
def run (args : List Text) (filter : Option Text) (store : Store) : Report :=
  match readArguments args with
  | .error .bare => ⟨2, [], helpText, store⟩
  | .error .help => ⟨0, helpText, [], store⟩
  | .error .version => ⟨0, versionText, [], store⟩
  | .error (.refused r) => ⟨2, [], r.message, store⟩
  | .ok a =>
    let (warnings, filter) := (filter.map Filter.ofText).getD ([], a.filter)
    let (status, journal, store) := document a store
    ⟨status, [], warnings ++ filter.text journal, store⟩

end Marginalia.CommandLine
