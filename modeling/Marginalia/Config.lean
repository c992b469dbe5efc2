import Marginalia.Path
import Marginalia.Duration
import Marginalia.Fault
import Marginalia.Config.Datum

/-!
# Configurations

The settings of a run. A document gives values for some of the fields, in any order, each at most
once; the others keep their defaults. A document that cannot be decoded is told apart from one
whose values make no sense.
-/

namespace Marginalia

open Yaml (Mark)

/-- The settings of a run. -/
structure Config where
  outputDir : Path
  highlighter : Text
  tabSize : Nat
  timeoutSecs : Nat
  jobs : Nat
  rawHtml : Bool
  deriving DecidableEq

namespace Config

/-- The settings where nothing else is said. -/
def default : Config := ⟨.ofText "docs".toList, "pygmentize".toList, 2, 30, 1, false⟩

/-- How long the highlighter may run; zero seconds mean no limit. -/
def timeout? (c : Config) : Option Duration :=
  if c.timeoutSecs > 0 then some (Duration.ofSeconds c.timeoutSecs) else none

/-! ## Validity -/

/-- Values that a run cannot honour. -/
inductive Invalidity where
  | noJobs
  | noHighlighter
  deriving DecidableEq

/-- The words for such values. -/
def Invalidity.message : Invalidity → String
  | .noJobs => "jobs must be at least 1"
  | .noHighlighter => "highlighter must not be empty"

/-- The first thing wrong with a configuration. -/
def invalidity? (c : Config) : Option Invalidity :=
  if c.jobs = 0 then some .noJobs
  else if c.highlighter.trim = [] then some .noHighlighter
  else none

/-! ## Fields -/

/-- The fields of a configuration. -/
inductive Field where
  | outputDir
  | highlighter
  | tabSize
  | timeoutSecs
  | jobs
  | rawHtml
  deriving DecidableEq, Repr

namespace Field

/-- All fields in order. -/
def all : List Field := [.outputDir, .highlighter, .tabSize, .timeoutSecs, .jobs, .rawHtml]

/-- The key of a field. -/
def name : Field → String
  | .outputDir => "output_dir"
  | .highlighter => "highlighter"
  | .tabSize => "tab_size"
  | .timeoutSecs => "timeout_secs"
  | .jobs => "jobs"
  | .rawHtml => "raw_html"

/-- The field with a key. -/
def ofName? (key : Text) : Option Field := all.find? fun f => f.name.toList = key

/-- Sets a field to a datum. -/
def set (f : Field) (d : Datum) (c : Config) : Except Mismatch Config :=
  match f with
  | .outputDir => do return { c with outputDir := .ofText (← d.asText "path string") }
  | .highlighter => do return { c with highlighter := ← d.asText "a string" }
  | .tabSize => do return { c with tabSize := ← d.asNumber (greatest 32) "u32" }
  | .timeoutSecs => do return { c with timeoutSecs := ← d.asNumber (greatest 64) "u64" }
  | .jobs => do return { c with jobs := ← d.asNumber (greatest 64) "usize" }
  | .rawHtml => do return { c with rawHtml := ← d.asTruth "a boolean" }

end Field

/-! ## Decoding -/

/-- Why a document is no configuration. -/
inductive DecodeFault where
  | mismatch (label : Text) (cause : Mismatch) (place : Mark)
  | unknownField (key : Text) (place : Mark)
  | duplicateField (field : Field) (place : Mark)
  | document (fault : Yaml.DocumentFault)
  | endOfStream
  | severalDocuments
  deriving DecidableEq

/-- The words for such a fault. -/
def DecodeFault.message : DecodeFault → Text
  | .mismatch label cause place =>
    (if label = [] then [] else label ++ ": ".toList) ++ cause.message ++ place.suffix
  | .unknownField key place =>
    "unknown field `".toList ++ key ++ "`, expected one of ".toList ++
      ", ".toList.intercalate (Field.all.map fun f => '`' :: f.name.toList ++ ['`']) ++ place.suffix
  | .duplicateField field place =>
    "duplicate field `".toList ++ field.name.toList ++ ['`'] ++ place.suffix
  | .document fault => fault.message
  | .endOfStream => "EOF while parsing a value".toList
  | .severalDocuments =>
    "deserializing from YAML containing more than one document is not supported".toList

/-- A key of a document with its value. The value is missing where the document breaks off. -/
structure Setting where
  key : Datum
  keyMark : Mark
  /-- What the value goes by in messages. -/
  label : Text
  value : Option (Datum × Mark)
  deriving DecidableEq

/-- How a list of settings ends: properly, or because the document breaks off. -/
inductive Ending where
  | closed
  | broken
  deriving DecidableEq

/-- A node as a datum, through an alias if it is one; `none` if nothing starts there. -/
def datumOf (nodes : List (Yaml.Node × Mark)) (n : Yaml.Node × Mark) : Option (Datum × Mark) :=
  let direct : Yaml.Node × Mark → Option (Datum × Mark)
    | (.scalar tag style value, m) => some (.scalar tag style value, m)
    | (.sequenceStart, m) => some (.sequence, m)
    | (.mappingStart, m) => some (.mapping, m)
    | _ => none
  match n.1 with
  | .alias target => nodes[target]?.bind direct
  | _ => direct n

/-- The settings of a mapping whose nodes are `ns`. Nothing is read after a value that is no
scalar, since no field takes one. -/
def settings (nodes : List (Yaml.Node × Mark)) :
    List (Yaml.Node × Mark) → List Setting × Ending
  | [] => ([], .broken)
  | [k] =>
    match datumOf nodes k with
    | none => ([], .closed)
    | some (key, mark) => ([⟨key, mark, [], none⟩], .broken)
  | k :: v :: rest =>
    match datumOf nodes k with
    | none => ([], .closed)
    | some (key, mark) =>
      let label := match k.1 with
        | .scalar _ _ text => text
        | _ => ['?']
      let setting : Setting := ⟨key, mark, label, datumOf nodes v⟩
      match v.1 with
      | .sequenceStart => ([setting], .broken)
      | .mappingStart => ([setting], .broken)
      | _ =>
        let (more, ending) := settings nodes rest
        (setting :: more, ending)

/-- What is reported where a document breaks off. -/
def brokenOff (fault : Option Yaml.DocumentFault) : DecodeFault :=
  match fault with
  | some f => .document f
  | none => .endOfStream

/-- The configuration `c` with the given settings, where the fields `seen` are set already. -/
def assign (fault : Option Yaml.DocumentFault) (began : Mark) (c : Config) (seen : List Field) :
    List Setting → Except DecodeFault Config
  | [] => .ok c
  | s :: rest =>
    match s.key.asText "field identifier" with
    | .error cause => .error (.mismatch [] cause s.keyMark)
    | .ok key =>
      match Field.ofName? key with
      | none => .error (.unknownField key s.keyMark)
      | some field =>
        if seen.contains field then .error (.duplicateField field began)
        else
          match s.value with
          | none => .error (brokenOff fault)
          | some (value, place) =>
            match field.set value c with
            | .error cause => .error (.mismatch s.label cause place)
            | .ok c => assign fault began c (field :: seen) rest

/-- The configuration that a document describes. -/
def ofDocument (doc : Yaml.Document) : Except DecodeFault Config :=
  match doc.nodes with
  | [] => .error (brokenOff doc.fault)
  | (.void, _) :: _ => .ok default
  | (.scalar _ .plain [], _) :: _ => .ok default
  | (.mappingStart, began) :: inner =>
    let (given, ending) := settings doc.nodes inner
    match assign doc.fault began default [] given with
    | .error fault => .error fault
    | .ok c => if ending = .closed then .ok c else .error (brokenOff doc.fault)
  | node :: _ =>
    match datumOf doc.nodes node with
    | some (d, place) => .error (.mismatch [] (d.mismatch "struct Config") place)
    | none => .error (brokenOff doc.fault)

/-- The configuration that the only document of a text describes. -/
def decode (text : Text) : Except DecodeFault Config := do
  let (doc, more) := Yaml.Document.ofText text
  let c ← ofDocument doc
  match doc.fault with
  | some fault => .error (.document fault)
  | none => if more then .error .severalDocuments else .ok c

end Config

/-! ## Loading -/

/-- Why there is no configuration. -/
inductive ConfigError where
  | read (path : Path) (cause : SystemError)
  | parse (fault : Config.DecodeFault)
  | invalid (cause : Config.Invalidity)
  deriving DecidableEq

namespace ConfigError

/-- The fixed name of an error's kind. -/
def kind : ConfigError → String
  | .read _ _ => "Read"
  | .parse _ => "Parse"
  | .invalid _ => "Invalid"

/-- The words for an error. -/
def message : ConfigError → Text
  | .read path cause => "could not read ".toList ++ path.text ++ ": ".toList ++ cause.message
  | .parse fault => "config parse error: ".toList ++ fault.message
  | .invalid cause => "invalid config: ".toList ++ cause.message.toList

end ConfigError

namespace Config

/-- The configuration itself, if it makes sense. -/
def validated (c : Config) : Except ConfigError Config :=
  match c.invalidity? with
  | some cause => .error (.invalid cause)
  | none => .ok c

/-- The configuration of a text; blank text gives the defaults. -/
def ofText (text : Text) : Except ConfigError Config :=
  if text.trim = [] then .ok default
  else
    match decode text with
    | .error fault => .error (.parse fault)
    | .ok c => c.validated

end Config

end Marginalia
