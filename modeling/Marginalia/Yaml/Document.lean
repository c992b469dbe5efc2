import Marginalia.Yaml.Event

/-!
# Documents

A document is the list of its events up to its end or the first fault, with the places of the
nodes that have a name. A text is read as one document; whether more follow is known too.
-/

namespace Marginalia.Yaml

/-- What went wrong with a document. -/
inductive DocumentFault where
  | syntactic (fault : SyntaxError)
  | unknownAnchor (place : Mark)
  deriving DecidableEq

/-- The words for a fault of a document. -/
def DocumentFault.message : DocumentFault → Text
  | .syntactic fault => fault.message
  | .unknownAnchor place => "unknown anchor".toList ++ place.suffix

/-- A node event of a document; an alias leads to the number of an earlier event. -/
inductive Node where
  | alias (target : Nat)
  | scalar (tag : Option Text) (style : ScalarStyle) (value : Text)
  | sequenceStart
  | sequenceEnd
  | mappingStart
  | mappingEnd
  /-- The stream holds nothing at all. -/
  | void
  deriving DecidableEq

/-- The events of a document, and the fault after them. -/
structure Document where
  nodes : List (Node × Mark)
  fault : Option DocumentFault

/-- A document being read: its events in reverse, and the numbers of named ones. -/
structure Draft where
  nodes : List (Node × Mark) := []
  names : List (Text × Nat) := []

namespace Draft

/-- The draft after a node with the given properties. -/
def add (d : Draft) (of : Properties) (node : Node) (mark : Mark) : Draft :=
  let names := match of.anchor with
    | some name => (name, d.nodes.length) :: d.names
    | none => d.names
  ⟨(node, mark) :: d.nodes, names⟩

/-- The document of a draft that is complete or broken off. -/
def document (d : Draft) (fault : Option DocumentFault) : Document := ⟨d.nodes.reverse, fault⟩

end Draft

/-- Reads events up to the end of a document. Gives the document and the reader after it; the
reader is missing if there is nothing left to read. -/
def Document.read (first : Bool) (d : Draft) :
    Nat → EventReader → Option Document × Option EventReader
  | 0, _ => (some (d.document none), none)
  | fuel + 1, r =>
    match r.next with
    | .error e => (some (d.document (some (.syntactic e))), some r)
    | .ok (event, mark, r) =>
      let plain (node : Node) := Document.read first (d.add ⟨none, none⟩ node mark) fuel r
      match event with
      | .documentStart => Document.read first d fuel r
      | .documentEnd => (some (d.document none), some r)
      | .streamEnd =>
        if first then
          (some (if d.nodes.isEmpty then ⟨[(.void, mark)], none⟩ else d.document none), none)
        else (none, none)
      | .alias name =>
        match d.names.lookup name with
        | some target => plain (.alias target)
        | none => (some (d.document (some (.unknownAnchor mark))), some r)
      | .scalar of style value =>
        Document.read first (d.add of (.scalar of.tag style value) mark) fuel r
      | .sequenceStart of => Document.read first (d.add of .sequenceStart mark) fuel r
      | .mappingStart of => Document.read first (d.add of .mappingStart mark) fuel r
      | .sequenceEnd => plain .sequenceEnd
      | .mappingEnd => plain .mappingEnd

/-- The first document of a text, and whether another one follows it. -/
def Document.ofText (text : Text) : Document × Bool :=
  let stream := TokenStream.ofText text
  -- Every token makes at most three events.
  let fuel := 4 * stream.tokens.length + 8
  match Document.read true ⟨[], []⟩ fuel (EventReader.start stream) with
  | (none, _) => (⟨[], none⟩, false)
  | (some document, none) => (document, false)
  | (some document, some r) => (document, (Document.read false ⟨[], []⟩ fuel r).1.isSome)

end Marginalia.Yaml
