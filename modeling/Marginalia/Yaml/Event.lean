import Marginalia.Yaml.Token.Stream

/-!
# Events

The structure of a stream as a flat list: where documents, sequences and mappings begin and end,
and the scalars and aliases between. What may come next is a stack of expectations; each event is
found by the topmost one and changes the stack.
-/

namespace Marginalia.Yaml

/-- The name and the kind that stand in front of a node. -/
structure Properties where
  anchor : Option Text
  tag : Option Text
  deriving DecidableEq

/-- One event of a stream. -/
inductive Event where
  | documentStart
  | documentEnd
  | streamEnd
  | alias (name : Text)
  | scalar (of : Properties) (style : ScalarStyle) (value : Text)
  | sequenceStart (of : Properties)
  | sequenceEnd
  | mappingStart (of : Properties)
  | mappingEnd
  deriving DecidableEq

/-- What may come next in a stream. A collection remembers where it began. -/
inductive Expectation where
  | firstDocument
  | document
  | documentContent
  | documentEnd
  | blockNode
  | blockEntry (began : Mark)
  | indentlessEntry
  | blockKey (began : Mark)
  | blockValue (began : Mark)
  | flowEntry (first : Bool) (began : Mark)
  | flowPairKey (began : Mark)
  | flowPairValue (began : Mark)
  | flowPairEnd (began : Mark)
  | flowKey (first : Bool) (began : Mark)
  | flowValue (began : Mark)
  | flowNoValue (began : Mark)
  deriving DecidableEq

/-- The reader of events: the tokens left, the fault after them, what may come next, and what the
tag handles of the document stand for. -/
structure EventReader where
  tokens : List Placed
  fault : Option SyntaxError
  expected : List Expectation
  handles : List (Text × Text)

/-- An event, where it begins, and the reader after it. -/
abbrev Step := Except SyntaxError (Event × Mark × EventReader)

namespace EventReader

/-- The next token. There is always one, or a fault: the last token is the end of the stream. -/
def peek (r : EventReader) : Except SyntaxError Placed :=
  match r.tokens with
  | p :: _ => .ok p
  | [] =>
    match r.fault with
    | some e => .error e
    | none => .ok ⟨.streamEnd, Mark.start, Mark.start⟩

/-- The reader after the next token. -/
def skip (r : EventReader) : EventReader := { r with tokens := r.tokens.drop 1 }

/-- The reader that expects `e` first. -/
def push (r : EventReader) (e : Expectation) : EventReader := { r with expected := e :: r.expected }

/-- A fault at `p` while reading what began at `since`. -/
def unexpected {α : Type} (problem activity : String) (since : Mark) (p : Placed) :
    Except SyntaxError α :=
  .error (.unexpected problem p.front (some (activity, since)))

/-- A scalar that is not there. -/
def emptyScalar (r : EventReader) (mark : Mark) : Step :=
  .ok (.scalar ⟨none, none⟩ .plain [], mark, r)

/-! ## Nodes -/

/-- The tag with the given handle and ending. -/
def tagText (r : EventReader) (handle ending : Text) (since place : Mark) :
    Except SyntaxError Text :=
  if handle = [] then .ok ending
  else
    match r.handles.lookup handle with
    | some lead => .ok (lead ++ ending)
    | none =>
      .error (.unexpected "found undefined tag handle" place (some ("while parsing a node", since)))

/-- The properties in front of a node, where it begins, and the reader after them. -/
def properties (r : EventReader) : Except SyntaxError (Properties × Mark × EventReader) := do
  let p ← r.peek
  match p.token with
  | .anchor name => do
    let r := r.skip
    let q ← r.peek
    match q.token with
    | .tag handle ending => do
      let r := r.skip
      let _ ← r.peek
      let tag ← r.tagText handle ending p.front q.front
      return (⟨some name, some tag⟩, p.front, r)
    | _ => return (⟨some name, none⟩, p.front, r)
  | .tag handle ending => do
    let r := r.skip
    let q ← r.peek
    match q.token with
    | .anchor name => do
      let r := r.skip
      let _ ← r.peek
      let tag ← r.tagText handle ending p.front p.front
      return (⟨some name, some tag⟩, p.front, r)
    | _ => do
      let tag ← r.tagText handle ending p.front p.front
      return (⟨none, some tag⟩, p.front, r)
  | _ => return (⟨none, none⟩, p.front, r)

/-- Reads a node. Block collections need `block`, and a sequence without indentation of its own
needs `indentless`. -/
def node (r : EventReader) (block indentless : Bool) : Step := do
  let p ← r.peek
  match p.token with
  | .alias name => return (.alias name, p.front, r.skip)
  | _ => do
    let (props, began, r) ← r.properties
    let p ← r.peek
    match p.token, block, indentless with
    | .blockEntry, _, true => return (.sequenceStart props, began, r.push .indentlessEntry)
    | .scalar style value, _, _ =>
      -- The bare sign leaves the kind of a scalar open.
      let props := if props.tag = some ['!'] then { props with tag := none } else props
      return (.scalar props style value, began, r.skip)
    | .flowSequenceStart, _, _ =>
      return (.sequenceStart props, began, r.skip.push (.flowEntry true p.front))
    | .flowMappingStart, _, _ =>
      return (.mappingStart props, began, r.skip.push (.flowKey true p.front))
    | .blockSequenceStart, true, _ =>
      return (.sequenceStart props, began, r.skip.push (.blockEntry p.front))
    | .blockMappingStart, true, _ =>
      return (.mappingStart props, began, r.skip.push (.blockKey p.front))
    | _, _, _ =>
      if props.anchor.isSome || props.tag.isSome then
        return (.scalar props .plain [], began, r)
      else
        unexpected "did not find expected node content"
          (if block then "while parsing a block node" else "while parsing a flow node") began p

/-! ## Block collections -/

/-- Reads an entry of a block sequence, or its end. -/
def blockEntry (r : EventReader) (began : Mark) : Step := do
  let p ← r.peek
  match p.token with
  | .blockEntry => do
    let r := r.skip.push (.blockEntry began)
    match (← r.peek).token with
    | .blockEntry | .blockEnd => r.emptyScalar p.back
    | _ => r.node true false
  | .blockEnd => return (.sequenceEnd, p.front, r.skip)
  | _ =>
    unexpected "did not find expected '-' indicator" "while parsing a block collection" began p

/-- Reads an entry of a sequence that is indented no further than the mapping it is in. -/
def indentlessEntry (r : EventReader) : Step := do
  let p ← r.peek
  match p.token with
  | .blockEntry => do
    let r := r.skip.push .indentlessEntry
    match (← r.peek).token with
    | .blockEntry | .key | .value | .blockEnd => r.emptyScalar p.back
    | _ => r.node true false
  | _ => return (.sequenceEnd, p.front, r)

/-- Reads a key of a block mapping, or its end. -/
def blockKey (r : EventReader) (began : Mark) : Step := do
  let p ← r.peek
  match p.token with
  | .key => do
    let r := r.skip.push (.blockValue began)
    match (← r.peek).token with
    | .key | .value | .blockEnd => r.emptyScalar p.back
    | _ => r.node true true
  | .blockEnd => return (.mappingEnd, p.front, r.skip)
  | _ => unexpected "did not find expected key" "while parsing a block mapping" began p

/-- Reads a value of a block mapping. -/
def blockValue (r : EventReader) (began : Mark) : Step := do
  let p ← r.peek
  match p.token with
  | .value => do
    let r := r.skip.push (.blockKey began)
    match (← r.peek).token with
    | .key | .value | .blockEnd => r.emptyScalar p.back
    | _ => r.node true true
  | _ => (r.push (.blockKey began)).emptyScalar p.front

/-! ## Flow collections -/

/-- The reader after the comma in front of an entry that is not the first. -/
def comma (r : EventReader) (first : Bool) (problem activity : String) (began : Mark) :
    Except SyntaxError EventReader := do
  if first then return r
  else do
    let p ← r.peek
    match p.token with
    | .flowEntry => return r.skip
    | _ => unexpected problem activity began p

/-- Reads an entry of a flow sequence, or its end. -/
def flowEntry (r : EventReader) (first : Bool) (began : Mark) : Step := do
  let p ← r.peek
  match p.token with
  | .flowSequenceEnd => return (.sequenceEnd, p.front, r.skip)
  | _ => do
    let r ← r.comma first "did not find expected ',' or ']'" "while parsing a flow sequence" began
    let p ← r.peek
    match p.token with
    | .key => return (.mappingStart ⟨none, none⟩, p.front, r.skip.push (.flowPairKey began))
    | .flowSequenceEnd => return (.sequenceEnd, p.front, r.skip)
    | _ => (r.push (.flowEntry false began)).node false false

/-- Reads the key of a single pair inside a flow sequence. -/
def flowPairKey (r : EventReader) (began : Mark) : Step := do
  let p ← r.peek
  let next := r.push (.flowPairValue began)
  match p.token with
  | .value | .flowEntry | .flowSequenceEnd => next.skip.emptyScalar p.back
  | _ => next.node false false

/-- Reads the value of a single pair inside a flow sequence. -/
def flowPairValue (r : EventReader) (began : Mark) : Step := do
  let p ← r.peek
  let next := r.push (.flowPairEnd began)
  match p.token with
  | .value => do
    let next := next.skip
    let q ← next.peek
    match q.token with
    | .flowEntry | .flowSequenceEnd => next.emptyScalar q.front
    | _ => next.node false false
  | _ => next.emptyScalar p.front

/-- Reads a key of a flow mapping, or its end. -/
def flowKey (r : EventReader) (first : Bool) (began : Mark) : Step := do
  let p ← r.peek
  match p.token with
  | .flowMappingEnd => return (.mappingEnd, p.front, r.skip)
  | _ => do
    let r ← r.comma first "did not find expected ',' or '\x7d'"
      "while parsing a flow mapping" began
    let p ← r.peek
    match p.token with
    | .key => do
      let next := r.skip.push (.flowValue began)
      let q ← next.peek
      match q.token with
      | .value | .flowEntry | .flowMappingEnd => next.emptyScalar q.front
      | _ => next.node false false
    | .flowMappingEnd => return (.mappingEnd, p.front, r.skip)
    | _ => (r.push (.flowNoValue began)).node false false

/-- Reads a value of a flow mapping. -/
def flowValue (r : EventReader) (began : Mark) : Step := do
  let p ← r.peek
  let next := r.push (.flowKey false began)
  match p.token with
  | .value => do
    let next := next.skip
    let q ← next.peek
    match q.token with
    | .flowEntry | .flowMappingEnd => next.emptyScalar q.front
    | _ => next.node false false
  | _ => next.emptyScalar p.front

/-! ## Documents -/

/-- The tag handles that every document knows. -/
def knownHandles : List (Text × Text) :=
  [("!".toList, "!".toList), ("!!".toList, "tag:yaml.org,2002:".toList)]

/-- Reads the directives in front of a document. -/
def directives (versionSeen : Bool) (own : List (Text × Text)) :
    Nat → EventReader → Except SyntaxError EventReader
  | 0, r => .ok r
  | fuel + 1, r => do
    let p ← r.peek
    match p.token with
    | .version major minor =>
      if versionSeen then .error (.unexpected "found duplicate %YAML directive" p.front none)
      else if major ≠ 1 || (minor ≠ 1 && minor ≠ 2) then
        .error (.unexpected "found incompatible YAML document" p.front none)
      else directives true own fuel r.skip
    | .tagDirective handle lead =>
      if own.any (·.1 = handle) then
        .error (.unexpected "found duplicate %TAG directive" p.front none)
      else directives versionSeen ((handle, lead) :: own) fuel r.skip
    | _ => return { r with handles := own ++ knownHandles }

/-- The reader after the marks of an ended document. -/
def skipEnds (r : EventReader) : EventReader :=
  { r with tokens := r.tokens.dropWhile (·.token = .documentEnd) }

/-- Reads the front of a document, or the end of the stream. Only the first document may go
without a mark. -/
def document (r : EventReader) (implicit : Bool) : Step := do
  let r := if implicit then r else r.skipEnds
  let p ← r.peek
  let marked := match p.token with
    | .version _ _ | .tagDirective _ _ | .documentStart => true
    | _ => false
  if p.token = .streamEnd then return (.streamEnd, p.front, r.skip)
  else if implicit && !marked then
    let r := { r with handles := knownHandles }
    return (.documentStart, p.front, (r.push .documentEnd).push .blockNode)
  else do
    let r ← directives false [] (r.tokens.length + 1) r
    let q ← r.peek
    if q.token = .documentStart then
      return (.documentStart, p.front, (r.skip.push .documentEnd).push .documentContent)
    else .error (.unexpected "did not find expected <document start>" q.front none)

/-- Reads the node of a document that began with a mark. -/
def documentContent (r : EventReader) : Step := do
  let p ← r.peek
  match p.token with
  | .version _ _ | .tagDirective _ _ | .documentStart | .documentEnd | .streamEnd =>
    r.emptyScalar p.front
  | _ => r.node true false

/-- Reads the end of a document. -/
def documentEnd (r : EventReader) : Step := do
  let p ← r.peek
  let r := if p.token = .documentEnd then r.skip else r
  return (.documentEnd, p.front, r.push .document)

/-! ## The stream -/

/-- Reads the next event. -/
def next (r : EventReader) : Step :=
  match r.expected with
  | [] => .ok (.streamEnd, Mark.start, r)
  | e :: outer =>
    let r := { r with expected := outer }
    match e with
    | .firstDocument => r.document true
    | .document => r.document false
    | .documentContent => r.documentContent
    | .documentEnd => r.documentEnd
    | .blockNode => r.node true false
    | .blockEntry began => r.blockEntry began
    | .indentlessEntry => r.indentlessEntry
    | .blockKey began => r.blockKey began
    | .blockValue began => r.blockValue began
    | .flowEntry first began => r.flowEntry first began
    | .flowPairKey began => r.flowPairKey began
    | .flowPairValue began => r.flowPairValue began
    | .flowPairEnd began => do
      let p ← r.peek
      return (.mappingEnd, p.front, r.push (.flowEntry false began))
    | .flowKey first began => r.flowKey first began
    | .flowValue began => r.flowValue began
    | .flowNoValue began => do
      let p ← r.peek
      (r.push (.flowKey false began)).emptyScalar p.front

/-- The reader at the front of a stream. -/
def start (s : TokenStream) : EventReader := ⟨s.tokens.drop 1, s.fault, [.firstDocument], []⟩

end EventReader

end Marginalia.Yaml
