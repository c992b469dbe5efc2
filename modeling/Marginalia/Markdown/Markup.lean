import Marginalia.Markdown.Scan

/-!
# Markup within Markdown

Tags, comments, declarations and instructions may stand in running text, and some of them start a
block of markup of their own.

1. Names of tags, and the tags that are never passed on.
2. Markup in running text (`inlineMarkup`).
3. Blocks of markup (`blockMarkup`): how one starts decides how it ends.
-/

namespace Marginalia.Markdown

namespace Markup

/-! ## Names -/

/-- Characters after the first of the name of a tag. -/
def isNameChar (c : Char) : Bool := c.isAlphanum || c = '-'

/-- Characters after the first of the name of an attribute. -/
def isAttributeChar (c : Char) : Bool := isNameChar c || c = '.' || c = ':' || c = '_'

/-- Tags whose content is not markup; a block of them ends with such a tag. -/
def rawNames : List String := ["pre", "script", "style", "textarea"]

/-- The most letters of such a tag. -/
def rawNameSize : Nat := 8

/-- Tags that start a block wherever they stand on their own. -/
def blockNames : List String :=
  ["address", "article", "aside", "base", "basefont", "blockquote", "body", "caption", "center",
   "col", "colgroup", "dd", "details", "dialog", "dir", "div", "dl", "dt", "fieldset",
   "figcaption", "figure", "footer", "form", "frame", "frameset", "h1", "h2", "h3", "h4", "h5",
   "h6", "head", "header", "hr", "html", "iframe", "legend", "li", "link", "main", "menu",
   "menuitem", "nav", "noframes", "ol", "optgroup", "option", "p", "param", "search", "section",
   "summary", "table", "tbody", "td", "tfoot", "th", "thead", "title", "tr", "track", "ul"]

/-- Whether a name is in a list, in either case. -/
def listed (names : List String) (name : Text) : Bool :=
  names.any fun n => n.toList = name.map Char.toLower

/-- Tags that would change how the rest of a page is read. -/
def filteredNames : List String :=
  ["iframe", "noembed", "noframes", "plaintext", "script", "style", "textarea", "title", "xmp"]

/-- Whether the text after `<` starts such a tag. -/
def startsFiltered (t : Text) : Bool :=
  let t := Text.dropFirst '/' t
  let name := t.takeWhile Char.isAlphanum
  listed filteredNames name &&
    match (t.drop name.length).head? with
    | none => true
    | some c => isGap c || c = '\x0c' || c = '/' || c = '>'

/-- Markup that is passed on, except that the tags above become text. -/
def passOn : Text → Text
  | [] => []
  | '<' :: t => (if startsFiltered t then "&lt;".toList else ['<']) ++ passOn t
  | c :: t => c :: passOn t

/-- What stands before the content of character data. -/
def characterDataStart : String := "CDATA["

end Markup

namespace Scan

/-! ## Markup in running text -/

/-- Where in markup a scanner is. -/
inductive InlineAt where
  | comment
  | commentDash
  | commentEnd
  | characterData
  | characterDataBracket
  | characterDataEnd
  | declaration
  | instruction
  | instructionEnd
  | closingTag
  | tag
  | attributeName
  | attributeNameAfter
  | valueBefore
  | valueQuoted (quote : Char)
  | valuePlain
  | valueAfter
  | final

/-- Passes the end of a line within markup, and the blanks after it. -/
def inlineMarkupLine : Scan Unit := do
  exit .markupData
  lineEnd
  optionalGap
  enter .markupData

/-- Passes one character of markup. Where an end of a line may stand, it is passed as well. -/
def inlineMarkupStep (x : InlineAt) : Scan (Option InlineAt) := do
  let c ← peek
  let past (y : InlineAt) : Scan (Option InlineAt) := do
    if c = some '\n' then inlineMarkupLine else step
    return some y
  let blank := c = some '\n' || (c.map isSpace).getD false
  match x with
  | .comment =>
    if c = none then fail
    else if c = some '-' then step; return some .commentDash
    else past .comment
  | .commentDash =>
    if c = some '-' then step; return some .commentEnd else return some .comment
  | .commentEnd =>
    return some (if c = some '>' then .final else if c = some '-' then .commentDash else .comment)
  | .characterData =>
    if c = none then fail
    else if c = some ']' then step; return some .characterDataBracket
    else past .characterData
  | .characterDataBracket =>
    if c = some ']' then step; return some .characterDataEnd else return some .characterData
  | .characterDataEnd =>
    return some (if c = some '>' then .final
      else if c = some ']' then .characterDataBracket else .characterData)
  | .declaration =>
    if c = none || c = some '>' then return some .final else past .declaration
  | .instruction =>
    if c = none then fail
    else if c = some '?' then step; return some .instructionEnd
    else past .instruction
  | .instructionEnd => return some (if c = some '>' then .final else .instruction)
  | .closingTag => if blank then past .closingTag else return some .final
  | .tag =>
    match c with
    | some d =>
      if blank then past .tag
      else if d = '/' then step; return some .final
      else if d.isAlpha || d = ':' || d = '_' then step; return some .attributeName
      else return some .final
    | none => return some .final
  | .attributeName =>
    if (c.map Markup.isAttributeChar).getD false then step; return some .attributeName
    else return some .attributeNameAfter
  | .attributeNameAfter =>
    if blank then past .attributeNameAfter
    else if c = some '=' then step; return some .valueBefore
    else return some .tag
  | .valueBefore =>
    match c with
    | none => fail
    | some d =>
      if d = '<' || d = '=' || d = '>' || d = '\x60' then fail
      else if blank then past .valueBefore
      else if d = '"' || d = '\'' then step; return some (.valueQuoted d)
      else step; return some .valuePlain
  | .valueQuoted q =>
    if c = none then fail
    else if c = some q then step; return some .valueAfter
    else past (.valueQuoted q)
  | .valuePlain =>
    match c with
    | none => fail
    | some d =>
      if d = '"' || d = '\'' || d = '<' || d = '=' || d = '\x60' then fail
      else if blank || d = '/' || d = '>' then return some .tag
      else step; return some .valuePlain
  | .valueAfter =>
    if blank || c = some '>' || c = some '/' then return some .tag else fail
  | .final =>
    require (c = some '>')
    consume
    exit .markupData
    exit .markup
    return none

/-- Passes the start of markup after `<!`. -/
def inlineDeclaration : Scan InlineAt := do
  match ← peek with
  | some '-' =>
    step
    require ((← peek) = some '-')
    step
    return .commentEnd
  | some '[' =>
    step
    literal Markup.characterDataStart.toList
    return .characterData
  | some c =>
    require c.isAlpha
    step
    return .declaration
  | none => fail

/-- Passes markup in running text. -/
def inlineMarkup : Scan Unit := do
  require ((← peek) = some '<')
  enter .markup
  enter .markupData
  step
  let first ← match ← peek with
    | some '!' => do step; inlineDeclaration
    | some '?' => do step; pure .instruction
    | some '/' => do
      step
      require (((← peek).map Char.isAlpha).getD false)
      passWhile Markup.isNameChar
      pure .closingTag
    | some c => do
      require c.isAlpha
      passWhile Markup.isNameChar
      match ← peek with
      | none => fail
      | some d =>
        require (d = '\n' || isSpace d || d = '/' || d = '>')
        pure .tag
    | none => fail
  walk inlineMarkupStep first

/-! ## Blocks of markup -/

/-- What started a block of markup. -/
inductive BlockKind where
  | raw
  | comment
  | instruction
  | declaration
  | characterData
  | basic
  | complete
  deriving DecidableEq

/-- Where in the tag that starts a block a scanner is, if the tag has to be complete. -/
inductive CompleteAt where
  | closing
  | tag
  | attributeName
  | attributeNameAfter
  | valueBefore
  | valueQuoted (quote : Char)
  | valuePlain
  | valueAfter
  | final
  | after

/-- Passes one character of a tag that has to be complete and alone on its line. -/
def completeTagStep (x : CompleteAt) : Scan (Option CompleteAt) := do
  let c ← peek
  let blank := (c.map isSpace).getD false
  match x with
  | .closing => if blank then step; return some .closing else return some .final
  | .tag =>
    match c with
    | some d =>
      if d = '/' then step; return some .final
      else if d.isAlphanum || d = ':' || d = '_' then step; return some .attributeName
      else if blank then step; return some .tag
      else return some .final
    | none => return some .final
  | .attributeName =>
    if (c.map Markup.isAttributeChar).getD false then step; return some .attributeName
    else return some .attributeNameAfter
  | .attributeNameAfter =>
    if c = some '=' then step; return some .valueBefore
    else if blank then step; return some .attributeNameAfter
    else return some .tag
  | .valueBefore =>
    match c with
    | none => fail
    | some d =>
      if d = '<' || d = '=' || d = '>' || d = '\x60' then fail
      else if d = '"' || d = '\'' then step; return some (.valueQuoted d)
      else if blank then step; return some .valueBefore
      else return some .valuePlain
  | .valueQuoted q =>
    if c = none || c = some '\n' then fail
    else
      step
      return some (if c = some q then .valueAfter else .valueQuoted q)
  | .valuePlain =>
    match c with
    | none => return some .attributeNameAfter
    | some d =>
      if isGap d || "\"'/<=>\x60".toList.contains d then return some .attributeNameAfter
      else step; return some .valuePlain
  | .valueAfter =>
    if c = some '/' || c = some '>' || blank then return some .tag else fail
  | .final =>
    require (c = some '>')
    step
    return some .after
  | .after =>
    if c = none || c = some '\n' then return none
    else
      require blank
      step
      return some .after

/-- Passes what starts a block after the name of a tag. -/
def blockTag (closing : Bool) (name : Text) : Scan BlockKind := do
  let slash := (← peek) = some '/'
  if !slash && !closing && Markup.listed Markup.rawNames name then return .raw
  else if Markup.listed Markup.blockNames name then
    if slash then
      step
      require ((← peek) = some '>')
      step
    return .basic
  else
    require !(← asks fun s => s.interrupt && !s.lazy)
    walk completeTagStep (if closing then .closing else .tag)
    return .complete

/-- Passes the name of a tag and what starts a block after it. That the tag is a closing one is
noted in the state, from where it is taken back. -/
def blockTagNamed : Scan BlockKind := do
  let start ← asks fun s => s.place.index
  passWhile Markup.isNameChar
  let (name, closing) ← asks fun s => (Slice.between s.source start s.place.index, s.seen)
  modify fun s => { s with seen := false }
  match ← peek with
  | none => pure ()
  | some c => require (c = '\n' || isSpace c || c = '/' || c = '>')
  blockTag closing name

/-- Passes the start of a block after `<!`; tells whether the block may end right after it. -/
def blockDeclaration : Scan (BlockKind × Bool) := do
  match ← peek with
  | some '-' =>
    step
    require ((← peek) = some '-')
    step
    return (.comment, true)
  | some '[' =>
    step
    literal Markup.characterDataStart.toList
    return (.characterData, false)
  | some c =>
    require c.isAlpha
    step
    return (.declaration, true)
  | none => fail

/-- Passes the start of a block; tells whether the block may end right after it. -/
def blockStart : Scan (BlockKind × Bool) := do
  match ← peek with
  | some '!' =>
    step
    blockDeclaration
  | some '/' =>
    step
    let named := ((← peek).map Char.isAlpha).getD false
    modify fun s => { s with seen := named }
    require named
    return (← blockTagNamed, false)
  | some '?' =>
    step
    return (.instruction, true)
  | some c =>
    require c.isAlpha
    return (← blockTagNamed, false)
  | none => fail

/-- Where in a block of markup a scanner is. -/
inductive BlockAt where
  | lineStart
  | inside
  | afterDash
  | afterBracket
  | mayEnd
  | afterLess
  | rawEnd (start : Nat)
  | ended

/-- Passes the end of a line and fails if the next one is not blank. -/
def blankNext : Scan Unit := do
  lineEnd
  blankLine

/-- Passes the end of a line within a block, unless the block ends with it. -/
def blockMarkupLine : Scan (Option BlockAt) := do
  if ← check ownLine then
    lineEnd
    return some .lineStart
  else return none

/-- Passes one character of a block of markup. -/
def blockMarkupStep (kind : BlockKind) (x : BlockAt) : Scan (Option BlockAt) := do
  let c ← peek
  match x with
  | .lineStart =>
    if c = none || c = some '\n' then blockMarkupLine
    else
      enter .markupBlockData
      return some .inside
  | .inside =>
    if c = none || c = some '\n' then
      exit .markupBlockData
      if c = some '\n' && (kind = .basic || kind = .complete) && (← check blankNext) then return none
      else blockMarkupLine
    else if kind = .comment && c = some '-' then step; return some .afterDash
    else if kind = .raw && c = some '<' then step; return some .afterLess
    else if kind = .declaration && c = some '>' then step; return some .ended
    else if kind = .instruction && c = some '?' then step; return some .mayEnd
    else if kind = .characterData && c = some ']' then step; return some .afterBracket
    else step; return some .inside
  | .afterDash => if c = some '-' then step; return some .mayEnd else return some .inside
  | .afterBracket => if c = some ']' then step; return some .mayEnd else return some .inside
  | .mayEnd =>
    if c = some '>' then step; return some .ended
    else if c = some '-' && kind = .comment then step; return some .mayEnd
    else return some .inside
  | .afterLess =>
    if c = some '/' then
      step
      return some (.rawEnd (← asks fun s => s.place.index))
    else return some .inside
  | .rawEnd start =>
    let name ← asks fun s => Slice.between s.source start s.place.index
    if c = some '>' && Markup.listed Markup.rawNames name then step; return some .ended
    else if (c.map Char.isAlpha).getD false && name.length < Markup.rawNameSize then
      step
      return some (.rawEnd start)
    else return some .inside
  | .ended =>
    if c = none || c = some '\n' then
      exit .markupBlockData
      return none
    else step; return some .ended

/-- Passes a block of markup. -/
def blockMarkup : Scan Unit := do
  enter .markupBlock
  blanksAs .markupBlockData 0 (tabSize - 1)
  require ((← peek) = some '<')
  enter .markupBlockData
  step
  let (kind, mayEnd) ← blockStart
  modify fun s => { s with concrete := true }
  walk (blockMarkupStep kind) (if mayEnd then .mayEnd else .inside)
  exit .markupBlock
  modify fun s => { s with interrupt := false, concrete := false }

end Scan

end Marginalia.Markdown
