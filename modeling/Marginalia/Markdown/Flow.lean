import Marginalia.Markdown.Code
import Marginalia.Markdown.Heading
import Marginalia.Markdown.Markup
import Marginalia.Markdown.Table

/-!
# The lines of blocks

Inside of the containers a document is a sequence of lines. Each of them starts a block that is
tried in turn, and a line that starts none is a line of content, to be read as definitions and a
paragraph later. The first character of a line decides about most blocks, and those are not tried
where it cannot start them.
-/

namespace Marginalia.Markdown.Scan

/-- Passes a line of content. -/
def contentLine : Scan Unit := do
  enterRead .content .content true
  passWhile (· ≠ '\n')
  exit .content
  modify fun s => { s with interrupt := true }

/-- Passes the end of a line after a block. -/
def afterBlock : Scan Bool := do
  if (← peek) = some '\n' then
    lineEnd
    return true
  else return false

/-- Passes the end of a blank line. -/
def afterBlank : Scan Bool := do
  if (← peek) = some '\n' then
    lineEndAs .blankLineEnding
    modify fun s => { s with interrupt := false }
    next
    return true
  else return false

/-- Passes a block of one of some kinds, or else a line of content. -/
def oneOf : List (Scan Unit) → Scan Unit
  | [] => contentLine
  | x :: xs => orElse x (oneOf xs)

/-- Passes one block or blank line; tells whether another line follows. -/
def block : Scan Bool := do
  let c := (← peek).getD '\n'
  if c = '#' then oneOf [heading]; afterBlock
  else if c = '$' || c = '\x60' || c = '~' then oneOf [fencedCode]; afterBlock
  else if c = '*' || c = '_' then oneOf [thematicBreak]; afterBlock
  else if c = '<' then oneOf [blockMarkup]; afterBlock
  else if c = 'e' || c = 'i' || c = '\x7b' then contentLine; afterBlock
  else if ← attempt blankLine then afterBlank
  else
    oneOf [indentedCode, fencedCode, blockMarkup, heading, underlineLine, thematicBreak, tableLine]
    afterBlock

/-- Passes blocks up to the end. -/
def flow : Scan Unit :=
  walk (fun () => do if ← block then return some () else return none) ()

end Marginalia.Markdown.Scan
