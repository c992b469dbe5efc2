import Marginalia.Markdown.Scan

/-!
# Blocks of code

Code is set off by an indent of four columns, or it stands between two fences. A fence of
backquotes has none on the rest of its line, so that code within a line is not taken for one.
-/

namespace Marginalia.Markdown.Scan

/-! ## Indented code -/

/-- Passes the ends of lines and the indent of the next line of code. -/
def indentedFurther : Scan Unit :=
  walk (fun () => do
    require !(← asks fun s => s.lazy || s.pierce)
    if (← peek) = some '\n' then
      lineEnd
      return some ()
    else if ← attempt (blanks tabSize tabSize) then return none
    else
      require (← atBlank)
      gap
      require ((← peek) = some '\n')
      return some ()) ()

/-- Passes indented code. -/
def indentedCode : Scan Unit := do
  require (!(← asks State.interrupt) && (← atBlank))
  enter .codeIndented
  blanks tabSize tabSize
  walk (fun () => do
    match ← peek with
    | none => return none
    | some '\n' => if ← attempt indentedFurther then return some () else return none
    | some _ =>
      restOfLine .codeFlowChunk
      return some ()) ()
  exit .codeIndented
  modify fun s => { s with interrupt := false }

/-! ## Fenced code -/

/-- The fewest signs of a fence. -/
def fenceSize : Nat := 3

/-- Passes a note on a fence: one word, or all of the line. -/
def fenceNote (part : Part) (c : Char) (oneWord : Bool) : Scan Unit := do
  enter part
  enterRead .data .string true
  passWhile fun d => !(d = '\n' || (oneWord && isSpace d) || (d = c && c = '\x60'))
  require !((← peek) = some c && c = '\x60')
  exit .data
  exit part

/-- Passes the rest of the line of a fence. -/
def fenceNotes (c : Char) : Scan Unit := do
  optionalGap
  if !(← atEnd) then
    fenceNote .codeFencedFenceInfo c true
    optionalGap
    if !(← atEnd) then fenceNote .codeFencedFenceMeta c false

/-- Passes the end of a line and the fence that closes the code. -/
def closingFence (c : Char) (size : Nat) : Scan Unit := do
  lineEnd
  enter .codeFencedFence
  indent
  require ((← peek) = some c)
  enter .codeFencedFenceSequence
  let start ← asks fun s => s.place.index
  passWhile (· = c)
  require ((← asks fun s => s.place.index) ≥ start + size)
  exit .codeFencedFenceSequence
  optionalGap
  require (← atEnd)
  exit .codeFencedFence

/-- Passes fenced code. -/
def fencedCode : Scan Unit := do
  let width ← asks fun s => (s.source, s.place)
  indent
  let indented ← asks fun s => (Slice.ofPlaces width.1 width.2 s.place).size
  let c := (← peek).getD ' '
  require (c = '\x60' || c = '~')
  enter .codeFenced
  enter .codeFencedFence
  enter .codeFencedFenceSequence
  let start ← asks fun s => s.place.index
  passWhile (· = c)
  let size ← asks fun s => s.place.index - start
  require (size ≥ fenceSize)
  exit .codeFencedFenceSequence
  fenceNotes c
  exit .codeFencedFence
  modify fun s => { s with concrete := true }
  walk (fun () => do
    if !(← check ownLine) then return none
    else if ← attempt (closingFence c size) then return none
    else
      lineEnd
      blanks 0 indented
      if !(← atEnd) then restOfLine .codeFlowChunk
      return some ()) ()
  exit .codeFenced
  modify fun s => { s with interrupt := false, concrete := false }

end Marginalia.Markdown.Scan
