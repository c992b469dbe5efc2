import Marginalia.Text.Basic

/-!
# Languages

A language is known by the name its lexer goes by, the symbol that starts a comment and the style
of its documentation comments. The symbol fixes which lines are comments, what is left of one, and
the divider that keeps sections apart while a whole file is highlighted at once.
-/

namespace Marginalia

/-- How a language documents code: with marked lines or with `/* … */` blocks. -/
inductive CommentStyle where
  | line
  | block
  deriving DecidableEq, Repr

/-- What is known of a language. -/
structure Language where
  name : Text
  symbol : Text
  style : CommentStyle
  deriving DecidableEq

namespace Language

/-! ## Comment lines -/

/-- What follows `symbol` in `line`, where only blanks precede it. Of several such places the one
after the most blanks counts. -/
def afterSymbol? (symbol : Text) : Text → Option Text
  | [] => Text.after? symbol []
  | c :: line =>
    if isBlank c then (afterSymbol? symbol line).or (Text.after? symbol (c :: line))
    else Text.after? symbol (c :: line)

/-- Whether `line` starts with the comment symbol, blanks aside. -/
def marks (lang : Language) (line : Text) : Bool := (afterSymbol? lang.symbol line).isSome

/-- Lines that look like comments and are none: an interpreter line and an interpolation. -/
def isSpared (line : Text) : Bool :=
  ['#', '!', '/'].isPrefixOf line || ['#', '\x7b'].isPrefixOf (line.dropWhile isBlank)

/-- Whether `line` is a documentation comment. -/
def isComment (lang : Language) (line : Text) : Bool := lang.marks line && !isSpared line

/-- `t` without one blank at its front. -/
def dropBlank : Text → Text
  | [] => []
  | c :: t => if isBlank c then t else c :: t

/-- `line` without its comment symbol, the blanks before it and one blank after it. -/
def strip (lang : Language) (line : Text) : Text :=
  match afterSymbol? lang.symbol line with
  | some rest => dropBlank rest
  | none => line

/-! ## The divider -/

/-- The comment that is put between sections. -/
def mark (lang : Language) : Text := lang.symbol ++ "DIVIDER".toList

/-- The divider between two sections: its mark on a line of its own. -/
def divider (lang : Language) : Text := '\n' :: lang.mark ++ ['\n']

/-! ## Patterns

The same rules as regular expressions, for display. -/

/-- Characters that have a meaning in a pattern. -/
def isMeta (c : Char) : Bool := "\\.+*?()|[]\x7b\x7d^$#&-~".toList.contains c

/-- A pattern that matches `t` only. -/
def literalPattern (t : Text) : Text := t.flatMap fun c => if isMeta c then ['\\', c] else [c]

/-- The pattern of a line that starts with the comment symbol. -/
def commentPattern (lang : Language) : Text :=
  "^\\s*".toList ++ literalPattern lang.symbol ++ "\\s?".toList

/-- The pattern of lines that look like comments and are none. -/
def sparedPattern : Text := "(^#![/]|^\\s*#\\\x7b)".toList

/-- The pattern of a divider in highlighted code. -/
def dividerPattern (lang : Language) : Text :=
  "\\n*<span class=\"c1?\">".toList ++ literalPattern lang.symbol ++ "DIVIDER</span>\\n*".toList

end Language

end Marginalia
