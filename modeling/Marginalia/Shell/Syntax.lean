import Marginalia.Text.Basic

/-!
# Shell scripts

What a script is made of. A word is a list of segments, which keep apart what was quoted and what
was not, since only the latter is split and matched against names of files. Commands are simple
ones with their words and redirections, or are made of others.
-/

namespace Marginalia.Shell

/-- What is done with the value of a parameter. Where a flag is `true`, an empty value counts as
none. -/
inductive Use where
  | plain
  | length
  /-- Another word in place of no value. -/
  | orElse (emptyToo : Bool)
  | orAssign (emptyToo : Bool)
  | orFail (emptyToo : Bool)
  /-- Another word in place of a value. -/
  | ifSet (emptyToo : Bool)
  /-- Without the shortest or longest start that a pattern fits. -/
  | dropStart (longest : Bool)
  | dropEnd (longest : Bool)
  deriving DecidableEq

/-- What a redirection does with its descriptor. -/
inductive Target where
  | read
  | write
  | append
  | readWrite
  /-- Makes it a copy of another descriptor, or closes it. -/
  | copy
  /-- Lets it read a text. -/
  | here
  /-- Writes to a file what goes to both outputs. -/
  | writeBoth
  deriving DecidableEq

mutual

/-- A part of a word. -/
inductive Segment where
  | text (t : Text) (quoted : Bool)
  /-- The value of a variable or a special parameter, with the word that its use names. -/
  | value (name : Text) (use : Use) (word : List Segment) (quoted : Bool)
  /-- The output of commands. -/
  | output (body : List Command) (quoted : Bool)
  /-- The value of an arithmetic expression. -/
  | sum (expression : List Segment) (quoted : Bool)
  /-- A substitution that makes no sense. -/
  | senseless

/-- A redirection of a descriptor, with its word. -/
inductive Redirect where
  | mk (descriptor : Nat) (target : Target) (word : List Segment)

/-- A command. -/
inductive Command where
  /-- Settings of variables, words and redirections, with the line on which they begin. -/
  | simple (settings : List (Text × List Segment)) (words : List (List Segment))
      (redirects : List Redirect) (line : Nat)
  | pipe (commands : List Command)
  /-- A command whose success counts as a failure and the other way round. -/
  | invert (c : Command)
  | both (left right : Command)
  | either (left right : Command)
  /-- A command for whose end nobody waits. -/
  | aside (c : Command)
  | each (name : Text) (items : List (List Segment)) (body : List Command) (line : Nat)
  | choose (subject : List Segment) (arms : List (List (List Segment) × List Command))
      (line : Nat)
  | branch (test body other : List Command)
  /-- Runs its body as long as the test succeeds, or fails if `negated` is set. -/
  | loop (negated : Bool) (test body : List Command)
  | block (body : List Command)
  /-- Commands that run in a shell of their own. -/
  | apart (body : List Command)
  | redirected (c : Command) (redirects : List Redirect) (line : Nat)
  /-- Gives a name to a command. -/
  | define (name : Text) (body : Command)

end

/-- A word is the list of its parts. -/
abbrev Word := List Segment

instance : Inhabited Segment := ⟨.senseless⟩

instance : Inhabited Command := ⟨.block []⟩

/-- The descriptor of a redirection. -/
def Redirect.descriptor : Redirect → Nat
  | .mk d _ _ => d

/-- Characters of the names of variables. -/
def isNameChar (c : Char) : Bool := c.isAlphanum || c = '_'

/-- Whether a text can be the name of a variable. -/
def isName (t : Text) : Bool :=
  match t with
  | [] => false
  | c :: _ => !c.isDigit && t.all isNameChar

/-- The name of a special parameter. -/
def isSpecial (c : Char) : Bool := "@*#?$!-".toList.contains c || c.isDigit

/-- Joins plain parts that stand side by side. -/
def joined (w : Word) : Word :=
  w.foldr (fun s more =>
    match s, more with
    | .text a p, .text b q :: rest => if p = q then .text (a ++ b) p :: rest else s :: more
    | s, more => s :: more) []

/-- The text of a word that is neither quoted nor made by a value. -/
def bare? : Word → Option Text
  | [] => some []
  | [.text t false] => some t
  | _ => none

/-- The name and the value of a word that sets a variable. -/
def setting? : Word → Option (Text × Word)
  | .text t false :: more =>
    let name := t.takeWhile isNameChar
    match t.drop name.length with
    | '=' :: rest =>
      if isName name then some (name, if rest = [] then more else .text rest false :: more)
      else none
    | _ => none
  | _ => none

end Marginalia.Shell
