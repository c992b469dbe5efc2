import Marginalia.Shell.Syntax

/-!
# Reading scripts

A script is read one complete command at a time, so that what stands before a mistake runs before
the mistake is noticed. Tokens are read when they are asked for, since it depends on the place
whether a word is a keyword and whether a line feed counts. A token that was looked at too early is
put back.
-/

namespace Marginalia.Shell

/-- What is wrong with a script, and on which line. -/
structure SyntaxError where
  line : Nat
  problem : Text

/-- A word or a sign. -/
inductive Token where
  | word (w : Word)
  | sign (t : String)
  | keyword (t : String)
  | redirect (descriptor : Nat) (target : Target)
  | finish

/-- A script while it is read. -/
structure Source where
  rest : Text
  line : Nat
  /-- The number of lines that were taken out after the current one. -/
  taken : Nat
  /-- A token that was put back. -/
  pushed : Option Token
  /-- Whether the larger set of redirections is understood. -/
  extended : Bool

/-- A reader of a part of a script. -/
abbrev Read := StateT Source (Except SyntaxError)

/-- Ends the reading. -/
def fail {α : Type} (problem : String) : Read α := do
  throw ⟨(← get).line, "Syntax error: ".toList ++ problem.toList⟩

/-! ## Characters -/

/-- The next character. -/
def peek : Read (Option Char) := return (← get).rest.head?

/-- Passes one character. -/
def skip : Read Unit :=
  modify fun s =>
    match s.rest with
    | [] => s
    | '\n' :: t => { s with rest := t, line := s.line + 1 + s.taken, taken := 0 }
    | _ :: t => { s with rest := t }

/-- Whether a text comes next. -/
def ahead (t : String) : Read Bool := return (Text.after? t.toList (← get).rest).isSome

/-- Passes characters while a condition holds, and gives them back. -/
def takeWhile (p : Char → Bool) : Read Text := do
  let t := (← get).rest.takeWhile p
  modify fun s =>
    { s with rest := s.rest.drop t.length, line := s.line + t.count '\n' }
  return t

/-- Passes a number of characters. -/
def skipMany : Nat → Read Unit
  | 0 => return ()
  | n + 1 => do
    skip
    skipMany n

/-- Reads from another text, and goes on afterwards where the reading was. -/
def within {α : Type} (t : Text) (r : Read α) : Read α := do
  let outer ← get
  set { outer with rest := t, pushed := none, taken := 0 }
  let a ← r
  set outer
  return a

/-! ## Tokens -/

/-- Words that mean something at the start of a command. -/
def keywords : List String :=
  ["!", "case", "do", "done", "elif", "else", "esac", "fi", "for", "if", "in", "then", "until",
   "while", "\x7b", "\x7d"]

/-- Tokens that end a list of commands. -/
def Token.endsList : Token → Bool
  | .finish => true
  | .sign t => [")", ";;"].contains t
  | .keyword t =>
    ["do", "done", "elif", "else", "esac", "fi", "then", "\x7d"].contains t
  | _ => false

/-- A token in messages. -/
def Token.shown : Token → String
  | .word _ => "word"
  | .sign "\n" => "newline"
  | .sign t | .keyword t => "\"" ++ t ++ "\""
  | .redirect _ _ => "redirection"
  | .finish => "end of file"

/-- Whether a token is a sign. -/
def Token.isSign (s : String) : Token → Bool
  | .sign t => t = s
  | _ => false

/-- Whether a token is a keyword. -/
def Token.isKeyword (s : String) : Token → Bool
  | .keyword t => t = s
  | _ => false

/-- The token with a keyword in place of a word that is one. -/
def Token.asKeyword (t : Token) : Token :=
  match t with
  | .word [.text w false] =>
    let w := String.ofList w
    if keywords.contains w then .keyword w else t
  | t => t

/-- Refuses a token, where another one may have been wanted. -/
def unexpected {α : Type} (t : Token) (wanted : Option String) : Read α :=
  fail (t.shown ++ " unexpected" ++
    match wanted with
    | some w => " (expecting \"" ++ w ++ "\")"
    | none => "")

/-- Puts a token back. -/
def push (t : Token) : Read Unit := modify fun s => { s with pushed := some t }

/-- Passes blanks, remarks and line feeds after a backslash. -/
def skipGaps : Nat → Read Unit
  | 0 => return ()
  | fuel + 1 => do
    match (← get).rest with
    | '\\' :: '\n' :: _ =>
      skipMany 2
      skipGaps fuel
    | '#' :: _ =>
      let _ ← takeWhile (· ≠ '\n')
    | c :: _ =>
      if c = ' ' || c = '\t' then
        skip
        skipGaps fuel
    | [] => return ()

/-- The signs that divide commands, the longer ones first. -/
def signs : List String := ["\n", "&&", "&", "||", "|", ";;", ";", "(", ")"]

/-- The signs of redirections, with the descriptor that they concern, the longer ones first. -/
def arrows : List (String × Nat × Target) :=
  [("<<-", 0, .here), ("<<", 0, .here), ("<&", 0, .copy), ("<>", 0, .readWrite), ("<", 0, .read),
   (">>", 1, .append), (">&", 1, .copy), (">|", 1, .write), (">", 1, .write)]

/-- The redirection that comes next, if there is one. A digit in front names the descriptor. -/
def arrow? : Read (Option Token) := do
  let t := (← get).rest
  let (digit, t) := match t with
    | c :: more => if c.isDigit then (some (c.toNat - 48), more) else (none, t)
    | [] => (none, [])
  match arrows.find? fun a => (Text.after? a.1.toList t).isSome with
  | none => return none
  | some (sign, usual, target) =>
    skipMany (sign.length + (if digit.isSome then 1 else 0) - (if sign = "<<-" then 1 else 0))
    return some (.redirect (digit.getD usual) target)

/-- Characters that end a word where they are not quoted. -/
def endsWord (c : Char) : Bool := " \t\n;|&<>()".toList.contains c

/-- The text up to the back quote that closes a substitution. -/
def backQuoted (quoted : Bool) : Text → Option (Text × Text)
  | [] => none
  | '\\' :: c :: t =>
    (backQuoted quoted t).map fun (a, rest) =>
      (if c = '\x60' || c = '\\' || c = '$' || (quoted && c = '"') then (c :: a, rest)
        else ('\\' :: c :: a, rest))
  | c :: t =>
    if c = '\x60' then some ([], t)
    else (backQuoted quoted t).map fun (a, rest) => (c :: a, rest)

/-- The lines before the one that is `stop`, and those after it. -/
def linesUntil (stop : Text) : List Text → List Text × List Text
  | [] => ([], [])
  | l :: ls =>
    if l = stop then ([], ls)
    else
      let (before, after) := linesUntil stop ls
      (l :: before, after)

/-- Takes out the lines after the current one up to the one that is `stop`. -/
def takeLines (stop : Text) (indented : Bool) : Read Text :=
  modifyGet fun s =>
    let line := s.rest.takeWhile (· ≠ '\n')
    let below := (s.rest.drop (line.length + 1)).splitOn '\n'
    let lines := if indented then below.map (·.dropWhile (· = '\t')) else below
    let (body, after) := linesUntil stop lines
    let after := below.drop (below.length - after.length)
    let count := below.length - after.length
    let ended := body.length < lines.length
    let text := if ended then body.flatMap (· ++ ['\n']) else ['\n'].intercalate body
    (text, { s with
      rest := line ++ '\n' :: ['\n'].intercalate after
      taken := s.taken + count })

/-- The surroundings of the parts of a word. -/
inductive Mode where
  /-- Up to a character that ends words. -/
  | word
  /-- Up to a double quote. -/
  | quoted
  /-- All of a text that is given on lines of its own. -/
  | lines
  /-- Up to a closing brace. -/
  | brace (quoted : Bool)
  /-- Up to two closing parentheses, with the number of those that have to be closed before. -/
  | sum (depth : Nat)
  deriving DecidableEq

/-- Whether the parts count as quoted. -/
def Mode.isQuoted : Mode → Bool
  | .word | .brace false => false
  | _ => true

/-- The characters that a backslash keeps from their meaning among quoted parts. -/
def Mode.escapable (m : Mode) (c : Char) : Bool :=
  c = '$' || c = '\x60' || c = '\\' ||
    match m with
    | .quoted => c = '"'
    | .brace _ => c = '"' || c = '\x7d'
    | _ => false

/-- What the end of the script means for the parts of a word. -/
def Mode.atFinish (m : Mode) : Read Word :=
  match m with
  | .word | .lines => return []
  | .quoted => fail "Unterminated quoted string"
  | .brace _ => fail "Missing '\x7d'"
  | .sum _ => fail "Missing '))'"

/-- Commands that keep their settings of variables and whose names are no names of commands. -/
def specials : List String :=
  [".", ":", "break", "continue", "eval", "exec", "exit", "export", "readonly", "return", "set",
   "shift", "times", "trap", "unset"]

/-- Reads the name of a parameter in braces. -/
def parameterName : Read Text := do
  match (← get).rest with
  | c :: _ =>
    if c.isDigit then takeWhile Char.isDigit
    else if isNameChar c then takeWhile isNameChar
    else if isSpecial c then
      skip
      return [c]
    else return []
  | [] => return []

mutual

/-- Reads the parts of a word up to its end. -/
def parts (mode : Mode) : Nat → Read Word
  | 0 => return []
  | fuel + 1 => do
    match ← peek with
    | none => mode.atFinish
    | some c =>
      let plain (c : Char) : Read Word := do
        skip
        return .text [c] mode.isQuoted :: (← parts mode fuel)
      match c, mode with
      | '"', .quoted | '\x7d', .brace _ =>
        skip
        return []
      | ')', .sum depth =>
        if depth = 0 then
          if ← ahead "))" then
            skipMany 2
            return []
          else fail "Missing '))'"
        else
          skip
          return .text [c] true :: (← parts (.sum (depth - 1)) fuel)
      | '(', .sum depth =>
        skip
        return .text [c] true :: (← parts (.sum (depth + 1)) fuel)
      | '\\', _ =>
        skip
        match ← peek with
        | none => return .text ['\\'] true :: (← parts mode fuel)
        | some '\n' =>
          skip
          parts mode fuel
        | some d =>
          skip
          let t := if !mode.isQuoted || mode.escapable d then [d] else ['\\', d]
          return .text t true :: (← parts mode fuel)
      | '\'', _ =>
        if mode.isQuoted then plain c
        else
          skip
          let t ← takeWhile (· ≠ '\'')
          if (← peek) = none then fail "Unterminated quoted string"
          skip
          return .text t true :: (← parts mode fuel)
      | '"', .lines | '"', .sum _ => plain c
      | '"', .brace true =>
        skip
        parts mode fuel
      | '"', _ =>
        skip
        let inner ← parts .quoted fuel
        return .text [] true :: inner ++ (← parts mode fuel)
      | '$', _ =>
        skip
        let s ← dollar mode.isQuoted fuel
        return s :: (← parts mode fuel)
      | '\x60', _ =>
        skip
        match backQuoted mode.isQuoted (← get).rest with
        | none =>
          let _ ← takeWhile fun _ => true
          fail "EOF in backquote substitution"
        | some (script, rest) =>
          let body ← within script (list false true fuel)
          skipMany ((← get).rest.length - rest.length)
          return .output body mode.isQuoted :: (← parts mode fuel)
      | c, _ => if mode = .word && endsWord c then return [] else plain c
termination_by structural n => n

/-- Reads the segment after a dollar sign. -/
def dollar (quoted : Bool) : Nat → Read Segment
  | 0 => return .senseless
  | fuel + 1 => do
    match (← get).rest with
    | '(' :: '(' :: _ =>
      skipMany 2
      return .sum (joined (← parts (.sum 0) fuel)) quoted
    | '(' :: _ =>
      skip
      let body ← list false true fuel
      let t ← token false false fuel
      if !t.isSign ")" then unexpected t (some ")")
      return .output body quoted
    | '\x7b' :: _ =>
      skip
      braced quoted fuel
    | c :: _ =>
      if isSpecial c then
        skip
        return .value [c] .plain [] quoted
      else if isNameChar c then return .value (← takeWhile isNameChar) .plain [] quoted
      else return .text ['$'] quoted
    | [] => return .text ['$'] quoted
termination_by structural n => n

/-- Reads a parameter in braces. -/
def braced (quoted : Bool) : Nat → Read Segment
  | 0 => return .senseless
  | fuel + 1 => do
    let measured (t : Text) : Bool := match t with
      | '#' :: '\x7d' :: _ => false
      | '#' :: c :: d :: _ => isNameChar c || (isSpecial c && d = '\x7d')
      | _ => false
    if measured (← get).rest then
      skip
      let name ← parameterName
      if (← peek) = some '\x7d' then
        skip
        return .value name .length [] quoted
      else
        let _ ← parts (.brace quoted) fuel
        return .senseless
    else
      let name ← parameterName
      if name = [] then
        let _ ← parts (.brace quoted) fuel
        return .senseless
      let colon := (← peek) = some ':'
      if colon then skip
      let use : Option Use ← match ← peek with
        | some '-' => pure (some (.orElse colon))
        | some '=' => pure (some (.orAssign colon))
        | some '?' => pure (some (.orFail colon))
        | some '+' => pure (some (.ifSet colon))
        | some '%' => do
          let longest ← ahead "%%"
          pure (if colon then none else some (.dropEnd longest))
        | some '#' => do
          let longest ← ahead "##"
          pure (if colon then none else some (.dropStart longest))
        | some '\x7d' => pure (if colon then none else some .plain)
        | _ => pure none
      match use with
      | none =>
        let _ ← parts (.brace quoted) fuel
        return .senseless
      | some .plain =>
        skip
        return .value name .plain [] quoted
      | some use =>
        skip
        let trims := match use with
          | .dropStart _ | .dropEnd _ => true
          | _ => false
        if use = .dropStart true || use = .dropEnd true then skip
        return .value name use (joined (← parts (.brace (quoted && !trims)) fuel)) quoted
termination_by structural n => n

/-- Reads a token. Line feeds may not count, and words may be keywords. -/
def token (newlines keys : Bool) : Nat → Read Token
  | 0 => return .finish
  | fuel + 1 => do
    let t ← rawToken fuel
    if newlines && t.isSign "\n" then token newlines keys fuel
    else return if keys then t.asKeyword else t
termination_by structural n => n

/-- Reads the next token as it stands. -/
def rawToken : Nat → Read Token
  | 0 => return .finish
  | fuel + 1 => do
    match (← get).pushed with
    | some t =>
      modify fun s => { s with pushed := none }
      return t
    | none =>
      skipGaps fuel
      if (← peek) = none then return .finish
      if (← get).extended && (← ahead "&>") then
        skipMany 2
        return .redirect 1 .writeBoth
      let rest := (← get).rest
      match signs.find? fun s => (Text.after? s.toList rest).isSome with
      | some s =>
        skipMany s.length
        return .sign s
      | none =>
        match ← arrow? with
        | some t => return t
        | none => return .word (joined (← parts .word fuel))
termination_by structural n => n

/-- Reads commands up to a token that ends their list. At the top, a line feed ends them. -/
def list (top mayEnd : Bool) : Nat → Read (List Command)
  | 0 => return []
  | fuel + 1 => do
    let t ← token (!top) true fuel
    match t with
    | .sign "\n" => return []
    | .finish =>
      push t
      return []
    | t =>
      push t
      if mayEnd && !top && t.endsList then return []
      let c ← joinedBy fuel
      let t ← token false false fuel
      match t with
      | .sign "&" => return .aside c :: (← list top true fuel)
      | .sign ";" => return c :: (← list top true fuel)
      | .sign "\n" | .finish =>
        push t
        return c :: (← list top true fuel)
      | t =>
        if top then unexpected t none
        push t
        return [c]
termination_by structural n => n

/-- Reads commands that are joined by their success or failure. -/
def joinedBy : Nat → Read Command
  | 0 => return .block []
  | fuel + 1 => do joinedTo (← pipeline false fuel) fuel
termination_by structural n => n

/-- Reads what is joined to a command. -/
def joinedTo (left : Command) : Nat → Read Command
  | 0 => return left
  | fuel + 1 => do
    let t ← token false false fuel
    match t with
    | .sign "&&" => joinedTo (.both left (← pipeline true fuel)) fuel
    | .sign "||" => joinedTo (.either left (← pipeline true fuel)) fuel
    | t =>
      push t
      return left
termination_by structural n => n

/-- Reads a pipeline. -/
def pipeline (newlines : Bool) : Nat → Read Command
  | 0 => return .block []
  | fuel + 1 => do
    let t ← token newlines true fuel
    let negated := t.isKeyword "!"
    if !negated then push t
    let first ← command false fuel
    let more ← piped fuel
    let c : Command := if more.isEmpty then first else .pipe (first :: more)
    return if negated then .invert c else c
termination_by structural n => n

/-- Reads the commands after the first one of a pipeline. -/
def piped : Nat → Read (List Command)
  | 0 => return []
  | fuel + 1 => do
    let t ← token false false fuel
    if t.isSign "|" then
      let c ← command true fuel
      return c :: (← piped fuel)
    else
      push t
      return []
termination_by structural n => n

/-- Reads a keyword that has to come next. -/
def expect (keyword : String) (newlines : Bool) : Nat → Read Unit
  | 0 => return ()
  | fuel + 1 => do
    let t ← token newlines true fuel
    if !t.isKeyword keyword then unexpected t (some keyword)
termination_by structural n => n

/-- Reads a command. -/
def command (newlines : Bool) : Nat → Read Command
  | 0 => return .block []
  | fuel + 1 => do
    let t ← token newlines true fuel
    let line := (← get).line
    match t with
    | .keyword "if" => withRedirects (← branches fuel) line fuel
    | .keyword "while" | .keyword "until" =>
      let test ← list false false fuel
      expect "do" false fuel
      let body ← list false false fuel
      expect "done" false fuel
      withRedirects (.loop (t.isKeyword "until") test body) line fuel
    | .keyword "for" =>
      let c ← forLoop line fuel
      withRedirects c line fuel
    | .keyword "case" =>
      let t ← token false false fuel
      match t with
      | .word subject =>
        let t ← token true true fuel
        if !t.isKeyword "in" then unexpected t (some "in")
        withRedirects (.choose subject (← caseArms fuel) line) line fuel
      | t => fail (t.shown ++ " unexpected (expecting word)")
    | .keyword "\x7b" =>
      let body ← list false false fuel
      expect "\x7d" false fuel
      withRedirects (.block body) line fuel
    | .sign "(" =>
      let body ← list false false fuel
      let t ← token false true fuel
      if !t.isSign ")" then unexpected t (some ")")
      withRedirects (.apart body) line fuel
    | .word _ | .redirect _ _ =>
      push t
      simple line [] [] [] fuel
    | t => unexpected t none
termination_by structural n => n

/-- Reads a condition after its first keyword. -/
def branches : Nat → Read Command
  | 0 => return .block []
  | fuel + 1 => do
    let test ← list false false fuel
    expect "then" false fuel
    let body ← list false false fuel
    let t ← token false true fuel
    match t with
    | .keyword "elif" => return .branch test body [← branches fuel]
    | .keyword "else" =>
      let other ← list false false fuel
      expect "fi" false fuel
      return .branch test body other
    | .keyword "fi" => return .branch test body []
    | t => unexpected t (some "fi")
termination_by structural n => n

/-- Reads a loop over values after its first keyword. -/
def forLoop (line : Nat) : Nat → Read Command
  | 0 => return .block []
  | fuel + 1 => do
    let t ← token false false fuel
    let name := match t with
      | .word w => (bare? w).getD []
      | _ => []
    if !isName name then fail "Bad for loop variable"
    let t ← token true true fuel
    let items ← if t.isKeyword "in" then
        let items ← wordsAhead fuel
        let t ← token false false fuel
        if !(t.isSign "\n" || t.isSign ";") then unexpected t none
        pure items
      else
        if !t.isSign ";" then push t
        pure [[.value ['@'] .plain [] true]]
    let t ← token true true fuel
    if !t.isKeyword "do" then unexpected t (some "do")
    let body ← list false false fuel
    expect "done" false fuel
    return .each name items body line
termination_by structural n => n

/-- Reads words up to another token. -/
def wordsAhead : Nat → Read (List Word)
  | 0 => return []
  | fuel + 1 => do
    let t ← token false false fuel
    match t with
    | .word w => return w :: (← wordsAhead fuel)
    | t =>
      push t
      return []
termination_by structural n => n

/-- Reads the arms of a choice. -/
def caseArms : Nat → Read (List (List Word × List Command))
  | 0 => return []
  | fuel + 1 => do
    let t ← token true true fuel
    if t.isKeyword "esac" then return []
    if !t.isSign "(" then push t
    let patterns ← casePatterns fuel
    let body ← list false true fuel
    let t ← token true true fuel
    match t with
    | .keyword "esac" => return [(patterns, body)]
    | .sign ";;" => return (patterns, body) :: (← caseArms fuel)
    | t => unexpected t (some ";;")
termination_by structural n => n

/-- Reads the patterns of an arm. -/
def casePatterns : Nat → Read (List Word)
  | 0 => return []
  | fuel + 1 => do
    let t ← token false false fuel
    let w : Word := match t with
      | .word w => w
      | .keyword k => [.text k.toList false]
      | _ => []
    let t ← if t.endsList then pure t else token false false fuel
    match t with
    | .sign "|" => return w :: (← casePatterns fuel)
    | .sign ")" => return [w]
    | t => unexpected t (some ")")
termination_by structural n => n

/-- Reads the redirections after a command that is made of others. -/
def withRedirects (c : Command) (line : Nat) : Nat → Read Command
  | 0 => return c
  | fuel + 1 => do
    let rs ← redirects fuel
    return if rs.isEmpty then c else .redirected c rs line
termination_by structural n => n

/-- Reads redirections. -/
def redirects : Nat → Read (List Redirect)
  | 0 => return []
  | fuel + 1 => do
    let t ← token false true fuel
    match t with
    | .redirect d target =>
      let r ← redirectTo d target fuel
      return r :: (← redirects fuel)
    | t =>
      push t
      return []
termination_by structural n => n

/-- Reads what a redirection leads to. -/
def redirectTo (d : Nat) (target : Target) : Nat → Read Redirect
  | 0 => return .mk d target []
  | fuel + 1 => do
    let indented := target = .here && (← peek) = some '-'
    let isText := target = .here && (← get).extended && (← peek) = some '<'
    if indented || isText then skip
    let t ← token false false fuel
    match t with
    | .word w =>
      if target ≠ .here then return .mk d target w
      else if isText then return .mk d target (w ++ [.text ['\n'] true])
      else
        let stop := w.flatMap fun
          | .text t _ => t
          | _ => []
        let quoted := w.any fun
          | .text _ quoted => quoted
          | _ => false
        let text ← takeLines stop indented
        if quoted then return .mk d target [.text text true]
        else return .mk d target (joined (← within text (parts .lines fuel)))
    | t => unexpected t none
termination_by structural n => n

/-- Reads a simple command: what was read of it comes last first. -/
def simple (line : Nat) (settings : List (Text × Word)) (words : List Word)
    (rs : List Redirect) : Nat → Read Command
  | 0 => return .simple settings.reverse words.reverse rs.reverse line
  | fuel + 1 => do
    let t ← token false false fuel
    match t with
    | .word w =>
      match words, setting? w with
      | [], some s => simple line (s :: settings) words rs fuel
      | _, _ => simple line settings (w :: words) rs fuel
    | .redirect d target =>
      let r ← redirectTo d target fuel
      simple line settings words (r :: rs) fuel
    | .sign "(" =>
      match words, settings, rs with
      | [w], [], [] =>
        let t ← token false false fuel
        if !t.isSign ")" then unexpected t (some ")")
        let name := (bare? w).getD []
        if !isName name || specials.contains (String.ofList name) then fail "Bad function name"
        return .define name (← command true fuel)
      | _, _, _ => unexpected t none
    | t =>
      push t
      return .simple settings.reverse words.reverse rs.reverse line
termination_by structural n => n

end

/-- A script before its first command. -/
def Source.start (extended : Bool) (line : Nat) (t : Text) : Source := ⟨t, line, 0, none, extended⟩

/-- Whether nothing is left of a script. -/
def Source.isEmpty (s : Source) : Bool := s.rest.isEmpty && s.pushed.isNone

/-- The next complete command of a script, and the rest. -/
def Source.next (s : Source) : Except SyntaxError (List Command × Source) :=
  let fuel := 4 * s.rest.length + 16
  match (list true false fuel).run s with
  | .error e => .error e
  | .ok (cs, s) => .ok (cs, { s with pushed := none })

end Marginalia.Shell
