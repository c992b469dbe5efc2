import Marginalia.Shell.Syntax

/-!
# Arithmetic of the shell

Expressions over whole numbers of 64 bits, with the operators and the precedence that are usual for
such numbers. Variables may be set within an expression. A part that does not count because of a
condition is read, but not evaluated.
-/

namespace Marginalia.Shell

/-- A token of an expression. -/
inductive Mark where
  | number (n : Int)
  | name (t : Text)
  | sign (t : String)
  deriving DecidableEq

/-- The number that a text of digits spells in a base, as far as digits go, and the rest. -/
def digitsIn (base : Nat) : Nat → Text → Nat × Text
  | n, [] => (n, [])
  | n, c :: t =>
    let d := if c.isDigit then c.toNat - 48
      else if c.isAlpha then c.toLower.toNat - 87 else base
    if d < base then digitsIn base (n * base + d) t else (n, c :: t)

/-- The number at the front of a text in the notation of its first characters, and the rest. -/
def naturalAt (t : Text) : Nat × Text :=
  match t with
  | '0' :: x :: rest =>
    let hex := x = 'x' || x = 'X'
    if hex && (digitsIn 16 0 rest).2.length < rest.length then digitsIn 16 0 rest
    else digitsIn 8 0 t
  | t => digitsIn 10 0 t

/-- The number at the front of a text, which may have a sign and blanks before it, and the rest. -/
def integerAt (t : Text) : Int × Text :=
  let body := t.dropWhile isBlank
  let signed := body.head? = some '-' || body.head? = some '+'
  let digits := if signed then body.drop 1 else body
  let (n, rest) := naturalAt digits
  if rest.length = digits.length then (0, t)
  else (if body.head? = some '-' then -(n : Int) else n, rest)

/-- A number of 64 bits with a sign. -/
def wrapped (n : Int) : Int := Int.bmod n 18446744073709551616

/-- The nearest number of 64 bits with a sign. -/
def clamped (n : Int) : Int := max (-9223372036854775808) (min n 9223372036854775807)

/-- The text of a number. -/
def ofInt (n : Int) : Text := if n < 0 then '-' :: Text.ofNat n.natAbs else Text.ofNat n.natAbs

/-- The operators of two operands, the longer ones first, with how tightly they bind. -/
def binaries : List (String × Nat) :=
  [("<<", 8), (">>", 8), ("<=", 7), (">=", 7), ("==", 6), ("!=", 6), ("&&", 2), ("||", 1),
   ("<", 7), (">", 7), ("+", 9), ("-", 9), ("*", 10), ("/", 10), ("%", 10), ("&", 5), ("^", 4),
   ("|", 3)]

/-- All signs, the longer ones first. -/
def marksOfSigns : List String :=
  ["<<=", ">>=", "+=", "-=", "*=", "/=", "%=", "&=", "|=", "^="] ++ binaries.map Prod.fst ++
    ["=", "?", ":", "(", ")", "!", "~"]

/-- The tokens of an expression; none if there is something else in it. -/
def marksOf : Nat → Text → Option (List Mark)
  | 0, _ => none
  | _ + 1, [] => some []
  | fuel + 1, c :: t =>
    if isBlank c then marksOf fuel t
    else if c.isDigit then
      let (n, rest) := naturalAt (c :: t)
      (marksOf fuel rest).map (.number (clamped n) :: ·)
    else if isNameChar c then
      let name := (c :: t).takeWhile isNameChar
      (marksOf fuel ((c :: t).drop name.length)).map (.name name :: ·)
    else
      match marksOfSigns.find? fun s => (Text.after? s.toList (c :: t)).isSome with
      | some s => (marksOf fuel ((c :: t).drop s.length)).map (.sign s :: ·)
      | none => none

/-- What is known while an expression is evaluated. -/
structure Ledger where
  rest : List Mark
  /-- The values of variables, the newest first. -/
  values : Text → Text
  /-- The variables that were set, the last one first. -/
  sets : List (Text × Text)

/-- Evaluates a part of an expression, or says what is wrong. -/
abbrev Sum := StateT Ledger (Except Text)

namespace Sum

/-- Ends the evaluation. -/
def fail {α : Type} (problem : String) : Sum α := throw problem.toList

/-- Passes a sign, if it comes next. -/
def skip? (s : String) : Sum Bool := do
  let l ← get
  if l.rest.head? = some (.sign s) then
    set { l with rest := l.rest.drop 1 }
    return true
  else return false

/-- The value of a variable. -/
def valueOf (name : Text) : Sum Int := do
  let t := (← get).values name
  let (n, rest) := integerAt t
  if !rest.allBlank then throw ("Illegal number: ".toList ++ t)
  return clamped n

/-- Sets a variable. -/
def assign (name : Text) (n : Int) : Sum Unit :=
  modify fun l =>
    { l with
      values := fun x => if x = name then ofInt n else l.values x
      sets := (name, ofInt n) :: l.sets }

/-- The value of a truth. -/
def truth (b : Bool) : Int := if b then 1 else 0

/-- The bits of two numbers, combined as words. -/
def bitwise (f : Nat → Nat → Nat) (a b : Int) : Int :=
  let word (n : Int) : Nat := (n % 18446744073709551616).toNat
  wrapped (f (word a) (word b))

/-- What an operator gives. An operand that does not count may be anything. -/
def apply (live : Bool) (op : String) (a b : Int) : Sum Int := do
  if (op = "/" || op = "%") && b = 0 then
    if live then fail "division by zero" else return 0
  else
    return match op with
      | "+" => wrapped (a + b)
      | "-" => wrapped (a - b)
      | "*" => wrapped (a * b)
      | "/" => wrapped (Int.tdiv a b)
      | "%" => wrapped (Int.tmod a b)
      | "<<" => wrapped (a * (2 : Int).pow (b % 64).toNat)
      | ">>" => Int.fdiv a ((2 : Int).pow (b % 64).toNat)
      | "<" => truth (a < b)
      | ">" => truth (b < a)
      | "<=" => truth (a ≤ b)
      | ">=" => truth (b ≤ a)
      | "==" => truth (a = b)
      | "!=" => truth (a ≠ b)
      | "&" => bitwise Nat.land a b
      | "|" => bitwise Nat.lor a b
      | "^" => bitwise Nat.xor a b
      | "&&" => truth (a ≠ 0 && b ≠ 0)
      | _ => truth (a ≠ 0 || b ≠ 0)

mutual

/-- An operand. -/
def primary (live : Bool) : Nat → Sum Int
  | 0 => fail "expecting primary"
  | fuel + 1 => do
    match (← get).rest with
    | .number n :: rest =>
      modify fun l => { l with rest := rest }
      return n
    | .name t :: rest =>
      modify fun l => { l with rest := rest }
      if live then valueOf t else return 0
    | .sign "(" :: rest =>
      modify fun l => { l with rest := rest }
      let n ← whole live fuel
      if ← skip? ")" then return n else fail "expecting ')'"
    | .sign s :: rest =>
      let unary : List String := ["-", "+", "!", "~"]
      if !unary.contains s then fail "expecting primary"
      modify fun l => { l with rest := rest }
      let n ← primary live fuel
      return match s with
        | "-" => wrapped (-n)
        | "+" => n
        | "!" => truth (n = 0)
        | _ => -n - 1
    | [] => fail "expecting primary"
termination_by structural n => n

/-- Goes on after a left operand with the operators that bind at least as tightly as `level`. -/
def binary (live : Bool) (level : Nat) (left : Int) : Nat → Sum Int
  | 0 => return left
  | fuel + 1 => do
    match (← get).rest with
    | .sign s :: rest =>
      match binaries.lookup s with
      | none => return left
      | some tight =>
        if tight < level then return left
        else
          modify fun l => { l with rest := rest }
          let counts := live && !(s = "&&" && left = 0) && !(s = "||" && left ≠ 0)
          let right ← primary counts fuel
          let right ← binary counts (tight + 1) right fuel
          binary live level (← apply counts s left right) fuel
    | _ => return left
termination_by structural n => n

/-- A whole expression. -/
def whole (live : Bool) : Nat → Sum Int
  | 0 => fail "expecting primary"
  | fuel + 1 => do
    match (← get).rest with
    | .name t :: .sign s :: rest =>
      let op := String.ofList s.toList.dropLast
      if s = "=" || (s.toList.getLast? = some '=' && !(binaries.lookup s).isSome) then
        modify fun l => { l with rest := rest }
        let n ← whole live fuel
        if !live then return 0
        let n ← if s = "=" then pure n else apply live op (← valueOf t) n
        assign t n
        return n
      else conditional live fuel
    | _ => conditional live fuel
termination_by structural n => n

/-- A condition, with the values for both outcomes. -/
def conditional (live : Bool) : Nat → Sum Int
  | 0 => fail "expecting primary"
  | fuel + 1 => do
    let first ← primary live fuel
    let test ← binary live 1 first fuel
    if ← skip? "?" then
      let yes ← whole (live && test ≠ 0) fuel
      if !(← skip? ":") then fail "expecting ':'"
      let no ← conditional (live && test = 0) fuel
      return if test ≠ 0 then yes else no
    else return test
termination_by structural n => n

end

end Sum

/-- The value of an expression and the variables that it sets, in order, or what is wrong. -/
def arithmetic (values : Text → Text) (t : Text) : Except Text (Int × List (Text × Text)) :=
  let blame (problem : Text) : Text :=
    if (Text.after? "Illegal".toList problem).isSome then problem
    else "arithmetic expression: ".toList ++ problem ++ ": \"".toList ++ t ++ ['"']
  match marksOf (t.length + 1) t with
  | none => .error (blame "expecting EOF".toList)
  | some [] => .ok (0, [])
  | some marks =>
    match (Sum.whole true (4 * marks.length + 8)).run ⟨marks, values, []⟩ with
    | .error problem => .error (blame problem)
    | .ok (n, l) =>
      if l.rest = [] then .ok (n, l.sets.reverse) else .error (blame "expecting EOF".toList)

end Marginalia.Shell
