import Marginalia.Shell.Machine

/-!
# Tests

The conditions of `test`: about texts, numbers and files, joined by "and" and "or". What an
argument means depends on those after it, so an argument that looks like an operator is an operand
where an operator makes no sense.
-/

namespace Marginalia.Shell.Test

/-- Operators with one operand. -/
def unaries : List String :=
  ["-r", "-w", "-x", "-e", "-f", "-d", "-c", "-b", "-p", "-u", "-g", "-k", "-s", "-t", "-z", "-n",
   "-h", "-O", "-G", "-L", "-S"]

/-- Operators with two operands. -/
def binaries : List String :=
  ["=", "==", "!=", "<", ">", "-eq", "-ne", "-ge", "-gt", "-le", "-lt", "-nt", "-ot", "-ef"]

/-- What an argument is. -/
inductive Role where
  | finish
  | operand
  | unary (op : String)
  | binary (op : String)
  /-- A parenthesis, a negation, or what joins conditions. -/
  | sign (op : String)
  deriving DecidableEq

/-- The role that an argument has on its own. -/
def roleOf (t : Text) : Role :=
  let t := String.ofList t
  if unaries.contains t then .unary t
  else if binaries.contains t then .binary t
  else if ["!", "-a", "-o", "(", ")"].contains t then .sign t
  else .operand

/-- The role of the argument at a place. -/
def role (args : Array Text) (i : Nat) : Role :=
  match args[i]? with
  | none => .finish
  | some t =>
    match roleOf t with
    | .unary op =>
      match args[i + 1]?, args[i + 2]? with
      | none, _ => .operand
      | some _, none => .unary op
      | some next, some _ =>
        match roleOf next with
        | .binary _ => .operand
        | _ => .unary op
    | .sign "(" => if (args[i + 1]?).isSome then .sign "(" else .operand
    | r => r

/-- The number that an operand spells. -/
def numeral (t : Text) : Except Text Int :=
  let body := Text.trim t
  if isInteger body then .ok (integer body) else .error ("Illegal number: ".toList ++ t)

/-- Directories and files that are everywhere. -/
def isEverywhere (t : Text) : Bool :=
  ["/", "/bin", "/usr", "/usr/bin", "/etc", "/tmp", "/dev"].contains (String.ofList t)

/-- Whether there is a file of the kind that an operator asks for. -/
def isThere (m : Machine) (op : String) (t : Text) : Bool :=
  match m.device? t with
  | some (some (.stream _)) => ["-e", "-r", "-w", "-p"].contains op
  | some c => c.isSome && ["-e", "-r", "-w", "-c"].contains op
  | none =>
    if isEverywhere t then ["-e", "-r", "-w", "-x", "-d"].contains op
    else
      match op, (m.store.resolve (m.path t)).toOption with
      | _, none => false
      | "-d", some (_, .directory) => true
      | "-f", some (_, .file _ _) => true
      | "-x", some (_, .file _ runs) => runs
      | "-x", some (_, .directory) => true
      | "-s", some (_, .file contents _) => !contents.isEmpty
      | "-s", some (_, .directory) => true
      | op, some _ => ["-e", "-r", "-w", "-O", "-G"].contains op

/-- Whether a condition on one operand holds. -/
def unary (m : Machine) (op : String) (t : Text) : Except Text Bool :=
  match op with
  | "-z" => .ok (t = [])
  | "-n" => .ok (t ≠ [])
  | "-t" => (numeral t).map fun _ => false
  | op => .ok (isThere m op t)

/-- Whether a condition on two operands holds. -/
def binary (m : Machine) (op : String) (a b : Text) : Except Text Bool :=
  let numbers (f : Int → Int → Bool) : Except Text Bool := do return f (← numeral a) (← numeral b)
  match op with
  | "=" | "==" => .ok (a = b)
  | "!=" => .ok (a ≠ b)
  | "<" => .ok (a.compare b = .lt)
  | ">" => .ok (a.compare b = .gt)
  | "-eq" => numbers (· = ·)
  | "-ne" => numbers (· ≠ ·)
  | "-ge" => numbers (· ≥ ·)
  | "-gt" => numbers (· > ·)
  | "-le" => numbers (· ≤ ·)
  | "-lt" => numbers (· < ·)
  | "-ef" =>
    let place (t : Text) : Option Location := (m.store.resolve (m.path t)).toOption.map Prod.fst
    .ok ((place a).isSome && place a = place b)
  | _ => .ok false

/-- Evaluates conditions at a place among the arguments. -/
abbrev Exam := StateT Nat (Except Text)

/-- Complains about an argument. -/
def blame {α : Type} (op : Text) (problem : String) : Exam α :=
  throw (if op = [] then problem.toList else op ++ ": ".toList ++ problem.toList)

mutual

/-- Conditions joined by "or". The place is left on the last argument used. -/
def anyOf (m : Machine) (args : Array Text) (r : Role) : Nat → Exam Bool
  | 0 => return false
  | fuel + 1 => do
    let first ← allOf m args r fuel
    let i ← get
    if role args (i + 1) = .sign "-o" then
      set (i + 2)
      let rest ← anyOf m args (role args (i + 2)) fuel
      return first || rest
    else return first
termination_by structural n => n

/-- Conditions joined by "and". -/
def allOf (m : Machine) (args : Array Text) (r : Role) : Nat → Exam Bool
  | 0 => return false
  | fuel + 1 => do
    let first ← single m args r fuel
    let i ← get
    if role args (i + 1) = .sign "-a" then
      set (i + 2)
      let rest ← allOf m args (role args (i + 2)) fuel
      return first && rest
    else return first
termination_by structural n => n

/-- One condition. -/
def single (m : Machine) (args : Array Text) (r : Role) : Nat → Exam Bool
  | 0 => return false
  | fuel + 1 => do
    let i ← get
    let at' (j : Nat) : Text := (args[j]?).getD []
    match r with
    | .finish => return false
    | .sign "!" =>
      let next := role args (i + 1)
      if next ≠ .finish then set (i + 1)
      return !(← single m args next fuel)
    | .sign "(" =>
      set (i + 1)
      let next := role args (i + 1)
      if next = .sign ")" then return false
      let b ← anyOf m args next fuel
      let j ← get
      set (j + 1)
      if role args (j + 1) ≠ .sign ")" then blame [] "closing paren expected"
      return b
    | .unary op =>
      set (i + 1)
      if args.size ≤ i + 1 then blame op.toList "argument expected"
      unary m op (at' (i + 1))
    | _ =>
      match role args (i + 1) with
      | .binary op =>
        set (i + 2)
        if args.size ≤ i + 2 then blame op.toList "argument expected"
        binary m op (at' i) (at' (i + 2))
      | _ => return at' i ≠ []
termination_by structural n => n

end

/-- Whether arguments from a first role on hold, which has to use all of them. -/
def whole (m : Machine) (args : List Text) (r : Option Role) : Except Text Bool :=
  let args := args.toArray
  match (anyOf m args (r.getD (role args 0)) (4 * args.size + 4)).run 0 with
  | .error e => .error e
  | .ok (b, i) =>
    match args[i]?, args[i + 1]? with
    | some t, some _ => .error (t ++ ": unexpected operator".toList)
    | _, _ => .ok b

/-- Whether the arguments of a test hold. -/
def holds (m : Machine) (args : List Text) : Except Text Bool :=
  let isBinary (t : Text) : Bool := binaries.contains (String.ofList t)
  match args with
  | [] => .ok false
  | [a, op, b] =>
    if isBinary op then whole m args (some .operand)
    else if a = ['('] && b = [')'] then whole m [op] none
    else if a = ['!'] then (whole m [op, b] none).map (!·)
    else whole m args none
  | [a, b, c, d] =>
    if a = ['('] && d = [')'] then whole m [b, c] none
    else if a = ['!'] then
      (whole m [b, c, d] (if isBinary c then some .operand else none)).map (!·)
    else whole m args none
  | args => whole m args none

end Marginalia.Shell.Test
