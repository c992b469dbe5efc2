import Marginalia.Shell.Arithmetic

/-!
# Formatted output

What `printf` and `echo` write. A shell deals in octets; a text here is a list of octets, each as
the character of its number. What is wrong with an argument is said, and the rest goes on.
-/

namespace Marginalia.Shell

/-- What a command writes, what it complains about, and how it ends. -/
structure Deed where
  text : Text
  complaints : List Text
  status : Nat

/-- A command that only writes. -/
def Deed.said (t : Text) : Deed := ⟨t, [], 0⟩

/-- The number that the decimal digits at the front of a text spell. -/
def number (t : Text) : Nat :=
  (t.takeWhile Char.isDigit).foldl (fun n d => n * 10 + (d.toNat - 48)) 0

/-! ## Escapes -/

/-- Whether a character is an octal digit. -/
def isOctal (c : Char) : Bool := '0' ≤ c && c ≤ '7'

/-- The octet that digits spell in a base. -/
def octet (base : Nat) (t : Text) : Char := Char.ofNat ((digitsIn base 0 t).1 % 256)

/-- The character that a letter after a backslash stands for. -/
def escapeLetter? : Char → Option Char
  | 'n' => some '\n'
  | 't' => some '\t'
  | 'r' => some '\r'
  | 'a' => some '\x07'
  | 'b' => some '\x08'
  | 'f' => some '\x0c'
  | 'v' => some '\x0b'
  | 'e' => some '\x1b'
  | '\\' => some '\\'
  | _ => none

/-- What the text after a backslash stands for, and the rest: a letter or up to three octal
digits. A zero may stand before the digits, and two hexadecimal digits may follow an `x`. -/
def escapeAt (zeroFirst hex : Bool) (t : Text) : Text × Text :=
  match t with
  | [] => (['\\'], [])
  | c :: rest =>
    if isOctal c then
      let t := if zeroFirst && c = '0' then rest else t
      let digits := (t.take 3).takeWhile isOctal
      ([octet 8 digits], t.drop digits.length)
    else
      let digits := (rest.take 2).takeWhile fun d => (digitsIn 16 0 [d]).2 = []
      if hex && c = 'x' && digits ≠ [] then ([octet 16 digits], rest.drop digits.length)
      else
        match escapeLetter? c with
        | some d => ([d], rest)
        | none => (['\\', c], rest)

/-- `t` with its escapes resolved, and whether the output ends there. -/
def unescaped (hex : Bool) : Nat → Text → Text × Bool
  | 0, t => (t, false)
  | _ + 1, [] => ([], false)
  | _ + 1, '\\' :: 'c' :: _ => ([], true)
  | fuel + 1, '\\' :: t =>
    let (a, rest) := escapeAt true hex t
    let (b, stops) := unescaped hex fuel rest
    (a ++ b, stops)
  | fuel + 1, c :: t =>
    let (b, stops) := unescaped hex fuel t
    (c :: b, stops)

/-! ## Conversions -/

/-- How a conversion is to be shown. -/
structure Layout where
  flags : Text
  width : Nat
  precision : Option Nat

/-- `t` filled up to the width; zeros go between the sign and the digits. -/
def Layout.fill (l : Layout) (zeros : Bool) (t : Text) : Text :=
  let missing := l.width - t.length
  if l.flags.contains '-' then t ++ List.replicate missing ' '
  else if zeros && l.flags.contains '0' then
    let signs := t.takeWhile fun c => c = '-' || c = '+' || c = ' '
    signs ++ List.replicate missing '0' ++ t.drop signs.length
  else List.replicate missing ' ' ++ t

/-- An integer as a conversion shows it. -/
def Layout.integer (l : Layout) (conversion : Char) (n : Int) : Text :=
  let word := (n % 18446744073709551616).toNat
  let digits : Text := match conversion with
    | 'x' => Nat.toDigits 16 word
    | 'X' => (Nat.toDigits 16 word).map Char.toUpper
    | 'o' => Nat.toDigits 8 word
    | 'u' => Text.ofNat word
    | _ => Text.ofNat n.natAbs
  let digits := match l.precision with
    | some p => List.replicate (p - digits.length) '0' ++ digits
    | none => digits
  let signed := conversion = 'd' || conversion = 'i'
  let lead : Text :=
    if signed then
      if n < 0 then ['-'] else if l.flags.contains '+' then ['+']
      else if l.flags.contains ' ' then [' '] else []
    else if l.flags.contains '#' && word ≠ 0 then
      match conversion with
      | 'x' => ['0', 'x']
      | 'X' => ['0', 'X']
      | 'o' => ['0']
      | _ => []
    else []
  l.fill l.precision.isNone (lead ++ digits)

/-- A decimal number with a fixed number of places. -/
def Layout.fixed (l : Layout) (t : Text) : Text :=
  let places := l.precision.getD 6
  let negative := t.head? = some '-'
  let t := if negative || t.head? = some '+' then t.drop 1 else t
  let whole := t.takeWhile Char.isDigit
  let part := ((t.drop whole.length).drop 1).takeWhile Char.isDigit
  let scaled := number (whole ++ part) * Nat.pow 10 places
  let unit := Nat.pow 10 part.length
  let (q, r) := (scaled / unit, scaled % unit)
  let q := if 2 * r > unit || (2 * r = unit && q % 2 = 1) then q + 1 else q
  let digits := Text.ofNat q
  let digits := List.replicate (places + 1 - digits.length) '0' ++ digits
  let cut := digits.length - places
  let point : Text := if places = 0 then [] else '.' :: digits.drop cut
  let sign : Text := if negative then ['-'] else if l.flags.contains '+' then ['+'] else []
  l.fill true (sign ++ digits.take cut ++ point)

/-- The number that an argument spells, and what is wrong with it. -/
def argumentNumber (arg : Text) : Int × List Text :=
  match arg with
  | '\'' :: c :: _ | '"' :: c :: _ => (c.toNat, [])
  | arg =>
    let (n, rest) := integerAt arg
    if rest ≠ [] && rest.length = arg.length then (0, [arg ++ ": expected numeric value".toList])
    else if rest ≠ [] then (clamped n, [arg ++ ": not completely converted".toList])
    else if clamped n ≠ n then
      (clamped n, [arg ++ ": Numerical result out of range".toList])
    else (n, [])

/-- Output while it is collected. -/
structure Printing where
  arguments : List Text
  complaints : List Text
  status : Nat
  /-- Whether nothing more is written. -/
  stops : Bool

namespace Printing

/-- Complains. -/
def blame (p : Printing) (problems : List Text) : Printing :=
  if problems = [] then p else { p with complaints := p.complaints ++ problems, status := 1 }

/-- Gives up. -/
def abort (p : Printing) (problem : Text) : Printing :=
  { p with complaints := p.complaints ++ [problem], status := 2, stops := true }

/-- The next argument. -/
def next (p : Printing) : Text × Printing :=
  (p.arguments.headD [], { p with arguments := p.arguments.drop 1 })

/-- A number in the format, or from the arguments. -/
def size (p : Printing) (t : Text) : Int × Text × Printing :=
  match t with
  | '*' :: rest =>
    let (a, p) := p.next
    let (n, problems) := argumentNumber a
    (n, rest, p.blame problems)
  | t => (number t, t.dropWhile Char.isDigit, p)

/-- What a conversion writes. -/
def convert (p : Printing) (hex : Bool) (l : Layout) (conversion : Char) : Text × Printing :=
  let (arg, rest) := p.next
  let cut (t : Text) : Text := match l.precision with
    | some n => t.take n
    | none => t
  if "dixXou".toList.contains conversion then
    let (n, problems) := argumentNumber arg
    (l.integer conversion n, rest.blame problems)
  else
    match conversion with
    | 's' => (l.fill false (cut arg), rest)
    | 'b' =>
      let (t, stops) := unescaped hex (arg.length + 1) arg
      (l.fill false (cut t), { rest with stops := stops })
    | 'c' => (l.fill false [arg.headD (Char.ofNat 0)], rest)
    | _ => (l.fixed arg, rest)

end Printing

/-- One pass over a format. -/
def formatOnce (hex : Bool) : Nat → Text → Printing → Text × Printing
  | 0, _, p => ([], p)
  | _ + 1, [], p => ([], p)
  | fuel + 1, c :: t, p =>
    let go (a : Text) (rest : Text) (p : Printing) : Text × Printing :=
      if p.stops then (a, p)
      else
        let (b, p) := formatOnce hex fuel rest p
        (a ++ b, p)
    match c, t with
    | '\\', t =>
      let (a, rest) := escapeAt false hex t
      go a rest p
    | '%', '%' :: t => go ['%'] t p
    | '%', t =>
      let flags := t.takeWhile ("#-+ 0".toList.contains ·)
      let (width, rest, p) := p.size (t.drop flags.length)
      let flags := if width < 0 then '-' :: flags else flags
      let (precision, rest, p) : Option Nat × Text × Printing := match rest with
        | '.' :: rest =>
          let (n, rest, p) := p.size rest
          (if n < 0 then none else some n.toNat, rest, p)
        | rest => (none, rest, p)
      match rest with
      | [] => ([], p.abort "missing format character".toList)
      | d :: rest' =>
        if "dixXousbcfFeEgG".toList.contains d then
          let (a, p) := p.convert hex ⟨flags, width.natAbs, precision⟩ d
          go a rest' p
        else
          let directive := '%' :: t.take (t.length - rest.length + 1)
          ([], p.abort (directive ++ ": invalid directive".toList))
    | c, t => go [c] t p

/-- What a format makes of its arguments: it is used again while arguments are left. -/
def formatAll (hex : Bool) (format : Text) : Nat → Printing → Text × Printing
  | 0, p => ([], p)
  | fuel + 1, p =>
    let (a, q) := formatOnce hex (format.length + 1) format p
    if q.stops || q.arguments = [] || q.arguments.length = p.arguments.length then (a, q)
    else
      let (b, q) := formatAll hex format fuel q
      (a ++ b, q)

/-- What `printf` writes. -/
def printf (hex : Bool) (args : List Text) : Deed :=
  let args := match args with
    | ['-', '-'] :: more => more
    | args => args
  match args with
  | [] => ⟨[], ["usage: printf format [arg ...]".toList], 2⟩
  | format :: more =>
    match format with
    | '-' :: c :: _ => ⟨[], ["Illegal option -".toList ++ [c]], 2⟩
    | format =>
      let (t, p) := formatAll hex format (more.length + 1) ⟨more, [], 0, false⟩
      ⟨t, p.complaints, p.status⟩

/-- What `echo` writes. Escapes are resolved, or only after an option if `asked` is set. -/
def echo (asked : Bool) (args : List Text) : Text :=
  let isOption (a : Text) : Bool :=
    if asked then
      a.head? = some '-' && a.length > 1 && (a.drop 1).all ("neE".toList.contains ·)
    else a = ['-', 'n']
  let options := if asked then args.takeWhile isOption else (args.take 1).takeWhile isOption
  let given (c : Char) : Bool := options.any (·.contains c)
  let body := [' '].intercalate (args.drop options.length)
  let (t, stops) := if asked && !given 'e' then (body, false)
    else unescaped asked (body.length + 1) body
  if stops || given 'n' then t else t ++ ['\n']

end Marginalia.Shell
