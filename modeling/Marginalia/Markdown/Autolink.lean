import Marginalia.Markdown.Scan

/-!
# Addresses in running text

An address between `<` and `>` is a link, and so is one that starts with a web protocol or with
`www.`, and an address of mail. Where such an address ends is not marked, so signs that are likely
to belong to the sentence around it are left out of it.

1. Addresses in angle brackets (`autolink`).
2. Addresses on the web without brackets (`webAddress`, `wwwAddress`).
3. Addresses of mail and chat, which are found in plain text at the end (`mails`).
-/

namespace Marginalia.Markdown

namespace Scan

/-! ## Addresses in angle brackets -/

/-- The most characters of a protocol. -/
def mostScheme : Nat := 32

/-- The most characters of a label of a domain. -/
def mostDomainLabel : Nat := 63

/-- Characters of a protocol. -/
def isSchemeChar (c : Char) : Bool := c.isAlphanum || c = '+' || c = '-' || c = '.'

/-- Characters before the `@` of an address of mail. -/
def isMailChar (c : Char) : Bool :=
  c.isAlphanum || "#$%&'*+-./=?^_\x60\x7b|\x7d~".toList.contains c

/-- Where in an address a scanner is. -/
inductive AutolinkAt where
  | scheme (size : Nat)
  | url
  | mail
  | domainStart
  | domain (size : Nat) (mayEnd : Bool)

/-- Passes the bracket that closes an address. -/
def closeAutolink : Scan (Option AutolinkAt) := do
  exit .autolinkProtocol
  consume
  exit .autolink
  return none

/-- Changes the open address into one of mail. -/
def isMailAddress : Scan Unit := modify fun s =>
  let i := s.events.size - 1
  { s with events := s.events.setPart i .autolinkEmail |>.setPart (i - 1) .autolinkEmail }

/-- Passes one character of an address. -/
def autolinkStep (x : AutolinkAt) : Scan (Option AutolinkAt) := do
  match ← peek with
  | none => fail
  | some c =>
    match x with
    | .scheme n =>
      if n > 0 && c = ':' then step; return some .url
      else if isSchemeChar c && n < mostScheme then
        step
        return some (.scheme (if n = 0 then 2 else n + 1))
      else return some .mail
    | .url =>
      if c = '>' then closeAutolink
      else
        require !(c.toNat ≤ 32 || c.toNat = 127 || c = '<')
        step
        return some .url
    | .mail =>
      if c = '@' then step; return some .domainStart
      else
        require (isMailChar c)
        step
        return some .mail
    | .domainStart =>
      require c.isAlphanum
      return some (.domain 0 false)
    | .domain n mayEnd =>
      if mayEnd && c = '.' then step; return some .domainStart
      else if mayEnd && c = '>' then
        exit .autolinkProtocol
        isMailAddress
        consume
        exit .autolink
        return none
      else
        require ((c.isAlphanum || c = '-') && n < mostDomainLabel)
        step
        return some (.domain (n + 1) (c ≠ '-'))

/-- Passes an address in angle brackets. -/
def autolink : Scan Unit := do
  require ((← peek) = some '<')
  enter .autolink
  step
  enter .autolinkProtocol
  let c := (← peek).getD '@'
  require (c ≠ '@')
  if c.isAlpha then
    step
    walk autolinkStep (.scheme 0)
  else walk autolinkStep .mail

/-! ## Addresses without brackets -/

/-- The kind of the character after the place of a scanner, also where its stretch ends. -/
def kindAfter : Scan Kind := asks fun s => kindOf s.source[s.place.index]?

/-- Passes signs that are no part of an address up to where it ends, and fails if it does not end
there. -/
def trail : Scan Unit :=
  walk (fun () => do
    let c ← peek
    if c = some '&' then
      step
      require (((← peek).map Char.isAlpha).getD false)
      passWhile Char.isAlpha
      require ((← peek) = some ';')
      step
      return some ()
    else if c = some ']' then
      step
      match ← peek with
      | none => return none
      | some d => if isGap d || d = '(' || d = '[' then return none else return some ()
    else if (c.map "!\"'),*.:;?_~".toList.contains).getD false then
      step
      return some ()
    else if c = some '<' then return none
    else
      require ((← kindAfter) = .blank)
      return none) ()

/-- What was seen of a domain: an underscore in its last label, one in the label before it, and
anything besides signs. -/
structure DomainSeen where
  last : Bool
  before : Bool
  any : Bool

/-- Passes a domain and hands over what was seen of it. -/
def domain (k : DomainSeen → Scan Unit) : Scan Unit :=
  walk (fun (d : DomainSeen) => do
    match ← peek with
    | none => k d; return none
    | some c =>
      if c = '.' || c = '_' then
        if ← check trail then k d; return none
        else
          step
          return some (if c = '_' then { d with last := true }
            else { d with last := false, before := d.last })
      else if c = '-' then
        step
        return some d
      else if kindOf (some c) = .other then
        step
        return some { d with any := true }
      else k d; return none) ⟨false, false, false⟩

/-- Passes what belongs to an address after its domain: `opened` and `closed` count the
parentheses. -/
def path : Scan Unit :=
  walk (fun (opened, closed) => do
    match ← peek with
    | none => return none
    | some c =>
      if c = '(' then
        step
        return some (opened + 1, closed)
      else if "!\"&'),*.:;<?]_~".toList.contains c then
        if (← check trail) && !(c = ')' && closed < opened) then return none
        else
          step
          return some (opened, if c = ')' then closed + 1 else closed)
      else if kindOf (some c) = .blank then return none
      else
        step
        return some (opened, closed)) ((0, 0) : Nat × Nat)

/-- Passes a domain that is fine, and what belongs to the address after it. -/
def site : Scan Unit :=
  domain fun d => do
    require (!d.last && !d.before && d.any)
    path

/-- The most letters of a web protocol. -/
def mostProtocol : Nat := 5

/-- Passes an address with a web protocol, which no letter stands before. -/
def webAddress : Scan Unit := do
  require !(← asks fun s => (s.previous.map Char.isAlpha).getD false)
  enter .literalProtocol
  let start ← asks fun s => s.place.index
  walk (fun n => do
    if n < mostProtocol && ((← peek).map Char.isAlpha).getD false then
      step
      return some (n + 1)
    else return none) 0
  let name ← asks fun s => (Slice.between s.source start s.place.index).map Char.toLower
  require (name = "http".toList || name = "https".toList)
  literal "://".toList
  site
  exit .literalProtocol

/-- Passes `www.`, after which something has to follow. -/
def wwwFront : Scan Unit := do
  walk (fun n => do
    let c := (← peek).getD ' '
    if n < 3 then
      require (c = 'w' || c = 'W')
      step
      return some (n + 1)
    else
      require (c = '.')
      step
      return none) 0
  require (← peek).isSome

/-- Passes an address that starts with `www.`, at the start of a word. -/
def wwwAddress : Scan Unit := do
  require (← asks fun s =>
    (s.previous.map fun c => isGap c || "(*_[]~".toList.contains c).getD true)
  enter .literalWww
  if !(← check wwwFront) then fail
  site
  exit .literalWww

end Scan

/-! ## Addresses of mail -/

/-- Characters before the `@` of an address of mail in plain text. -/
def isLocalChar (c : Char) : Bool := c.isAlphanum || c = '+' || c = '-' || c = '.' || c = '_'

/-- The name before an `@`, given the text before it with the last character first, and the part
that the address is. A slash may not stand before the name. -/
def mailName? (before : Text) : Option (Text × Part) :=
  let name := before.takeWhile isLocalChar
  let rest := before.dropWhile isLocalChar
  if name = [] || rest.head? = some '/' then none
  else
    match rest with
    | ':' :: more =>
      let word := more.takeWhile Char.isAlphanum
      let protocol := (word.map Char.toLower).reverse
      if protocol = "mailto".toList then some (name ++ ':' :: word, .literalMailto)
      else if protocol = "xmpp".toList then some (name ++ ':' :: word, .literalXmpp)
      else some (name, .literalEmail)
    | _ => some (name, .literalEmail)

/-- The domain of an address of mail, and whether a dot is in it. An address of chat may have
slashes. -/
def mailDomain (slash : Bool) : Text → Text × Bool
  | [] => ([], false)
  | c :: t =>
    if c.isAlphanum || c = '-' || c = '_' || (slash && c = '/') then
      let (d, dot) := mailDomain slash t
      (c :: d, dot)
    else if c = '.' && (t.head?.map Char.isAlphanum).getD false then
      (c :: (mailDomain slash t).1, true)
    else ([], false)

/-- The addresses of mail in a text, as numbers of the characters before, up to and in them; `index`
characters were passed, of which `before` may belong to the next address. -/
def mailsFrom : Nat → Nat → Text → Text → List (Nat × Nat × Part)
  | 0, _, _, _ => []
  | _ + 1, _, _, [] => []
  | fuel + 1, index, before, c :: t =>
    let plain := mailsFrom fuel (index + 1) (c :: before) t
    if c ≠ '@' then plain
    else
      match mailName? before with
      | none => plain
      | some (name, part) =>
        let (d, dot) := mailDomain (part = .literalXmpp) t
        if dot && (d.getLast?.map Char.isAlpha).getD false then
          let stop := index + 1 + d.length
          let rest := t.drop d.length
          (index - name.length, stop, part) ::
            mailsFrom fuel (stop + 1) (rest.take 1) (rest.drop 1)
        else plain

/-- A place some characters further on the same line. -/
def Place.shift (source : Array Char) (p : Place) (n : Nat) : Place :=
  { p with index := p.index + n
           column := p.column + Text.octets (Slice.between source p.index (p.index + n)) }

/-- The events of plain text from one place to another with addresses of mail in it, the first
character of the text being `passed` characters before the place. -/
def mailEvents (source : Array Char) (first stop : Place) (size : Nat) :
    Nat → List (Nat × Nat × Part) → Events
  | passed, [] =>
    if passed < size then Event.pair .data (first.shift source passed) stop else #[]
  | passed, (start, stop', part) :: more =>
    let p := first.shift source start
    let q := first.shift source stop'
    (if passed < start then Event.pair .data (first.shift source passed) p else #[]) ++
      Event.pair part p q ++ mailEvents source first stop size stop' more

/-- One step in the search for addresses of mail in plain text: the number of links around the
place, and the changes. -/
def mailStep (source : Array Char) (es : Events) (r : Nat × Edits) (i : Nat) : Nat × Edits :=
  let (links, m) := r
  let part := es.part i
  if part = .link then (if es.opens i then links + 1 else links - 1, m)
  else if part = .data && !es.opens i && links = 0 then
    let text := (es.sliceTo source i).text
    let found := mailsFrom (text.length + 1) 0 [] text
    if found.isEmpty then (links, m)
    else
      (links, m.add (i - 1) 2
        (mailEvents source (es.place (i - 1)) (es.place i) text.length 0 found))
  else (links, m)

/-- The events with the addresses of mail in plain text. -/
def mails (source : Array Char) (es : Events) : Events :=
  ((List.range es.size).foldl (mailStep source es) (0, .none es)).2.apply es

end Marginalia.Markdown
