import Marginalia.Section.Lines

/-!
# Sections of comment blocks

A source is a stretch of code, then comments `/* … */` each with the code after it. `scan` takes a
source apart in this way and loses nothing: `Comment.text` gives back a comment's characters. A new
section starts at each comment with code directly before it.

The style of a language decides whether its sources fall into sections in this way or line by line.
-/

namespace Marginalia

/-- A comment of a source. -/
structure Comment where
  /-- The `*` or `!` directly after the opener, if it is taken with it. -/
  marker : Option Char
  /-- What stands between opener and closer. -/
  body : Text
  /-- Whether there is a closer. -/
  closed : Bool
  /-- The line break directly after the closer. -/
  lineBreak : Text
  deriving DecidableEq

namespace Comment

/-- What opens a comment. -/
def opener : Text := ['/', '*']

/-- What closes a comment. -/
def closer : Text := ['*', '/']

/-- The characters of the comment in its source. -/
def text (k : Comment) : Text :=
  opener ++ k.marker.toList ++ k.body ++ (if k.closed then closer else []) ++ k.lineBreak

/-- Whether the comment is emphasised with `!`. -/
def intensified (k : Comment) : Bool := k.marker = some '!'

/-! ## Reading a comment -/

/-- The marker after an opener, and the rest. A `*` that belongs to the closer is no marker. -/
def marker? (t : Text) : Option Char × Text :=
  if closer.isPrefixOf t then (none, t)
  else
    match t with
    | '*' :: rest => (some '*', rest)
    | '!' :: rest => (some '!', rest)
    | t => (none, t)

/-- The line break at the front of `t`, and the rest. -/
def lineBreak? : Text → Text × Text
  | '\r' :: '\n' :: rest => (['\r', '\n'], rest)
  | '\n' :: rest => (['\n'], rest)
  | t => ([], t)

/-- The comment whose opener `t` follows, and what comes after it; nothing comes after a comment
that is not closed. -/
def read (t : Text) : Comment × Option Text :=
  let (marker, inside) := marker? t
  match Text.breakOn? closer inside with
  | none => (⟨marker, inside, false, []⟩, none)
  | some (body, after) =>
    let (lineBreak, rest) := lineBreak? after
    (⟨marker, body, true, lineBreak⟩, some rest)

/-! ## Prose of a comment -/

/-- Without blanks, one `*` and one space at the front of a line, if there is a `*`. -/
def dropGutter (line : Text) : Text :=
  match line.dropWhile fun c => c = ' ' || c = '\t' with
  | '*' :: rest => Text.dropFirst ' ' rest
  | _ => line

/-- The last of several lines is emptied if it is blank: it only indents the closer. -/
def emptyLast : List Text → List Text
  | [] => []
  | [line] => [line]
  | [line, last] => [line, if Text.allBlank last then [] else last]
  | line :: lines => line :: emptyLast lines

/-- The prose of a comment's body: its lines without their gutters. -/
def prose (body : Text) : Text :=
  ['\n'].intercalate ((emptyLast ((Text.dropFirst ' ' body).splitOn '\n')).map dropGutter)

/-- What a comment adds to the prose of its section. -/
def docs (k : Comment) : Text := prose k.body ++ k.lineBreak

end Comment

/-! ## Taking a source apart -/

namespace Comment

theorem length_marker? (t : Text) : (marker? t).2.length ≤ t.length := by
  unfold marker?
  split
  · simp
  · split <;> simp

theorem length_lineBreak? (t : Text) : (lineBreak? t).2.length ≤ t.length := by
  unfold lineBreak?
  split <;> simp
  omega

/-- What comes after a comment is no longer than what its opener is followed by. -/
theorem length_read {t rest : Text} (h : (read t).2 = some rest) : rest.length ≤ t.length := by
  have hm := length_marker? t
  unfold read at h
  split at h
  next marker inside hi =>
    rw [hi] at hm
    split at h
    · simp at h
    · next body after hb =>
      have hl := length_lineBreak? after
      simp only [Option.some.injEq] at h
      have := congrArg List.length (Text.eq_of_breakOn? hb)
      simp only [List.length_append] at this hm
      grind

end Comment

/-- The code in front of the first comment, and each comment with the code after it. -/
structure Scan where
  lead : Text
  comments : List (Comment × Text)
  deriving DecidableEq

namespace Scan

/-- The source that was taken apart. -/
def text (s : Scan) : Text := s.lead ++ s.comments.flatMap fun (k, code) => k.text ++ code

/-- What comes after the first comment of a source is shorter than the source. -/
theorem length_lt_of_read {source lead inside rest : Text}
    (hcut : Text.breakOn? Comment.opener source = some (lead, inside))
    (hread : (Comment.read inside).2 = some rest) : rest.length < source.length := by
  have hinside := congrArg List.length (Text.eq_of_breakOn? hcut)
  have hrest := Comment.length_read hread
  simp [Comment.opener] at hinside
  omega

/-- Takes a source apart. -/
def ofText (source : Text) : Scan :=
  match _cut : Text.breakOn? Comment.opener source with
  | none => ⟨source, []⟩
  | some (lead, inside) =>
    match _ended : Comment.read inside with
    | (k, none) => ⟨lead, [(k, [])]⟩
    | (k, some rest) =>
      let after := ofText rest
      ⟨lead, (k, after.lead) :: after.comments⟩
termination_by source.length
decreasing_by exact length_lt_of_read _cut (by rw [_ended])

/-- The sections of a source taken apart: the comments before a stretch of code are its prose. -/
def sections (lead : Text) : List (Comment × Text) → List Section
  | [] => [⟨[], lead⟩]
  | (k, code) :: rest =>
    let documented :=
      match sections code rest with
      | [] => []
      | s :: more => s.addDocs k.docs :: more
    if lead = [] then documented else ⟨[], lead⟩ :: documented

/-- What is left of a source behind the opener of each comment. -/
def insides (source : Text) : List Text :=
  match _cut : Text.breakOn? Comment.opener source with
  | none => []
  | some (_, inside) =>
    match _ended : Comment.read inside with
    | (_, none) => [inside]
    | (_, some rest) => inside :: insides rest
termination_by source.length
decreasing_by exact length_lt_of_read _cut (by rw [_ended])

/-- The places of the emphasised comments of a source in octets, each told from what is left. -/
def places (source : Text) : List Nat :=
  ((insides source).filter fun inside => (Comment.read inside).1.intensified).map fun inside =>
    source.octets - inside.octets - Comment.opener.octets

end Scan

/-- The sections of a source whose documentation stands in comment blocks. -/
def blockSections (source : Text) : List Section :=
  let s := Scan.ofText source
  Scan.sections s.lead s.comments

/-- What is told while a source is taken apart: the place of each emphasised comment. -/
def blockJournal (source : Text) : Journal :=
  (Scan.places source).map fun n =>
    ⟨.trace, .sections, "intensified comment at byte ".toList ++ Text.ofNat n⟩

/-! ## Both styles -/

/-- The sections of a source in the given language. -/
def parseSections (lang : Language) (source : Text) : List Section :=
  match lang.style with
  | .line => lineSections lang source
  | .block => blockSections source

/-- What is told while the sections of a source are found. -/
def parseJournal (lang : Language) (source : Text) : Journal :=
  match lang.style with
  | .line => []
  | .block => blockJournal source

end Marginalia
