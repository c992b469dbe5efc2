import Marginalia.Yaml.Document
import Marginalia.Proofs.LineFeeds
import Mathlib.Tactic.SplitIfs

/-!
# Blank documents

A text of blank characters has no collection, whichever blanks they are: the notation has signs
for collections, none of them blank. Some blanks are no space to the notation but characters of a
scalar, so such a text may be more than nothing.

1. Reading on never goes back: what is left is an ending of what was there
   (`Lexer.skipBlanks_suffix`, `Scalar.plain_suffix`).
2. So the tokens of a blank text are its ends and scalars (`TokenStream.isBare_ofText`).
3. Such tokens make no event but those of documents and scalars (`EventReader.IsBare.next`).
4. A document of such events has no collection (`Document.isBare_ofText`).
-/

namespace Marginalia

/-! ## Blank characters -/

namespace Text

theorem allBlank_cons {c : Char} {t : Text} :
    Text.allBlank (c :: t) = true ↔ isBlank c = true ∧ t.allBlank = true := by
  rw [Text.allBlank, List.all_cons, Bool.and_eq_true]
  rfl

theorem allBlank_of_suffix {t u : Text} (h : t <:+ u) (hu : u.allBlank = true) :
    t.allBlank = true := by
  rw [Text.allBlank, List.all_eq_true] at hu ⊢
  exact fun c hc => hu c (h.subset hc)

theorem trim_eq_nil_iff {t : Text} : t.trim = [] ↔ t.allBlank = true := by
  unfold trim dropEndWhile allBlank
  rw [List.reverse_eq_nil_iff, List.dropWhile_eq_nil_iff, List.all_eq_true]
  constructor
  · intro h
    have hnil : t.dropWhile isBlank = [] := by
      have hhead := List.head?_dropWhile_not isBlank t
      cases hrest : t.dropWhile isBlank with
      | nil => rfl
      | cons c rest =>
        rw [hrest, List.head?_cons] at hhead
        have hc := h c (by rw [hrest]; simp)
        simp [hc] at hhead
    exact List.dropWhile_eq_nil_iff.1 hnil
  · intro h c hc
    exact h c ((List.dropWhile_suffix _).subset (List.mem_reverse.1 hc))

end Text

theorem ne_of_isBlank {c d : Char} (hc : isBlank c = true) (hd : isBlank d = false) : c ≠ d := by
  rintro rfl
  exact Bool.false_ne_true (hd.symm.trans hc)

namespace Yaml

/-- What comes of one computation after another. -/
theorem bind_eq_ok_iff {ε α β : Type} {x : Except ε α} {f : α → Except ε β} {b : β} :
    (x >>= f) = .ok b ↔ ∃ a, x = .ok a ∧ f a = .ok b := by
  cases x with
  | error fault => exact ⟨(fun h => nomatch h), fun ⟨_, h, _⟩ => nomatch h⟩
  | ok a => exact ⟨fun h => ⟨a, rfl, h⟩, fun ⟨_, ha, h⟩ => Except.ok.inj ha ▸ h⟩

/-! ## Cursors -/

namespace Cursor

theorem skip_suffix (c : Cursor) : c.skip.rest <:+ c.rest := List.drop_suffix 1 c.rest

theorem skipWhile_suffix (c : Cursor) (p : Char → Bool) : (c.skipWhile p).rest <:+ c.rest :=
  List.drop_suffix _ c.rest

theorem skipBreak_suffix (c : Cursor) : c.skipBreak.rest <:+ c.rest := by
  unfold skipBreak
  split
  · exact List.suffix_rfl
  · exact List.drop_suffix _ c.rest

theorem fail_ne_ok {α : Type} (c : Cursor) (problem activity : String) (since : Mark) (a : α) :
    c.fail problem activity since ≠ .ok a := by
  intro h
  cases h

end Cursor

namespace Lexer

theorem skipBlanks_suffix (flow : Bool) (fuel : Nat) (c : Cursor) (allowed : Bool) :
    (skipBlanks flow fuel c allowed).1.rest <:+ c.rest := by
  induction fuel generalizing c allowed with
  | zero => exact List.suffix_rfl
  | succ fuel ih =>
    simp -zeta only [skipBlanks]
    extract_lets c₁ c₂ c₃
    have h₁ : c₁.rest <:+ c.rest := by
      unfold c₁
      split_ifs
      · exact c.skip_suffix
      · exact List.suffix_rfl
    have h₂ : c₂.rest <:+ c.rest := (c₁.skipWhile_suffix _).trans h₁
    have h₃ : c₃.rest <:+ c.rest := by
      unfold c₃
      split_ifs
      · exact (c₂.skipWhile_suffix _).trans h₂
      · exact h₂
    by_cases hbreak : (c₃.peek?.map isBreak).getD false = true
    · rw [if_pos hbreak]
      exact (ih _ _).trans (c₃.skipBreak_suffix.trans h₃)
    · rw [if_neg hbreak]
      exact h₃

end Lexer

namespace Scalar

theorem plainFrom_suffix {at' : Place} {text : Text} {g : Gap} {back : Mark} {fresh : Bool}
    {mark : Mark} {rest : Text} {r : Read}
    (h : plainFrom at' text g back fresh mark rest = .ok r) : r.after.rest <:+ rest := by
  rw [plainFrom.eq_def] at h
  split at h
  · cases h
    exact List.suffix_rfl
  · next more =>
    exact (plainFrom_suffix h).trans ((List.suffix_cons _ more).trans (List.suffix_cons _ _))
  · next c more _ =>
    have hgo {text g back fresh mark} (h : plainFrom at' text g back fresh mark more = .ok r) :
        r.after.rest <:+ c :: more :=
      (plainFrom_suffix h).trans (List.suffix_cons c more)
    have hdone {text broken back mark} (h : .ok ⟨text, broken, back, mark, c :: more⟩ =
        (.ok r : Except SyntaxError Read)) : r.after.rest <:+ c :: more := by
      obtain rfl := Except.ok.inj h
      exact List.suffix_rfl
    by_cases hbreak : isBreak c = true
    · exact hgo (if_pos hbreak ▸ h)
    rw [if_neg hbreak] at h
    by_cases hspace : isSpace c = true
    · rw [if_pos hspace] at h
      split at h
      · exact absurd h (Cursor.fail_ne_ok _ _ _ _ _)
      · exact hgo h
    rw [if_neg hspace] at h
    split at h
    · exact hdone h
    split at h
    · exact absurd h (Cursor.fail_ne_ok _ _ _ _ _)
    split at h
    · exact hdone h
    · exact hgo h
termination_by rest.length

/-- A plain scalar ends before an ending of what was there. -/
theorem plain_suffix {flow : Bool} {indent : Int} {c : Cursor} {r : Read}
    (h : plain flow indent c = .ok r) : r.after.rest <:+ c.rest :=
  plainFrom_suffix h

end Scalar

/-! ## Tokens -/

/-- The tokens that a blank text can have. -/
def Token.IsBare : Token → Prop
  | .streamStart | .streamEnd | .blockEnd | .scalar _ _ => True
  | _ => False

namespace Lexer

/-- A reader before blanks that has found no sign of a collection. -/
structure IsBare (l : Lexer) : Prop where
  rest : l.cursor.rest.allBlank = true
  tokens : ∀ p ∈ l.tokens.toList, p.token.IsBare

variable {l l' : Lexer}

theorem IsBare.emit (h : l.IsBare) (token : Token) (htoken : token.IsBare) (front back : Mark) :
    (l.emit token front back).IsBare where
  rest := h.rest
  tokens p hp := by
    rw [Lexer.emit, Array.toList_push, List.mem_append, List.mem_singleton] at hp
    obtain hp | rfl := hp
    · exact h.tokens p hp
    · exact htoken

theorem IsBare.congr (h : l.IsBare) (hcursor : l'.cursor = l.cursor)
    (htokens : l'.tokens = l.tokens) : l'.IsBare := ⟨hcursor ▸ h.rest, htokens ▸ h.tokens⟩

theorem IsBare.dropKey (h : l.IsBare) (hl : l.dropKey = .ok l') : l'.IsBare := by
  unfold Lexer.dropKey at hl
  split at hl
  · split_ifs at hl
    · cases hl
    · cases hl
      exact h.congr rfl rfl
  · cases hl
    exact h

theorem IsBare.saveKey (h : l.IsBare) (hl : l.saveKey = .ok l') : l'.IsBare := by
  unfold Lexer.saveKey at hl
  split_ifs at hl
  · obtain ⟨dropped, hdrop, hl⟩ := bind_eq_ok_iff.1 hl
    cases hl
    exact (h.dropKey hdrop).congr rfl rfl
  · cases hl
    exact h

theorem IsBare.dropStale (h : l.IsBare) (hl : l.dropStale = .ok l') : l'.IsBare := by
  obtain ⟨keys, -, hl⟩ := bind_eq_ok_iff.1 hl
  cases hl
  exact h.congr rfl rfl

theorem IsBare.foldl_blockEnd (h : l.IsBare) (closing : List Int) :
    (closing.foldl (fun l _ => l.emit .blockEnd l.cursor.mark l.cursor.mark) l).IsBare := by
  induction closing generalizing l with
  | nil => exact h
  | cons _ _ ih => exact ih (h.emit .blockEnd trivial _ _)

theorem IsBare.unroll (h : l.IsBare) (column : Int) : (l.unroll column).IsBare := by
  unfold Lexer.unroll
  split_ifs
  · exact h
  · have h₁ := h.foldl_blockEnd ((l.indent :: l.indents).takeWhile (· > column))
    dsimp only
    split
    · exact h₁
    · exact h₁.congr rfl rfl

theorem IsBare.finish (h : l.IsBare) (hl : l.finish = .ok l') : l'.IsBare := by
  obtain ⟨dropped, hdrop, hl⟩ := bind_eq_ok_iff.1 hl
  cases hl
  have hstart (mark : Mark) : IsBare { l with cursor := { l.cursor with mark := mark } } :=
    ⟨h.rest, h.tokens⟩
  exact (((hstart _).unroll (-1)).dropKey hdrop |>.emit .streamEnd trivial _ _).congr rfl rfl

theorem IsBare.plainScalar (h : l.IsBare) (hl : l.plainScalar = .ok l') : l'.IsBare := by
  obtain ⟨saved, hsave, hl⟩ := bind_eq_ok_iff.1 hl
  obtain ⟨r, hread, hl⟩ := bind_eq_ok_iff.1 hl
  cases hl
  have hsaved := h.saveKey hsave
  exact ⟨Text.allBlank_of_suffix (Scalar.plain_suffix hread) hsaved.rest,
    (hsaved.emit (.scalar .plain r.text) trivial _ _).tokens⟩

theorem atDocumentMark_of_isBlank {mark : Mark} {d : Char} {more : Text} (hd : isBlank d = true) :
    Cursor.atDocumentMark ⟨mark, d :: more⟩ = false := by
  have hhyphen := ne_of_isBlank hd (d := '-') rfl
  have hpoint := ne_of_isBlank hd (d := '.') rfl
  unfold Cursor.atDocumentMark
  split
  · next h => exact absurd (List.cons.inj h).1 hhyphen
  · next h => exact absurd (List.cons.inj h).1 hpoint
  · exact Bool.and_false _

/-- One step over a blank text: the text ends, or a blank begins a scalar. -/
theorem IsBare.next (h : l.IsBare) (hl : l.next = .ok l') : l'.IsBare := by
  unfold Lexer.next at hl
  have hsuffix := skipBlanks_suffix l.inFlow (l.cursor.rest.length + 1) l.cursor l.keyAllowed
  revert hl
  generalize skipBlanks l.inFlow (l.cursor.rest.length + 1) l.cursor l.keyAllowed = skipped
    at hsuffix ⊢
  obtain ⟨c, allowed⟩ := skipped
  intro hl
  obtain ⟨fresh, hfresh, hl⟩ := bind_eq_ok_iff.1 hl
  have hc : Text.allBlank c.rest = true := Text.allBlank_of_suffix hsuffix h.rest
  have hstart : IsBare { l with cursor := c, keyAllowed := allowed } := ⟨hc, h.tokens⟩
  have hready := (hstart.dropStale hfresh).unroll c.mark.column
  dsimp only at hl
  obtain ⟨mark, rest⟩ := c
  cases rest with
  | nil => exact hready.finish hl
  | cons d more =>
    have hd := (Text.allBlank_cons.1 hc).1
    have hne (sign : Char) (hsign : isBlank sign = false) : d ≠ sign := ne_of_isBlank hd hsign
    simp only [atDocumentMark_of_isBlank hd, hne '%' rfl, hne '[' rfl, hne '\x7b' rfl, hne ']' rfl,
      hne '\x7d' rfl, hne ',' rfl, hne '-' rfl, hne '?' rfl, hne ':' rfl, hne '*' rfl, hne '&' rfl,
      hne '!' rfl, hne '|' rfl, hne '>' rfl, hne '\'' rfl, hne '"' rfl, decide_false,
      Bool.and_false, Bool.false_and, Bool.false_eq_true, if_false] at hl
    split_ifs at hl
    · exact hready.plainScalar hl
    · cases hl

/-- The tokens of a blank text up to its end or the first fault. -/
theorem IsBare.run (h : l.IsBare) (fuel : Nat) :
    ∀ p ∈ (l.run fuel).tokens, p.token.IsBare := by
  induction fuel generalizing l with
  | zero => exact fun p hp => h.tokens p (List.mem_of_mem_take hp)
  | succ fuel ih =>
    have hsettled : ∀ p ∈ l.settled, p.token.IsBare := fun p hp =>
      h.tokens p (List.mem_of_mem_take hp)
    rw [Lexer.run]
    cases hfresh : l.dropStale with
    | error fault => exact hsettled
    | ok fresh =>
      have hfresh := h.dropStale hfresh
      dsimp only
      split_ifs
      · exact hfresh.tokens
      · cases hnext : fresh.next with
        | error fault => exact fun p hp => hfresh.tokens p (List.mem_of_mem_take hp)
        | ok after => exact ih (hfresh.next hnext)

end Lexer

/-- **A blank text has no sign of a collection** among its tokens. -/
theorem TokenStream.isBare_ofText {text : Text} (h : text.allBlank = true) :
    ∀ p ∈ (TokenStream.ofText text).tokens, p.token.IsBare := by
  unfold TokenStream.ofText
  split
  · exact fun p hp => absurd hp List.not_mem_nil
  · refine Lexer.IsBare.run ⟨?_, ?_⟩ _
    · exact Text.allBlank_of_suffix (Text.dropFirst_suffix _ _) h
    · intro p hp
      obtain rfl := List.mem_singleton.1 hp
      trivial

/-! ## Events -/

/-- The events that a blank text can have. -/
def Event.IsBare : Event → Prop
  | .documentStart | .documentEnd | .streamEnd | .scalar _ _ _ => True
  | _ => False

/-- What may come next in a blank text. -/
def Expectation.IsBare : Expectation → Prop
  | .firstDocument | .document | .documentEnd | .blockNode => True
  | _ => False

namespace EventReader

/-- A reader that will find no collection. -/
structure IsBare (r : EventReader) : Prop where
  tokens : ∀ p ∈ r.tokens, p.token.IsBare
  expected : ∀ e ∈ r.expected, e.IsBare

variable {r r' : EventReader} {p : Placed} {event : Event} {mark : Mark}

theorem IsBare.peek (h : r.IsBare) (hp : r.peek = .ok p) : p.token.IsBare := by
  unfold EventReader.peek at hp
  split at hp
  · next q _ htokens =>
    obtain rfl := Except.ok.inj hp
    exact h.tokens q (htokens ▸ List.mem_cons_self)
  · split at hp
    · cases hp
    · obtain rfl := Except.ok.inj hp
      trivial

theorem IsBare.skip (h : r.IsBare) : r.skip.IsBare :=
  ⟨fun p hp => h.tokens p (List.mem_of_mem_drop hp), h.expected⟩

theorem IsBare.push (h : r.IsBare) (e : Expectation) (he : e.IsBare) : (r.push e).IsBare where
  tokens := h.tokens
  expected f hf := by
    obtain rfl | hf := List.mem_cons.1 hf
    · exact he
    · exact h.expected f hf

theorem IsBare.properties (h : r.IsBare) (hp : r.peek = .ok p) :
    r.properties = .ok (⟨none, none⟩, p.front, r) := by
  have hbare := h.peek hp
  unfold EventReader.properties
  rw [hp]
  obtain ⟨token, front, back⟩ := p
  cases token with
  | anchor name => exact hbare.elim
  | tag handle ending => exact hbare.elim
  | _ => rfl

/-- The only node of a blank text is a scalar. -/
theorem IsBare.node (h : r.IsBare) (hr : r.node true false = .ok (event, mark, r')) :
    event.IsBare ∧ r'.IsBare := by
  obtain ⟨p, hp, -⟩ := bind_eq_ok_iff.1 hr
  have hbare := h.peek hp
  have hprops := h.properties hp
  obtain ⟨token, front, back⟩ := p
  simp only [EventReader.node, hp, hprops, bind, Except.bind] at hr
  cases token with
  | scalar style value =>
    cases hr
    exact ⟨trivial, h.skip⟩
  | streamStart | streamEnd | blockEnd => cases hr
  | _ => exact hbare.elim

theorem IsBare.directives (h : r.IsBare) {seen : Bool} {own : List (Text × Text)} {fuel : Nat}
    (hr : EventReader.directives seen own fuel r = .ok r') : r'.IsBare := by
  cases fuel with
  | zero =>
    obtain rfl := Except.ok.inj hr
    exact h
  | succ fuel =>
    obtain ⟨p, hp, hr⟩ := bind_eq_ok_iff.1 hr
    have hbare := h.peek hp
    obtain ⟨token, front, back⟩ := p
    cases token with
    | version major minor => exact hbare.elim
    | tagDirective handle lead => exact hbare.elim
    | _ =>
      cases hr
      exact ⟨h.tokens, h.expected⟩

theorem IsBare.skipEnds (h : r.IsBare) : r.skipEnds.IsBare :=
  ⟨fun p hp => h.tokens p ((List.dropWhile_suffix _).subset hp), h.expected⟩

theorem IsBare.document (h : r.IsBare) {implicit : Bool}
    (hr : r.document implicit = .ok (event, mark, r')) : event.IsBare ∧ r'.IsBare := by
  unfold EventReader.document at hr
  extract_lets r₁ at hr
  have h₁ : r₁.IsBare := by
    unfold r₁
    split_ifs
    · exact h
    · exact h.skipEnds
  obtain ⟨p, hp, hr⟩ := bind_eq_ok_iff.1 hr
  have hbare := h₁.peek hp
  extract_lets marked at hr
  split at hr
  · cases hr
    exact ⟨trivial, h₁.skip⟩
  split at hr
  · cases hr
    have hknown : IsBare { r₁ with handles := knownHandles } := ⟨h₁.tokens, h₁.expected⟩
    exact ⟨trivial, (hknown.push .documentEnd trivial).push .blockNode trivial⟩
  · obtain ⟨r₂, hr₂, hr⟩ := bind_eq_ok_iff.1 hr
    obtain ⟨q, hq, hr⟩ := bind_eq_ok_iff.1 hr
    have hquiet := (h₁.directives hr₂).peek hq
    split at hr
    · next hstart =>
      rw [hstart] at hquiet
      exact hquiet.elim
    · cases hr

theorem IsBare.documentEnd (h : r.IsBare) (hr : r.documentEnd = .ok (event, mark, r')) :
    event.IsBare ∧ r'.IsBare := by
  obtain ⟨p, hp, hr⟩ := bind_eq_ok_iff.1 hr
  cases hr
  refine ⟨trivial, IsBare.push ?_ .document trivial⟩
  split_ifs
  · exact h.skip
  · exact h

/-- One event of a blank text. -/
theorem IsBare.next (h : r.IsBare) (hr : r.next = .ok (event, mark, r')) :
    event.IsBare ∧ r'.IsBare := by
  unfold EventReader.next at hr
  split at hr
  · cases hr
    exact ⟨trivial, h⟩
  · next e outer hexpected =>
    have he : e.IsBare := h.expected e (hexpected ▸ List.mem_cons_self)
    have hinner : IsBare { r with expected := outer } :=
      ⟨h.tokens, fun f hf => h.expected f (hexpected ▸ List.mem_cons_of_mem e hf)⟩
    cases e with
    | firstDocument => exact hinner.document hr
    | document => exact hinner.document hr
    | documentEnd => exact hinner.documentEnd hr
    | blockNode => exact hinner.node hr
    | _ => exact he.elim

end EventReader

/-! ## Documents -/

/-- The nodes that a blank text can have. -/
def Node.IsBare : Node → Prop
  | .scalar _ _ _ | .void => True
  | _ => False

/-- A document without a collection. -/
def Document.IsBare (doc : Document) : Prop := ∀ n ∈ doc.nodes, n.1.IsBare

/-- A draft that no collection is in. -/
def Draft.IsBare (d : Draft) : Prop := ∀ n ∈ d.nodes, n.1.IsBare

theorem Draft.IsBare.document {d : Draft} (h : d.IsBare) (fault : Option DocumentFault) :
    (d.document fault).IsBare := fun n hn => h n (List.mem_reverse.1 hn)

theorem Draft.IsBare.add {d : Draft} (h : d.IsBare) (of : Properties) (node : Node)
    (hnode : node.IsBare) (mark : Mark) : (d.add of node mark).IsBare := by
  intro n hn
  obtain rfl | hn := List.mem_cons.1 hn
  · exact hnode
  · exact h n hn

/-- Reading on in a blank text finds no collection. -/
theorem Document.isBare_read {first : Bool} {d : Draft} {fuel : Nat} {r : EventReader}
    {doc : Document} (hd : d.IsBare) (hr : r.IsBare)
    (h : (Document.read first d fuel r).1 = some doc) : doc.IsBare := by
  induction fuel generalizing d r with
  | zero =>
    obtain rfl := Option.some.inj h
    exact hd.document none
  | succ fuel ih =>
    rw [Document.read] at h
    cases hnext : r.next with
    | error fault =>
      rw [hnext] at h
      obtain rfl := Option.some.inj h
      exact hd.document _
    | ok found =>
      obtain ⟨event, mark, after⟩ := found
      rw [hnext] at h
      obtain ⟨hevent, hafter⟩ := hr.next hnext
      cases event with
      | documentStart => exact ih hd hafter h
      | documentEnd =>
        obtain rfl := Option.some.inj h
        exact hd.document none
      | streamEnd =>
        dsimp only at h
        split_ifs at h
        · obtain rfl := Option.some.inj h
          intro n hn
          obtain rfl := List.mem_singleton.1 hn
          trivial
        · obtain rfl := Option.some.inj h
          exact hd.document none
      | scalar props style value =>
        exact ih (hd.add props (.scalar props.tag style value) trivial mark) hafter h
      | _ => exact hevent.elim

/-- **A blank text has no collection.** -/
theorem Document.isBare_ofText {text : Text} (h : text.allBlank = true) :
    (Document.ofText text).1.IsBare := by
  have hreader : (EventReader.start (TokenStream.ofText text)).IsBare := by
    refine ⟨fun p hp => TokenStream.isBare_ofText h p (List.mem_of_mem_drop hp), fun e he => ?_⟩
    obtain rfl := List.mem_singleton.1 he
    trivial
  have hdraft : Draft.IsBare ⟨[], []⟩ := fun n hn => absurd hn List.not_mem_nil
  unfold Document.ofText
  extract_lets stream fuel
  split
  · exact fun n hn => absurd hn List.not_mem_nil
  · next document hread =>
    exact Document.isBare_read hdraft hreader (congrArg Prod.fst hread)
  · next document r hread =>
    exact Document.isBare_read hdraft hreader (congrArg Prod.fst hread)

end Yaml

end Marginalia
