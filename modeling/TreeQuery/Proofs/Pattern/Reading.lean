import TreeQuery.Proofs.Integer.Numerals
import TreeQuery.Proofs.Pattern.Grammar
import TreeQuery.Proofs.Pattern.Written

/-!
# Reading patterns with faults

Any text can be read as a pattern, piece by piece, up to the first place where a pattern ends (`Reads`).
The reading does not stop at faults: a closing brace without an opening one is a piece, and so are a
caret with nothing after it and a group that is not closed, which take all that is left of the text.
There is exactly one such reading (`exists_reads`, `Reads.unique`).

Its pieces tell the faults of the text, in the order in which they are noticed from the left
(`faultsFrom`), and the scanner reports the first of them. A text without faults is taken up to the
place where the reading ends, and its pieces tell the items of the pattern (`itemsOf`). Then only the
regular expression of a verbatim group can still be refused (`compile_reads`).
-/

namespace TreeQuery

/-! ## Two dots -/

namespace Text

theorem eq_of_cutAtDots? {t a b : Text} (h : cutAtDots? t = some (a, b)) :
    t = a ++ '.' :: '.' :: b := by
  fun_induction cutAtDots? t generalizing a b with
  | case1 => cases h
  | case2 rest =>
    cases h
    rfl
  | case3 c rest _ ih =>
    obtain ⟨⟨a', b'⟩, hcut, he⟩ := Option.map_eq_some_iff.1 h
    obtain ⟨rfl, rfl⟩ := Prod.mk.inj he
    rw [ih hcut]
    rfl

/-- Where the first part has no dot, the cut is at the first two dots. -/
theorem cutAtDots?_append {a : Text} (ha : '.' ∉ a) (b : Text) :
    cutAtDots? (a ++ '.' :: '.' :: b) = some (a, b) := by
  induction a with
  | nil => rfl
  | cons c a ih =>
    rw [List.mem_cons, not_or] at ha
    rw [List.cons_append, cutAtDots?, ih ha.2]
    · rfl
    · rintro rest rfl
      exact absurd rfl ha.1

end Text

namespace Integer

theorem not_mem_dot_of_isSigned {t : Text} {i : Int} (h : IsSigned t i) : '.' ∉ t := by
  have hdigits {digits : Text} (h : ∀ d ∈ digits, d.isDigit) : '.' ∉ digits := fun hm =>
    absurd (h '.' hm) (by decide)
  cases h with
  | numeral h =>
    cases h with
    | positive _ h => exact hdigits h
    | negative _ h => simpa using hdigits h
  | plus _ h => simpa using hdigits h

end Integer

namespace Pattern

/-! ## Ranges -/

/-- The texts of bounds: nothing, or an integer with an optional sign that fits into 64 bits. -/
def IsBound (t : Text) : Prop :=
  t = [] ∨ ∃ i, Integer.IsSigned t i ∧ Integer.least ≤ i ∧ i ≤ Integer.greatest

theorem isSome_bound?_iff {unbounded : Int} {t : Text} :
    (NumericRange.bound? unbounded t).isSome ↔ IsBound t := by
  unfold IsBound
  cases t with
  | nil => simp [NumericRange.bound?]
  | cons c t =>
    rw [NumericRange.bound?, Option.isSome_iff_exists]
    · simp [Integer.read?_eq_some_iff]
    · simp

theorem IsBound.not_mem_dot {t : Text} (h : IsBound t) : '.' ∉ t := by
  rcases h with rfl | ⟨i, hi, -⟩
  · exact List.not_mem_nil
  · exact Integer.not_mem_dot_of_isSigned hi

/-- The bodies of groups that stand for numeric ranges: a number sign and two bounds around two
dots. -/
def SpellsRange (body : Text) : Prop :=
  ∃ least greatest, body = '#' :: (least ++ '.' :: '.' :: greatest) ∧ IsBound least ∧
    IsBound greatest

theorem spellsRange_iff {body : Text} :
    SpellsRange body ↔ body.head? = some '#' ∧ (NumericRange.ofText? body.tail).isSome := by
  unfold NumericRange.ofText?
  constructor
  · rintro ⟨l, g, rfl, hl, hg⟩
    obtain ⟨least, hleast⟩ := Option.isSome_iff_exists.1 (isSome_bound?_iff.2 hl)
    obtain ⟨greatest, hgreatest⟩ := Option.isSome_iff_exists.1 (isSome_bound?_iff.2 hg)
    refine ⟨rfl, ?_⟩
    rw [List.tail_cons, Text.cutAtDots?_append hl.not_mem_dot]
    exact Option.isSome_of_eq_some (Option.bind_eq_some_iff.2 ⟨_, rfl,
      Option.bind_eq_some_iff.2 ⟨least, hleast,
        Option.bind_eq_some_iff.2 ⟨greatest, hgreatest, rfl⟩⟩⟩)
  · rintro ⟨hhead, h⟩
    obtain ⟨bounds, rfl⟩ := List.head?_eq_some_iff.1 hhead
    obtain ⟨range, h⟩ := Option.isSome_iff_exists.1 h
    obtain ⟨⟨l, g⟩, hcut, h⟩ := Option.bind_eq_some_iff.1 h
    obtain ⟨least, hl, h⟩ := Option.bind_eq_some_iff.1 h
    obtain ⟨greatest, hg, -⟩ := Option.bind_eq_some_iff.1 h
    exact ⟨l, g, congrArg (List.cons '#') (Text.eq_of_cutAtDots? hcut),
      isSome_bound?_iff.1 (Option.isSome_of_eq_some hl),
      isSome_bound?_iff.1 (Option.isSome_of_eq_some hg)⟩

instance : DecidablePred SpellsRange := fun _ => decidable_of_iff _ spellsRange_iff.symm

/-- Whether a body begins with a number sign but stands for no numeric range. -/
def IsBadRange (body : Text) : Prop := body.head? = some '#' ∧ ¬SpellsRange body

instance (body : Text) : Decidable (IsBadRange body) :=
  inferInstanceAs (Decidable (body.head? = some '#' ∧ ¬SpellsRange body))

theorem groupItem_of_isBadRange {body : Text} (h : IsBadRange body) (opened : Text) :
    groupItem opened body = .error ⟨opened, .range body⟩ := by
  obtain ⟨hhead, hbad⟩ := h
  obtain ⟨bounds, rfl⟩ := List.head?_eq_some_iff.1 hhead
  rw [groupItem]
  cases hrange : NumericRange.ofText? bounds with
  | none => rfl
  | some range =>
    have hspells : SpellsRange ('#' :: bounds) :=
      spellsRange_iff.2 ⟨rfl, Option.isSome_of_eq_some hrange⟩
    exact absurd hspells hbad

theorem exists_groupItem {body : Text} (h : ¬IsBadRange body) (opened : Text) :
    ∃ item, groupItem opened body = .ok item := by
  unfold groupItem
  split
  · next bounds =>
    have hrange : SpellsRange ('#' :: bounds) := by
      by_contra hbad
      exact h ⟨rfl, hbad⟩
    obtain ⟨range, hrange⟩ := Option.isSome_iff_exists.1 (spellsRange_iff.1 hrange).2
    rw [List.tail_cons] at hrange
    rw [hrange]
    exact ⟨.range range, rfl⟩
  · exact ⟨.group body, rfl⟩

/-! ## Groups that are not closed -/

/-- The texts that run from inside a group, `depth` inner braces being open, to the end of the text
without closing it. They may leave a caret dangling at the end. -/
inductive OpenText : (depth : Nat) → Text → (dangling : Bool) → Prop
  | nil {depth : Nat} : OpenText depth [] false
  | caret {depth : Nat} : OpenText depth ['^'] true
  | closeInner {depth : Nat} {s : Text} {dangling : Bool} :
    OpenText depth s dangling → OpenText (depth + 1) ('}' :: s) dangling
  | openInner {depth : Nat} {s : Text} {dangling : Bool} :
    OpenText (depth + 1) s dangling → OpenText depth ('{' :: s) dangling
  | escape {depth : Nat} {s : Text} {dangling : Bool} (c : Char) :
    OpenText depth s dangling → OpenText depth ('^' :: c :: s) dangling
  | plain {depth : Nat} {c : Char} {s : Text} {dangling : Bool} :
    c ≠ '{' → c ≠ '}' → c ≠ '^' → OpenText depth s dangling → OpenText depth (c :: s) dangling

/-- A caret at the end is noticed on the way, the missing brace only at the end. -/
def openFault (opened : Text) (dangling : Bool) : Fault :=
  if dangling then ⟨['^'], .trailingEscape⟩ else ⟨opened, .unbalancedBraces⟩

theorem groupBody_of_openText {opened : Text} {depth : Nat} {t : Text} {dangling : Bool}
    (h : OpenText depth t dangling) :
    groupBody opened depth t = .error (openFault opened dangling) := by
  induction h with
  | nil => rw [groupBody]; rfl
  | caret => rw [groupBody]; rfl
  | closeInner _ ih | openInner _ ih | escape _ _ ih => rw [groupBody, ih]; rfl
  | plain ho hc he _ ih => rw [groupBody_plain ho hc he, ih]; rfl

/-- A group is closed somewhere in a text, or it is open up to the end. -/
theorem groupText_or_openText (depth : Nat) (t : Text) :
    (∃ g body rest, t = g ++ rest ∧ GroupText depth g body) ∨ ∃ dangling, OpenText depth t dangling := by
  induction depth, t using groupInduction with
  | nil => exact .inr ⟨false, .nil⟩
  | close rest => exact .inl ⟨['}'], [], rest, rfl, .close⟩
  | closeInner depth rest ih =>
    rcases ih with ⟨g, body, rest', rfl, hg⟩ | ⟨dangling, ho⟩
    · exact .inl ⟨'}' :: g, _, rest', rfl, .closeInner hg⟩
    · exact .inr ⟨dangling, .closeInner ho⟩
  | openInner depth rest ih =>
    rcases ih with ⟨g, body, rest', rfl, hg⟩ | ⟨dangling, ho⟩
    · exact .inl ⟨'{' :: g, _, rest', rfl, .openInner hg⟩
    · exact .inr ⟨dangling, .openInner ho⟩
  | caret => exact .inr ⟨true, .caret⟩
  | escape depth c rest ih =>
    rcases ih with ⟨g, body, rest', rfl, hg⟩ | ⟨dangling, ho⟩
    · exact .inl ⟨'^' :: c :: g, _, rest', rfl, .escape c hg⟩
    · exact .inr ⟨dangling, .escape c ho⟩
  | plain depth c rest ho hc he ih =>
    rcases ih with ⟨g, body, rest', rfl, hg⟩ | ⟨dangling, hdangling⟩
    · exact .inl ⟨c :: g, _, rest', rfl, .plain ho hc he hg⟩
    · exact .inr ⟨dangling, .plain ho hc he hdangling⟩

/-! ## Readings -/

/-- A piece of a text that is read as a pattern, faults and all. -/
inductive Piece where
  | plain (c : Char)
  /-- A caret and the character after it. -/
  | escape (c : Char)
  /-- A group: the text after its opening brace, and the body that it spells. -/
  | group (inner body : Text)
  /-- A closing brace outside groups. -/
  | stray
  /-- A caret at the end of the text. -/
  | caret
  /-- A group that is not closed: the text after its opening brace, and whether a caret dangles at the
  end. -/
  | unclosed (inner : Text) (dangling : Bool)

namespace Piece

/-- The text that a piece takes. -/
def text : Piece → Text
  | plain c => [c]
  | escape c => ['^', c]
  | group inner _ => '{' :: inner
  | stray => ['}']
  | caret => ['^']
  | unclosed inner _ => '{' :: inner

/-- The faults of a piece that begins at an offset, in the order in which they are noticed. -/
def faults (start : Nat) : Piece → List (Nat × Malformation)
  | plain _ | escape _ => []
  | group _ body => if IsBadRange body then [(start, .range body)] else []
  | stray => [(start, .unbalancedBraces)]
  | caret => [(start, .trailingEscape)]
  | unclosed inner dangling =>
    -- the dangling caret is the last byte of the piece, which begins with the byte of the brace
    (if dangling then [(start + inner.byteLength, .trailingEscape)] else []) ++
      [(start, .unbalancedBraces)]

/-- The item that a piece stands for, if it has no fault. -/
def item? : Piece → Option Item
  | plain c => some (if c = '*' then .star else .char c)
  | escape c => some (.char c)
  | group _ body => (groupItem [] body).toOption
  | stray | caret | unclosed _ _ => none

end Piece

/-- The text that some pieces take. -/
def textOf (pieces : List Piece) : Text := pieces.flatMap Piece.text

@[simp] theorem textOf_nil : textOf [] = [] := rfl

@[simp] theorem textOf_cons (piece : Piece) (pieces : List Piece) :
    textOf (piece :: pieces) = piece.text ++ textOf pieces := rfl

/-- The faults of the pieces from an offset on, with their own offsets, in the order in which they are
noticed. -/
def faultsFrom (start : Nat) : List Piece → List (Nat × Malformation)
  | [] => []
  | piece :: pieces => piece.faults start ++ faultsFrom (start + piece.text.byteLength) pieces

/-- The items that pieces without faults stand for. -/
def itemsOf (pieces : List Piece) : List Item := pieces.filterMap Piece.item?

theorem itemsOf_cons {piece : Piece} {item : Item} (h : piece.item? = some item)
    (pieces : List Piece) : itemsOf (piece :: pieces) = item :: itemsOf pieces :=
  List.filterMap_cons_some h

example : faultsFrom 0 [.plain 'a', .unclosed "b^".toList true] =
    [(3, .trailingEscape), (1, .unbalancedBraces)] := by
  decide

/-- A text is read piece by piece up to the first place where a pattern ends. -/
inductive Reads (stopAtEquals : Bool) : Text → List Piece → (rest : Text) → Prop
  | ends {t : Text} : endsPattern stopAtEquals t = true → Reads stopAtEquals t [] t
  | plain {c : Char} {t rest : Text} {pieces : List Piece} :
    c ≠ '{' → c ≠ '}' → c ≠ '^' → endsPattern stopAtEquals (c :: t) = false →
      Reads stopAtEquals t pieces rest → Reads stopAtEquals (c :: t) (.plain c :: pieces) rest
  | escape {t rest : Text} {pieces : List Piece} (c : Char) :
    Reads stopAtEquals t pieces rest →
      Reads stopAtEquals ('^' :: c :: t) (.escape c :: pieces) rest
  | group {g body t rest : Text} {pieces : List Piece} :
    GroupText 0 g body → Reads stopAtEquals t pieces rest →
      Reads stopAtEquals ('{' :: (g ++ t)) (.group g body :: pieces) rest
  | stray {t rest : Text} {pieces : List Piece} :
    Reads stopAtEquals t pieces rest → Reads stopAtEquals ('}' :: t) (.stray :: pieces) rest
  | caret : Reads stopAtEquals ['^'] [.caret] []
  | unclosed {t : Text} {dangling : Bool} :
    OpenText 0 t dangling → Reads stopAtEquals ('{' :: t) [.unclosed t dangling] []

variable {stop : Bool} {t rest : Text} {pieces : List Piece}

theorem Reads.eq_append (h : Reads stop t pieces rest) : t = textOf pieces ++ rest := by
  induction h with
  | ends | caret => rfl
  | plain _ _ _ _ _ ih | escape _ _ ih | stray _ ih =>
    rw [ih]
    rfl
  | group _ _ ih =>
    rw [ih]
    simp [Piece.text]
  | unclosed => simp [Piece.text]

theorem Reads.endsPattern_rest (h : Reads stop t pieces rest) : endsPattern stop rest = true := by
  induction h with
  | ends h => exact h
  | caret | unclosed => rfl
  | plain _ _ _ _ _ ih | escape _ _ ih | group _ _ ih | stray _ ih => exact ih

/-- Every text can be read. -/
theorem exists_reads (stop : Bool) (t : Text) : ∃ pieces rest, Reads stop t pieces rest := by
  induction hn : t.length using Nat.strongRecOn generalizing t with
  | ind n ih =>
    subst hn
    cases hend : endsPattern stop t with
    | true => exact ⟨[], t, .ends hend⟩
    | false =>
      match t, hend with
      | c :: t, hend =>
        by_cases ho : c = '{'
        · subst ho
          rcases groupText_or_openText 0 t with ⟨g, body, t, rfl, hg⟩ | ⟨dangling, ho⟩
          · have hlt : t.length < ('{' :: (g ++ t)).length := by
              rw [List.length_cons, List.length_append]
              omega
            obtain ⟨pieces, rest, h⟩ := ih _ hlt t rfl
            exact ⟨.group g body :: pieces, rest, .group hg h⟩
          · exact ⟨[.unclosed t dangling], [], .unclosed ho⟩
        by_cases he : c = '^'
        · subst he
          match t with
          | [] => exact ⟨[.caret], [], .caret⟩
          | c :: t =>
            obtain ⟨pieces, rest, h⟩ := ih t.length (Nat.lt_add_of_pos_right Nat.two_pos) t rfl
            exact ⟨.escape c :: pieces, rest, .escape c h⟩
        obtain ⟨pieces, rest, h⟩ := ih t.length (Nat.lt_succ_self _) t rfl
        by_cases hc : c = '}'
        · subst hc
          exact ⟨.stray :: pieces, rest, .stray h⟩
        · exact ⟨.plain c :: pieces, rest, .plain ho hc he hend h⟩

/-- There is one way only to read a group. -/
theorem GroupText.append_inj {g g' body body' t t' : Text} (hg : GroupText 0 g body)
    (hg' : GroupText 0 g' body') (h : g ++ t = g' ++ t') : g = g' ∧ body = body' ∧ t = t' := by
  have hread : groupBody [] 0 (g ++ t) = .ok (body, t) := groupBody_append hg t
  rw [h, groupBody_append hg' t'] at hread
  obtain ⟨rfl, rfl⟩ := Prod.mk.inj (Except.ok.inj hread)
  exact ⟨List.append_cancel_right h, rfl, rfl⟩

/-- A text that is open up to its end does not begin with a whole group. -/
theorem OpenText.not_groupText {g body t : Text} {dangling : Bool} (ho : OpenText 0 (g ++ t) dangling)
    (hg : GroupText 0 g body) : False := by
  have hread : groupBody [] 0 (g ++ t) = _ := groupBody_of_openText ho
  rw [groupBody_append hg t] at hread
  cases hread

theorem OpenText.dangling_unique {t : Text} {dangling dangling' : Bool} (h : OpenText 0 t dangling)
    (h' : OpenText 0 t dangling') : dangling = dangling' := by
  have hread : groupBody [] 0 t = _ := groupBody_of_openText h
  rw [groupBody_of_openText h'] at hread
  cases dangling <;> cases dangling' <;> simp_all [openFault]

/-- A text with an opening brace in front is read as a group and what follows it, or as a group that
is not closed. -/
theorem Reads.brace_cases (h : Reads stop ('{' :: t) pieces rest) :
    (∃ g body t' pieces', t = g ++ t' ∧ pieces = .group g body :: pieces' ∧ GroupText 0 g body ∧
      Reads stop t' pieces' rest) ∨
    ∃ dangling, pieces = [.unclosed t dangling] ∧ rest = [] ∧ OpenText 0 t dangling := by
  cases h with
  | group hg h => exact .inl ⟨_, _, _, _, rfl, rfl, hg, h⟩
  | unclosed ho => exact .inr ⟨_, rfl, rfl, ho⟩
  | ends hend => simp [endsPattern] at hend
  | plain => contradiction

/-- There is one way only to read a text. -/
theorem Reads.unique {rest' : Text} {pieces' : List Piece} (h : Reads stop t pieces rest)
    (h' : Reads stop t pieces' rest') : pieces = pieces' ∧ rest = rest' := by
  induction h generalizing pieces' rest' with
  | ends hend =>
    cases h' with
    | ends => exact ⟨rfl, rfl⟩
    | plain _ _ _ hend' => simp_all
    | escape | group | stray | caret | unclosed => simp [endsPattern] at hend
  | plain ho hc he hend _ ih =>
    cases h' with
    | plain _ _ _ _ h' =>
      obtain ⟨rfl, rfl⟩ := ih h'
      exact ⟨rfl, rfl⟩
    | ends hend' => simp_all
    | escape | group | stray | caret | unclosed => contradiction
  | escape c _ ih =>
    cases h' with
    | escape _ h' =>
      obtain ⟨rfl, rfl⟩ := ih h'
      exact ⟨rfl, rfl⟩
    | ends hend => simp [endsPattern] at hend
    | plain => contradiction
  | stray _ ih =>
    cases h' with
    | stray h' =>
      obtain ⟨rfl, rfl⟩ := ih h'
      exact ⟨rfl, rfl⟩
    | ends hend => simp [endsPattern] at hend
    | plain => contradiction
  | caret =>
    cases h' with
    | caret => exact ⟨rfl, rfl⟩
    | ends hend => simp [endsPattern] at hend
    | plain => contradiction
  | group hg _ ih =>
    rcases h'.brace_cases with ⟨g', body', t', pieces', ht, rfl, hg', h'⟩ | ⟨_, _, _, ho⟩
    · obtain ⟨rfl, rfl, rfl⟩ := hg.append_inj hg' ht
      obtain ⟨rfl, rfl⟩ := ih h'
      exact ⟨rfl, rfl⟩
    · exact (ho.not_groupText hg).elim
  | unclosed ho =>
    rcases h'.brace_cases with ⟨g', body', t', pieces', rfl, _, hg', _⟩ | ⟨_, rfl, rfl, ho'⟩
    · exact (ho.not_groupText hg').elim
    · obtain rfl := ho.dangling_unique ho'
      exact ⟨rfl, rfl⟩

/-! ## What the scanner says -/

/-- Whether the scanner, on a text that begins at an offset, reports the first of some faults, or takes
the text up to the rest as some items if there is none. -/
def Answers (start : Nat) (t rest : Text) (items : List Item)
    (result : Except Fault (List Item × Text)) : List (Nat × Malformation) → Prop
  | [] => result = .ok (items, rest)
  | (offset, cause) :: _ =>
    ∃ left, result = .error ⟨left, cause⟩ ∧ offset + left.byteLength = start + t.byteLength

/-- A piece in front that only adds an item leaves the answer as it is. -/
theorem Answers.cons {start : Nat} {t rest : Text} {items : List Item}
    {result : Except Fault (List Item × Text)} {faults : List (Nat × Malformation)} {s : Text}
    (h : Answers (start + s.byteLength) t rest items result faults) (item : Item) :
    Answers start (s ++ t) rest (item :: items)
      (result.map fun (items, rest) => (item :: items, rest)) faults := by
  match faults, h with
  | [], h =>
    rw [show result = _ from h]
    rfl
  | _ :: _, ⟨left, h, hoffset⟩ =>
    refine ⟨left, by rw [h]; rfl, ?_⟩
    rw [hoffset, Text.byteLength_append]
    omega

theorem isSpecial_eq_false {c : Char} (hs : c ≠ '*') (ho : c ≠ '{') (hc : c ≠ '}') (he : c ≠ '^')
    (hend : endsPattern stop (c :: t) = false) : isSpecial c = false := by
  simp only [endsPattern, Bool.or_eq_false_iff, decide_eq_false_iff_not] at hend
  simp only [isSpecial, List.contains_cons, List.contains_nil, Bool.or_false, Bool.or_eq_false_iff,
    beq_eq_false_iff_ne]
  exact ⟨hs, hend.1.1, hend.1.2, ho, hc, he⟩

theorem stop_eq_false {c : Char} (hend : endsPattern stop (c :: t) = false) :
    (stop && c = '=') = false :=
  (Bool.or_eq_false_iff.1 hend).2

theorem scan_plain_piece {c : Char} (ho : c ≠ '{') (hc : c ≠ '}') (he : c ≠ '^')
    (hend : endsPattern stop (c :: t) = false) :
    scan stop (c :: t) = (scan stop t).map fun (items, rest) =>
      ((if c = '*' then .star else .char c) :: items, rest) := by
  by_cases hs : c = '*'
  · subst hs
    rw [scan]
    rfl
  · rw [scan_plain (isSpecial_eq_false hs ho hc he hend) (stop_eq_false hend), if_neg hs]

theorem scan_of_groupBody_error {fault : Fault} (hg : groupBody ('{' :: t) 0 t = .error fault) :
    scan stop ('{' :: t) = .error fault := by
  rw [scan]
  split <;> simp_all

theorem scan_of_groupItem_error {body : Text} {fault : Fault}
    (hg : groupBody ('{' :: t) 0 t = .ok (body, rest))
    (hi : groupItem ('{' :: t) body = .error fault) : scan stop ('{' :: t) = .error fault := by
  rw [scan]
  split
  · simp_all
  · next body' rest' hg' =>
    obtain ⟨rfl, rfl⟩ := Prod.mk.inj (Except.ok.inj (hg.symm.trans hg'))
    simp only [hi]

/-- **The scanner stops at the first fault of the reading**, or takes its items. -/
theorem answers_of_reads (h : Reads stop t pieces rest) (start : Nat) :
    Answers start t rest (itemsOf pieces) (scan stop t) (faultsFrom start pieces) := by
  induction h generalizing start with
  | ends hend => exact scan_of_endsPattern hend
  | plain ho hc he hend _ ih =>
    rw [scan_plain_piece ho hc he hend]
    exact (ih _).cons _
  | escape c _ ih =>
    rw [scan]
    exact (ih _).cons (.char c)
  | @group g body t _ _ hg _ ih =>
    have hbody : groupBody ('{' :: (g ++ t)) 0 (g ++ t) = .ok (body, t) := groupBody_append hg t
    by_cases hbad : IsBadRange body
    · rw [scan_of_groupItem_error hbody (groupItem_of_isBadRange hbad _), faultsFrom,
        Piece.faults, if_pos hbad]
      exact ⟨_, rfl, rfl⟩
    · obtain ⟨item, hitem⟩ := exists_groupItem hbad ('{' :: (g ++ t))
      have hpiece : (Piece.group g body).item? = some item := by
        rw [Piece.item?, groupItem_congr hitem]
        rfl
      rw [scan_group hbody hitem, faultsFrom, Piece.faults, if_neg hbad, itemsOf_cons hpiece]
      exact (ih _).cons item
  | stray => exact ⟨_, by rw [scan], rfl⟩
  | caret => exact ⟨_, by rw [scan], rfl⟩
  | @unclosed t dangling ho =>
    rw [scan_of_groupBody_error (groupBody_of_openText ho)]
    cases dangling with
    | false => exact ⟨_, rfl, rfl⟩
    | true =>
      refine ⟨['^'], rfl, ?_⟩
      have hbrace : Char.utf8Size '{' = 1 := rfl
      have hcaret : Char.utf8Size '^' = 1 := rfl
      simp only [Text.byteLength_cons, Text.byteLength_nil, hbrace, hcaret]
      omega

/-! ## Patterns -/

/-- The first fault is reported at its offset in the whole text. -/
theorem compile_of_faults {before part : Text} {offset : Nat} {cause : Malformation}
    {more : List (Nat × Malformation)} (h : Reads stop part pieces rest)
    (hfaults : faultsFrom before.byteLength pieces = (offset, cause) :: more) :
    compile (before ++ part) part stop = .error (.malformed (before ++ part) offset cause) := by
  have hanswers := answers_of_reads h before.byteLength
  rw [hfaults] at hanswers
  obtain ⟨left, hscan, hoffset⟩ := hanswers
  have hplace : (before ++ part).byteLength - left.byteLength = offset := by
    rw [Text.byteLength_append]
    omega
  unfold compile
  rw [hscan]
  dsimp only
  rw [Error.malformedAt, hplace]

/-- Without faults, what was read is a pattern, if the regular expression of its items can be read. -/
theorem compile_of_faultless {part : Text} (h : Reads stop part pieces rest) {start : Nat}
    (hfaults : faultsFrom start pieces = []) (text : Text) :
    compile text part stop =
      ((exprOfItems (itemsOf pieces)).mapError (.badPattern (textOf pieces))).map fun expr =>
        ⟨⟨textOf pieces, expr, rangesOf (itemsOf pieces)⟩, rest⟩ := by
  have hscan := answers_of_reads h start
  rw [hfaults] at hscan
  have hsource : part.take (part.length - rest.length) = textOf pieces := by
    rw [h.eq_append]
    simp
  unfold compile
  rw [show scan stop part = _ from hscan]
  dsimp only
  rw [hsource]
  cases exprOfItems (itemsOf pieces) <;> rfl

/-- **A pattern is refused for the first fault before its end, and else it goes up to its end.** For a
text that is read from the end of `before` on there is exactly one reading. If the reading has faults,
the first of them is reported at its offset in the whole text, and there is no other way to such a
report. Without faults, what was read is the pattern, and what is left begins where a pattern ends. It is
refused exactly when the regular expression of its items is, for which there has to be a verbatim
group. -/
theorem compile_reads (before part : Text) (stop : Bool) :
    ∃ pieces rest,
      (∀ pieces' rest', Reads stop part pieces' rest' ↔ pieces' = pieces ∧ rest' = rest) ∧
      part = textOf pieces ++ rest ∧ endsPattern stop rest = true ∧
      (∀ text offset cause, compile (before ++ part) part stop = .error (.malformed text offset cause) ↔
        text = before ++ part ∧
          (faultsFrom before.byteLength pieces).head? = some (offset, cause)) ∧
      (∀ source cause, compile (before ++ part) part stop = .error (.badPattern source cause) ↔
        faultsFrom before.byteLength pieces = [] ∧ source = textOf pieces ∧
          exprOfItems (itemsOf pieces) = .error cause) ∧
      (∀ p rest', compile (before ++ part) part stop = .ok ⟨p, rest'⟩ ↔
        faultsFrom before.byteLength pieces = [] ∧ rest' = rest ∧ p.source = textOf pieces ∧
          p.ranges = rangesOf (itemsOf pieces) ∧ exprOfItems (itemsOf pieces) = .ok p.expr) ∧
      (hasGroup (itemsOf pieces) = false → ∃ e, exprOfItems (itemsOf pieces) = .ok e) := by
  obtain ⟨pieces, rest, h⟩ := exists_reads stop part
  have honly (pieces' : List Piece) (rest' : Text) :
      Reads stop part pieces' rest' ↔ pieces' = pieces ∧ rest' = rest := by
    constructor
    · exact fun h' => h'.unique h
    · rintro ⟨rfl, rfl⟩
      exact h
  refine ⟨pieces, rest, honly, h.eq_append, h.endsPattern_rest, ?_⟩
  have hplain : hasGroup (itemsOf pieces) = false → ∃ e, exprOfItems (itemsOf pieces) = .ok e :=
    fun hg => ⟨_, exprOfItems_eq hg⟩
  cases hfaults : faultsFrom before.byteLength pieces with
  | cons fault more =>
    rw [compile_of_faults h hfaults]
    refine ⟨fun text offset cause => ?_, ?_, ?_, hplain⟩
    · simp [Prod.ext_iff, and_comm, eq_comm]
    · simp
    · simp
  | nil =>
    cases hexpr : exprOfItems (itemsOf pieces) with
    | error cause =>
      have hcompile : compile (before ++ part) part stop =
          .error (.badPattern (textOf pieces) cause) := by
        rw [compile_of_faultless h hfaults, hexpr]
        rfl
      rw [hcompile]
      exact ⟨by simp, by simp [eq_comm], by simp, hexpr ▸ hplain⟩
    | ok expr =>
      have hcompile : compile (before ++ part) part stop =
          .ok ⟨⟨textOf pieces, expr, rangesOf (itemsOf pieces)⟩, rest⟩ := by
        rw [compile_of_faultless h hfaults, hexpr]
        rfl
      rw [hcompile]
      refine ⟨by simp, by simp, fun p rest' => ?_, hexpr ▸ hplain⟩
      constructor
      · rintro ⟨⟩
        exact ⟨rfl, rfl, rfl, rfl, rfl⟩
      · rintro ⟨-, rfl, hsource, hranges, ⟨⟩⟩
        rw [← hsource, ← hranges]

theorem compile_reads_up_to_equals :
    ∃ p, compile "x|a^*\x7b#1..2\x7d=y".toList "a^*\x7b#1..2\x7d=y".toList true = .ok ⟨p, "=y".toList⟩ ∧
      p.source = "a^*\x7b#1..2\x7d".toList ∧ p.ranges = [⟨1, 2⟩] := by
  obtain ⟨pieces, rest, honly, -, -, -, -, hok, hexpr⟩ :=
    compile_reads "x|".toList "a^*\x7b#1..2\x7d=y".toList true
  have hgroup : GroupText 0 "#1..2\x7d".toList "#1..2".toList := by
    repeat refine .plain (by decide) (by decide) (by decide) ?_
    exact .close
  obtain ⟨rfl, rfl⟩ := (honly
    [.plain 'a', .escape '*', .group "#1..2\x7d".toList "#1..2".toList] "=y".toList).1
    (.plain (by decide) (by decide) (by decide) rfl (.escape '*' (.group hgroup (.ends rfl))))
  obtain ⟨expr, hexpr⟩ := hexpr rfl
  exact ⟨⟨"a^*\x7b#1..2\x7d".toList, expr, [⟨1, 2⟩]⟩,
    (hok _ _).2 ⟨by decide, rfl, rfl, rfl, hexpr⟩, rfl, rfl⟩

end Pattern

end TreeQuery
