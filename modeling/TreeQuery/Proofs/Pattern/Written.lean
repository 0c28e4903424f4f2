import TreeQuery.Pattern
import TreeQuery.Proofs.Regex.SelfContained

/-!
# Patterns as regular expressions

A pattern is written down as a regular expression, and what it matches is decided by how that text is
read. Without verbatim groups each item is read as one part, whatever stands around it: an escaped
character as that character, a star as any characters, line breaks too, and a numeric range as digits
with an optional sign under a name of its own.

* `parse_written` — the items are read as their parts, one after the other, between the ends of the text
* `exprOfItems_eq` — and so the expression of a pattern is the one that its items mean
-/

namespace TreeQuery

namespace Regex

/-! ## Meanings of parts -/

/-- Parts mean what the first means and then what the others mean under the flags after it. -/
theorem Ast.meaningOfParts_cons {modes modes₁ modes₂ : Modes} {part : Ast} {parts : List Ast}
    {first second : Expr} (hpart : part.meaning modes = .ok (first, modes₁))
    (hparts : Ast.meaningOfParts modes₁ parts = .ok (second, modes₂)) :
    Ast.meaningOfParts modes (part :: parts) = .ok (.seq first second, modes₂) := by
  rw [Ast.meaningOfParts, hpart]
  show (Ast.meaningOfParts modes₁ parts).bind _ = _
  rw [hparts]
  rfl

@[simp] theorem Ast.meaningOfParts_nil (modes : Modes) :
    Ast.meaningOfParts modes [] = .ok (.empty, modes) := by
  rw [Ast.meaningOfParts]

theorem Ast.meaning_literal (c : Char) :
    Ast.meaning {} (.literal { char := c }) = .ok (.one fun d => d = c, {}) := by
  rw [Ast.meaning]
  rfl

theorem Ast.meaning_anchor (modes : Modes) (a : Anchor) :
    Ast.meaning modes (.anchor a) = .ok (.assertion (a.meaning modes), modes) := by
  rw [Ast.meaning]

/-- A group means what is in it, read with the flags of the group. The flags end with it. -/
theorem Ast.meaning_group {modes modes' : Modes} {items : List FlagItem} {body : Ast} {e : Expr}
    (h : body.meaning (modes.take true items) = .ok (e, modes')) :
    Ast.meaning modes (.group (.plain items) body) = .ok (e, modes) := by
  rw [Ast.meaning]
  show (body.meaning _).bind _ = _
  rw [h]
  rfl

theorem Ast.meaning_capture {modes modes' : Modes} {name : Text} {body : Ast} {e : Expr}
    (h : body.meaning modes = .ok (e, modes')) :
    Ast.meaning modes (.group (.capture (some name)) body) = .ok (.capture name e, modes) := by
  rw [Ast.meaning]
  show (body.meaning _).bind _ = _
  rw [h]
  rfl

end Regex

open Regex (Expr Ast Cursor Assertion)
open Regex.Parser

namespace Regex.Parser

theorem takeSkipping_of_not {accepts : Char → Bool} {c : Char} (h : accepts c = false)
    (ignoring : Bool) (t : Text) : takeSkipping ignoring accepts (c :: t) = ([], c :: t) := by
  rw [takeSkipping, h]
  rfl

end Regex.Parser

namespace Pattern

/-! ## Items as parts of an expression -/

/-- The index of the numeric range that comes next behind an item. -/
def Item.next (index : Nat) : Item → Nat
  | .range _ => index + 1
  | _ => index

/-- The names that an item gives to groups. -/
def Item.names (index : Nat) : Item → List Text
  | .range _ => [rangeName index]
  | _ => []

/-- How an item is written, the next numeric range being the one at `index`. -/
def Item.written (index : Nat) : Item → Text
  | .char c => escaped c
  | .star => "(?s:.*)".toList
  | .range _ => "(?P<".toList ++ rangeName index ++ ">-?[0-9]+)".toList
  | .group body => "(?:".toList ++ body ++ ")".toList

theorem writtenItems_cons (index : Nat) (item : Item) (items : List Item) :
    writtenItems index (item :: items) =
      item.written index ++ writtenItems (item.next index) items := by
  cases item <;> rfl

/-- The part that an item is read as. What a verbatim group is read as depends on what is in it. -/
def Item.part (index : Nat) : Item → Ast
  | .char c => .literal { char := c }
  | .star => .group (.plain [.flag .dotMatchesLineFeed]) (.rounds 0 none true .dot)
  | .range _ => .group (.capture (some (rangeName index))) (.concat
      [.rounds 0 (some 1) true (.literal { char := '-' }),
        .rounds 1 none true (.bracketed false (.range { char := '0' } { char := '9' }))])
  | .group _ => .empty

/-- The parts that items are read as. -/
def partsOf (index : Nat) : List Item → List Ast
  | [] => []
  | item :: items => item.part index :: partsOf (item.next index) items

theorem hasGroup_cons {item : Item} {items : List Item} :
    hasGroup (item :: items) = false ↔ hasGroup [item] = false ∧ hasGroup items = false := by
  simp [hasGroup]

/-- An escaped character is read as that character, whatever it means otherwise. -/
theorem read_escaped {s : State} (hs : s.ignoring = false) (c : Char) (u : Text) :
    s.read (escaped c ++ u) = (s.push (.literal { char := c })).read u := by
  unfold escaped
  split
  · next hmeta =>
    refine read_escape hs ?_
    have hdigit : ¬c.isDigit := by
      have hall : "\\.+*?()|[]\x7b\x7d^$#&-~".toList.all (!·.isDigit) := by decide
      simpa using List.all_eq_true.1 hall c (List.contains_iff_mem.1 hmeta)
    have hescapable : isEscapable c := by
      rw [isEscapable, hmeta, Bool.true_or]
    simp only [escape, if_neg hdigit, if_pos hescapable]
  · next hmeta =>
    have hne (d : Char) (hd : isMeta d) : c ≠ d := by
      rintro rfl
      exact hmeta hd
    rw [List.cons_append, List.nil_append, read_cons hs, State.round]
    · rfl
    all_goals exact hne _ (by decide)

/-- A star is read as any characters, with the flag that lets a dot be a line feed. -/
theorem read_star {s : State} (hs : s.ignoring = false) (u : Text) :
    s.read ("(?s:.*)".toList ++ u) = (s.push (Item.star.part 0)).read u := by
  let kind : Regex.GroupKind := .plain [.flag .dotMatchesLineFeed]
  have hopened : (s.openWith (.group kind)).ignoring = false := hs
  show s.read ('(' :: '?' :: 's' :: ':' :: '.' :: '*' :: ')' :: u) = _
  rw [read_cons hs, State.round, hs]
  show (groupOpening s.taken ('?' :: 's' :: ':' :: '.' :: '*' :: ')' :: u)).map _ >>= _ = _
  rw [groupOpening_flags (by decide)]
  show (s.openWith (.group kind)).read ('.' :: '*' :: ')' :: u) = _
  rw [read_cons hopened]
  have hdot : ((s.openWith (.group kind)).push .dot).ignoring = false := hs
  show ((s.openWith (.group kind)).push .dot).read ('*' :: ')' :: u) = _
  rw [read_cons hdot]
  let starred : State := { s.openWith (.group kind) with parts := [.rounds 0 none true .dot] }
  show starred.read (')' :: u) = _
  exact read_close (s := starred) hs rfl u

/-- The class of the digits, after its opening bracket. -/
theorem bracketed_digits (u : Text) :
    bracketed false ('0' :: '-' :: '9' :: ']' :: u) =
      .ok (.bracketed false (.range { char := '0' } { char := '9' }), u) := by
  have hnegation : classNegation false ('0' :: '-' :: '9' :: ']' :: u) =
      (false, '0' :: '-' :: '9' :: ']' :: u) := rfl
  have hhyphens : takeSkipping false (· = '-') ('0' :: '-' :: '9' :: ']' :: u) =
      ([], '0' :: '-' :: '9' :: ']' :: u) := takeSkipping_of_not (by decide) _ _
  have hopening : classOpening false ('0' :: '-' :: '9' :: ']' :: u) =
      .ok (false, [], '0' :: '-' :: '9' :: ']' :: u) := by
    simp only [classOpening, hnegation, hhyphens]
    rfl
  rw [bracketed, hopening]
  rfl

theorem ofNat_eq_toDigits (n : Nat) : Text.ofNat n = Nat.toDigits 10 n := by
  rw [Text.ofNat, Nat.toString_eq_repr, Nat.repr, String.toList_ofList]

theorem isDigit_of_mem_ofNat {n : Nat} {c : Char} (h : c ∈ Text.ofNat n) : c.isDigit := by
  rw [ofNat_eq_toDigits] at h
  exact Nat.isDigit_of_mem_toDigits (by decide) (by decide) h

theorem not_mem_rangeName (index : Nat) : '>' ∉ rangeName index := by
  intro h
  rcases List.mem_append.1 h with h | h
  · exact absurd h (by decide)
  · exact absurd (isDigit_of_mem_ofNat h) (by decide)

theorem isGroupName_rangeName (index : Nat) : isGroupName (rangeName index) = true := by
  have hindex : (Text.ofNat index).all (isNameChar false) = true := by
    rw [List.all_eq_true]
    intro c hc
    simp [isNameChar, Regex.Unicode.isNumeric, isDigit_of_mem_ofNat hc]
  show ((['_', 'r', 'a', 'n', 'g', 'e'] ++ Text.ofNat index).all (isNameChar false)) = true
  rw [List.all_append, hindex]
  rfl

/-- A numeric range is read as a group for its digits, if its name is not taken yet. -/
theorem read_range {s : State} (hs : s.ignoring = false) {index : Nat}
    (htaken : rangeName index ∉ s.taken) (bounds : NumericRange) (u : Text) :
    s.read ("(?P<".toList ++ rangeName index ++ ">-?[0-9]+)".toList ++ u) =
      State.read { s with
        parts := (Item.range bounds).part index :: s.parts
        taken := rangeName index :: s.taken } u := by
  have htext : "(?P<".toList ++ rangeName index ++ ">-?[0-9]+)".toList ++ u =
      "(?P<".toList ++ (rangeName index ++ '>' :: ("-?[0-9]+)".toList ++ u)) := by
    rw [List.append_assoc, List.append_assoc]
    rfl
  rw [htext, read_named hs, groupName_append_of_not_mem (not_mem_rangeName index)
    (isGroupName_rangeName index) htaken]
  let minus : Ast := .rounds 0 (some 1) true (.literal { char := '-' })
  let digit : Ast := .bracketed false (.range { char := '0' } { char := '9' })
  -- the state inside the group, by the parts that are read so far
  let inner (parts : List Ast) : State :=
    { s.openWith (.group (.capture (some (rangeName index)))) with parts }
  have hi (parts : List Ast) : (inner parts).ignoring = false := hs
  show (inner []).read ('-' :: '?' :: '[' :: '0' :: '-' :: '9' :: ']' :: '+' :: ')' :: u) = _
  rw [read_cons (hi _)]
  show (inner [.literal { char := '-' }]).read ('?' :: '[' :: _) = _
  rw [read_cons (hi _)]
  show (inner [minus]).read ('[' :: _) = _
  rw [read_cons (hi _)]
  show (bracketed (inner [minus]).ignoring _).map _ >>= _ = _
  rw [hi, bracketed_digits]
  show (inner [digit, minus]).read ('+' :: ')' :: u) = _
  rw [read_cons (hi _)]
  show (inner [.rounds 1 none true digit, minus]).read (')' :: u) = _
  exact read_close (hi _) rfl u

theorem rangeName_injective : Function.Injective rangeName := by
  intro i j h
  have hdigits : Nat.toDigits 10 i = Nat.toDigits 10 j := by
    rw [← ofNat_eq_toDigits, ← ofNat_eq_toDigits]
    exact List.append_cancel_left h
  calc
    i = Nat.ofDigitChars 10 (Nat.toDigits 10 i) 0 := Nat.ofDigitChars_ten_toDigits.symm
    _ = Nat.ofDigitChars 10 (Nat.toDigits 10 j) 0 := by rw [hdigits]
    _ = j := Nat.ofDigitChars_ten_toDigits

/-- An item that is not a verbatim group is read as its part, whatever follows it. -/
theorem read_item {index : Nat} {item : Item} (hg : hasGroup [item] = false) {s : State}
    (hs : s.ignoring = false) (htaken : rangeName index ∉ s.taken) (u : Text) :
    s.read (item.written index ++ u) = State.read { s with
      parts := item.part index :: s.parts
      taken := item.names index ++ s.taken } u := by
  cases item with
  | char c => exact read_escaped hs c u
  | star => exact read_star hs u
  | range bounds => exact read_range hs htaken bounds u
  | group body => cases hg

theorem Item.le_next (index : Nat) (item : Item) : index ≤ item.next index := by
  cases item with
  | range bounds => exact Nat.le_succ index
  | char c | star | group body => exact Nat.le_refl index

theorem Item.rangeName_not_mem_names {index i : Nat} {item : Item} (h : item.next index ≤ i) :
    rangeName i ∉ item.names index := by
  cases item with
  | range bounds =>
    rw [Item.names, List.mem_singleton]
    exact fun he => Nat.ne_of_gt h (rangeName_injective he)
  | char c | star | group body => exact List.not_mem_nil

/-- **Items without verbatim groups are read as their parts**, where the names of their numeric ranges
are not taken yet. -/
theorem read_writtenItems {index : Nat} {items : List Item} (hg : hasGroup items = false) {s : State}
    (hs : s.ignoring = false) (htaken : ∀ i, index ≤ i → rangeName i ∉ s.taken) (u : Text) :
    ∃ taken, s.read (writtenItems index items ++ u) =
      State.read { s with parts := (partsOf index items).reverse ++ s.parts, taken } u := by
  induction items generalizing index s with
  | nil => exact ⟨s.taken, rfl⟩
  | cons item items ih =>
    obtain ⟨hitem, hitems⟩ := hasGroup_cons.1 hg
    let read : State := { s with
      parts := item.part index :: s.parts
      taken := item.names index ++ s.taken }
    have hread : ∀ i, item.next index ≤ i → rangeName i ∉ read.taken := by
      intro i hi h
      rcases List.mem_append.1 h with h | h
      · exact Item.rangeName_not_mem_names hi h
      · exact htaken i ((item.le_next index).trans hi) h
    obtain ⟨taken, hothers⟩ := ih hitems (s := read) hs hread
    refine ⟨taken, ?_⟩
    rw [writtenItems_cons, List.append_assoc, read_item hitem hs (htaken index (Nat.le_refl index))]
    simpa [partsOf, read] using hothers

/-! ## The whole expression -/

theorem depth_part_le (index : Nat) (item : Item) : (item.part index).depth ≤ 4 := by
  cases item with
  | char c | group body => exact Nat.zero_le 4
  | star => exact Nat.le_add_left 2 2
  | range bounds => exact Nat.le_refl 4

theorem depthOfAll_partsOf_le (index : Nat) (items : List Item) :
    Ast.depthOfAll (partsOf index items) ≤ 4 := by
  induction items generalizing index with
  | nil => exact Nat.zero_le 4
  | cons item items ih => exact Nat.max_le.2 ⟨depth_part_le index item, ih _⟩

theorem depth_ofParts_le (index : Nat) (items : List Item) :
    (Ast.ofParts (partsOf index items)).depth ≤ 5 := by
  match items with
  | [] => exact Nat.zero_le 5
  | [item] => exact Nat.le_succ_of_le (depth_part_le index item)
  | item :: item' :: items =>
    exact Nat.succ_le_succ (depthOfAll_partsOf_le index (item :: item' :: items))

theorem written_eq (items : List Item) :
    written items =
      '\\' :: 'A' :: ("(?:".toList ++ (writtenItems 0 items ++ ')' :: ['\\', 'z'])) :=
  List.append_assoc "\\A(?:".toList (writtenItems 0 items) ")\\z".toList

/-- **Without verbatim groups, what is written is read as the parts of the items** between the ends of the
text. -/
theorem parse_written {items : List Item} (hg : hasGroup items = false) :
    Ast.parse (written items) = .ok (.concat
      [.anchor .textStart, .group (.plain []) (.ofParts (partsOf 0 items)), .anchor .textEnd]) := by
  let body : Ast := .group (.plain []) (.ofParts (partsOf 0 items))
  let opened : State := (State.push (.anchor .textStart) {}).openWith (.group (.plain []))
  obtain ⟨taken, hitems⟩ := @read_writtenItems 0 items hg opened rfl
    (fun _ _ => List.not_mem_nil) (')' :: ['\\', 'z'])
  let inner : State := { opened with parts := (partsOf 0 items).reverse ++ opened.parts, taken }
  have hclosed : inner.close = .ok { parts := [body, .anchor .textStart], taken } := by
    simp [inner, opened, body, State.close, State.openWith, State.inside, State.push, Ast.ofBranches]
  have hread : State.read {} (written items) =
      .ok { parts := [.anchor .textEnd, body, .anchor .textStart], taken } := by
    rw [written_eq, read_escape rfl rfl, read_open rfl, hitems, read_close rfl hclosed,
      read_escape rfl rfl, read_of_skip_eq_nil rfl]
    rfl
  have hdepth : (Ast.concat [.anchor .textStart, body, .anchor .textEnd]).depth ≤
      Regex.nestLimit := by
    have := depth_ofParts_le 0 items
    simp only [body, Ast.depth, Ast.depthOfAll, Regex.nestLimit]
    omega
  show (State.read {} (written items)).bind _ = _
  rw [hread]
  exact if_pos hdepth

/-! ## What it means -/

/-- Any characters, as many as possible. -/
def starExpr : Expr := .rounds (.one fun _ => true) 0 none true

/-- Digits with an optional sign, remembered under a name. -/
def integerExpr (name : Text) : Expr :=
  .capture name (.seq (.rounds (.one (· = '-')) 0 (some 1) true)
    (.seq (.rounds (.one Char.isDigit) 1 none true) .empty))

/-- What an item means, the next numeric range being the one at `index`. What a verbatim group means
depends on what is in it. -/
def Item.expr (index : Nat) : Item → Expr
  | .char c => .one (· = c)
  | .star => starExpr
  | .range _ => integerExpr (rangeName index)
  | .group _ => .empty

/-- What items mean one after the other. -/
def exprOf (index : Nat) : List Item → Expr
  | [] => .empty
  | item :: items => .seq (item.expr index) (exprOf (item.next index) items)

/-- What items mean in a group of their own. A single item stands for itself. -/
def insideExpr : List Item → Expr
  | [item] => item.expr 0
  | items => exprOf 0 items

/-- What items mean between the ends of a text. -/
def wholeExpr (items : List Item) : Expr :=
  .seq (.assertion .textStart) (.seq (insideExpr items) (.seq (.assertion .textEnd) .empty))

theorem meaning_star : Ast.meaning {} (Item.star.part 0) = .ok (starExpr, {}) := by
  have hbody : Ast.meaning { dotMatchesLineFeed := true } (.rounds 0 none true .dot) =
      .ok (starExpr, { dotMatchesLineFeed := true }) := by
    rw [Ast.meaning, Ast.meaning]
    rfl
  exact Ast.meaning_group hbody

theorem isDigit_eq :
    (fun c : Char => (decide ('0' ≤ c) && decide (c ≤ '9')) != false) = Char.isDigit := by
  funext c
  exact Bool.bne_false _

theorem meaning_range (index : Nat) (bounds : NumericRange) :
    Ast.meaning {} ((Item.range bounds).part index) = .ok (integerExpr (rangeName index), {}) := by
  have hminus : Ast.meaning {} (.rounds 0 (some 1) true (.literal { char := '-' })) =
      .ok (.rounds (.one (· = '-')) 0 (some 1) true, {}) := by
    rw [Ast.meaning, Ast.meaning_literal]
    rfl
  have hdigits : Ast.meaning {}
      (.rounds 1 none true (.bracketed false (.range { char := '0' } { char := '9' }))) =
      .ok (.rounds (.one Char.isDigit) 1 none true, {}) := by
    rw [Ast.meaning, Ast.meaning, ← isDigit_eq]
    rfl
  refine @Ast.meaning_capture {} {} _ _ _ ?_
  rw [Ast.meaning]
  exact Ast.meaningOfParts_cons hminus (Ast.meaningOfParts_cons hdigits (Ast.meaningOfParts_nil {}))

theorem meaning_part {index : Nat} {item : Item} (hg : hasGroup [item] = false) :
    (item.part index).meaning {} = .ok (item.expr index, {}) := by
  cases item with
  | char c => exact Ast.meaning_literal c
  | star => exact meaning_star
  | range bounds => exact meaning_range index bounds
  | group body => cases hg

theorem meaningOfParts_partsOf {index : Nat} {items : List Item} (hg : hasGroup items = false) :
    Ast.meaningOfParts {} (partsOf index items) = .ok (exprOf index items, {}) := by
  induction items generalizing index with
  | nil => exact Ast.meaningOfParts_nil {}
  | cons item items ih =>
    obtain ⟨hitem, hitems⟩ := hasGroup_cons.1 hg
    exact Ast.meaningOfParts_cons (meaning_part hitem) (ih hitems)

theorem meaning_ofParts {items : List Item} (hg : hasGroup items = false) :
    (Ast.ofParts (partsOf 0 items)).meaning {} = .ok (insideExpr items, {}) := by
  match items with
  | [] =>
    show Ast.meaning {} .empty = _
    rw [Ast.meaning]
    rfl
  | [item] => exact meaning_part hg
  | item :: item' :: items =>
    show Ast.meaning {} (.concat (partsOf 0 (item :: item' :: items))) = _
    rw [Ast.meaning]
    exact meaningOfParts_partsOf hg

theorem meaning_written {items : List Item} (hg : hasGroup items = false) :
    Ast.meaning {} (.concat
      [.anchor .textStart, .group (.plain []) (.ofParts (partsOf 0 items)), .anchor .textEnd]) =
      .ok (wholeExpr items, {}) := by
  rw [Ast.meaning]
  exact Ast.meaningOfParts_cons (Ast.meaning_anchor {} .textStart)
    (Ast.meaningOfParts_cons (Ast.meaning_group (meaning_ofParts hg))
      (Ast.meaningOfParts_cons (Ast.meaning_anchor {} .textEnd) (Ast.meaningOfParts_nil {})))

theorem roomFor_eq_none {items : List Item} (hg : hasGroup items = false) : roomFor items = none :=
  if_neg (by simp [hg])

/-- **Without verbatim groups, a pattern stands for what its items mean**, read from how they are
written. -/
theorem exprOfItems_eq {items : List Item} (hg : hasGroup items = false) :
    exprOfItems items = .ok (wholeExpr items) := by
  rw [exprOfItems, roomFor_eq_none hg]
  show (Ast.parse (written items)).bind _ = _
  rw [parse_written hg]
  show (Ast.meaning {} _).bind _ = _
  rw [meaning_written hg]
  rfl

end Pattern

end TreeQuery
