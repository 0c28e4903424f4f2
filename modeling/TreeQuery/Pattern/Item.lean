import TreeQuery.Error
import TreeQuery.Integer
import TreeQuery.Regex.Parser

/-!
# The items of a pattern

A pattern is a sequence of items: characters, stars, numeric ranges in braces, and verbatim groups in
braces. It ends before the first ampersand or bar outside braces, and before the first equals sign if
the name of a parameter is read.

Inside braces, braces nest; a caret and the character after it become that character, escaped for a
regular expression, and do not count as braces.

## Termination

* `groupBody` — recursion on the text
* `scan` — each item takes at least one character
-/

namespace TreeQuery.Pattern

/-- The inclusive bounds of an integer. Bounds the wrong way round admit nothing. -/
structure NumericRange where
  least : Int
  greatest : Int
  deriving DecidableEq, Repr

namespace NumericRange

/-- Whether the bounds admit an integer. -/
def contains (range : NumericRange) (i : Int) : Bool := range.least ≤ i && i ≤ range.greatest

/-- Reads a bound; an empty one is open. -/
def bound? (unbounded : Int) : Text → Option Int
  | [] => some unbounded
  | t => Integer.read? t

/-- Reads two bounds around two dots. -/
def ofText? (t : Text) : Option NumericRange := do
  let (least, greatest) ← Text.cutAtDots? t
  return ⟨← bound? Integer.least least, ← bound? Integer.greatest greatest⟩

end NumericRange

/-- A part of a pattern. -/
inductive Item where
  | char (c : Char)
  /-- Any text. -/
  | star
  /-- An integer within bounds. -/
  | range (bounds : NumericRange)
  /-- A piece of a regular expression. -/
  | group (body : Text)
  deriving DecidableEq, Repr

/-- A malformation, at the place where the rest of the text begins. -/
structure Fault where
  rest : Text
  cause : Malformation
  deriving DecidableEq, Repr

/-- A character as a regular expression spells it literally. -/
def escaped (c : Char) : Text := if Regex.Parser.isMeta c then ['\\', c] else [c]

/-- Reads the body of a group up to the brace that closes it, `depth` inner braces being open.
`opened` is the text from the opening brace on. -/
def groupBody (opened : Text) : (depth : Nat) → Text → Except Fault (Text × Text)
  | _, [] => .error ⟨opened, .unbalancedBraces⟩
  | 0, '}' :: rest => .ok ([], rest)
  | depth + 1, '}' :: rest =>
    (groupBody opened depth rest).map fun (body, rest) => ('}' :: body, rest)
  | depth, '{' :: rest =>
    (groupBody opened (depth + 1) rest).map fun (body, rest) => ('{' :: body, rest)
  | _, ['^'] => .error ⟨['^'], .trailingEscape⟩
  | depth, '^' :: c :: rest =>
    (groupBody opened depth rest).map fun (body, rest) => (escaped c ++ body, rest)
  | depth, c :: rest => (groupBody opened depth rest).map fun (body, rest) => (c :: body, rest)

/-- A mapped result is there exactly when there was one to map. -/
theorem map_eq_ok_iff {α β ε : Type} {x : Except ε α} {f : α → β} {b : β} :
    x.map f = .ok b ↔ ∃ a, x = .ok a ∧ f a = b := by
  cases x <;> simp [Except.map]

/-- A group is not empty, and what follows it is the rest of the text. -/
theorem append_of_groupBody {opened : Text} : ∀ {depth : Nat} {t body rest : Text},
    groupBody opened depth t = .ok (body, rest) → ∃ c s, t = c :: s ++ rest := by
  intro depth t
  induction depth, t using groupBody.induct with
  | case1 => simp [groupBody]
  | case2 rest' =>
    intro body rest h
    simp only [groupBody, Except.ok.injEq, Prod.mk.injEq] at h
    exact ⟨'}', [], by simp [h.2]⟩
  | case3 _ _ ih | case4 _ _ ih | case6 _ _ _ ih =>
    intro body rest h
    rw [groupBody] at h
    obtain ⟨⟨b, r⟩, hr, he⟩ := map_eq_ok_iff.1 h
    obtain ⟨_, rfl⟩ := Prod.mk.inj he
    obtain ⟨c, s, rfl⟩ := ih hr
    simp only [← List.cons_append]
    exact ⟨_, _, rfl⟩
  | case5 => simp [groupBody]
  | case7 _ _ _ h1 h2 h3 h4 h5 ih =>
    intro body rest h
    rw [groupBody] at h
    · obtain ⟨⟨b, r⟩, hr, he⟩ := map_eq_ok_iff.1 h
      obtain ⟨_, rfl⟩ := Prod.mk.inj he
      obtain ⟨c, s, rfl⟩ := ih hr
      exact ⟨_, _, rfl⟩
    all_goals assumption

/-- What follows a group is shorter than what its opening brace is followed by. -/
theorem length_lt_of_groupBody {opened : Text} {depth : Nat} {t body rest : Text}
    (h : groupBody opened depth t = .ok (body, rest)) : rest.length < t.length := by
  obtain ⟨c, s, rfl⟩ := append_of_groupBody h
  simp only [List.cons_append, List.length_cons, List.length_append]
  omega

/-- The item of a group: numeric bounds after a number sign, else a piece of a regular expression.
`opened` is the text from the opening brace on. -/
def groupItem (opened body : Text) : Except Fault Item :=
  match body with
  | '#' :: bounds =>
    match NumericRange.ofText? bounds with
    | some range => .ok (.range range)
    | none => .error ⟨opened, .range body⟩
  | _ => .ok (.group body)

/-- Reads the items of a pattern up to its end, and gives what follows it. -/
def scan (stopAtEquals : Bool) (t : Text) : Except Fault (List Item × Text) :=
  match t with
  | [] => .ok ([], [])
  | '&' :: _ | '|' :: _ => .ok ([], t)
  | '*' :: rest => (scan stopAtEquals rest).map fun (items, rest) => (.star :: items, rest)
  | ['^'] => .error ⟨t, .trailingEscape⟩
  | '^' :: c :: rest => (scan stopAtEquals rest).map fun (items, rest) => (.char c :: items, rest)
  | '}' :: _ => .error ⟨t, .unbalancedBraces⟩
  | '{' :: inner =>
    match h : groupBody t 0 inner with
    | .error fault => .error fault
    | .ok (body, rest) =>
      have : rest.length < inner.length := length_lt_of_groupBody h
      match groupItem t body with
      | .error fault => .error fault
      | .ok item => (scan stopAtEquals rest).map fun (items, rest) => (item :: items, rest)
  | c :: rest =>
    if stopAtEquals && c = '=' then .ok ([], t)
    else (scan stopAtEquals rest).map fun (items, rest) => (.char c :: items, rest)
termination_by t.length

/-- What follows a pattern is a final piece of the text. -/
theorem suffix_of_scan {stop : Bool} {t rest : Text} {items : List Item}
    (h : scan stop t = .ok (items, rest)) : rest <:+ t := by
  fun_induction scan stop t generalizing items rest with
  | case1 | case2 | case3 | case11 => simp_all
  | case5 | case7 => cases h
  | case8 _ _ hg => split at h <;> simp_all
  | case9 _ _ _ hg _ _ hi => split at h <;> simp_all
  | case4 _ ih | case12 _ _ _ _ _ _ _ _ _ _ ih =>
    obtain ⟨⟨i, r⟩, hr, he⟩ := map_eq_ok_iff.1 h
    obtain ⟨_, rfl⟩ := Prod.mk.inj he
    exact (ih hr).trans (List.suffix_cons ..)
  | case6 _ _ ih =>
    obtain ⟨⟨i, r⟩, hr, he⟩ := map_eq_ok_iff.1 h
    obtain ⟨_, rfl⟩ := Prod.mk.inj he
    exact (ih hr).trans ((List.suffix_cons ..).trans (List.suffix_cons ..))
  | case10 inner body rest' item hg _ hi ih =>
    split at h
    · cases h
    · next body' rest'' hg' =>
      obtain ⟨rfl, rfl⟩ := Prod.mk.inj (Except.ok.inj (hg.symm.trans hg'))
      simp only [hi] at h
      obtain ⟨⟨i, r⟩, hr, he⟩ := map_eq_ok_iff.1 h
      obtain ⟨_, rfl⟩ := Prod.mk.inj he
      obtain ⟨c, s, rfl⟩ := append_of_groupBody hg
      exact (ih hr).trans ((List.suffix_append ..).trans (List.suffix_cons ..))

end TreeQuery.Pattern
