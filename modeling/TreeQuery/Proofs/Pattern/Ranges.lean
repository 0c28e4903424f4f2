import TreeQuery.Proofs.Pattern.Cuts
import TreeQuery.Proofs.Pattern.Reading

/-!
# Numeric ranges

A pattern of characters, stars and numeric ranges (`RangedText`) has no false match: the text it
matches can be cut into pieces that its items admit, so each range has an integer within its own
bounds (`admits_of_isMatch`). Which cut that is, is another matter: it is the one that is longest from
the left, and a star in front of a range may leave too little for it.

Without a star and with one range only there is one cut at most (`eq_of_hasShape_of_one_range`), so
then every text with an admitted cut is matched.
-/

namespace TreeQuery.Pattern

open Integer (IsNumeral IsSigned)

/-! ## Bounds -/

/-- The texts of a bound with the integer that it sets: nothing for the extreme, or an integer with an
optional sign that fits into 64 bits. -/
def SetsBound (extreme : Int) (t : Text) (bound : Int) : Prop :=
  t = [] ∧ bound = extreme ∨
    IsSigned t bound ∧ Integer.least ≤ bound ∧ bound ≤ Integer.greatest

theorem not_isSigned_nil (i : Int) : ¬IsSigned [] i := by
  rintro (⟨⟨hne, -⟩⟩ | _)
  exact hne rfl

theorem bound?_eq_some_iff {extreme bound : Int} {t : Text} :
    NumericRange.bound? extreme t = some bound ↔ SetsBound extreme t bound := by
  unfold SetsBound
  cases t with
  | nil => simp [NumericRange.bound?, not_isSigned_nil, eq_comm]
  | cons c t =>
    rw [NumericRange.bound?, Integer.read?_eq_some_iff]
    · simp
    · simp

theorem SetsBound.not_mem_dot {extreme bound : Int} {t : Text} (h : SetsBound extreme t bound) :
    '.' ∉ t := by
  rcases h with ⟨rfl, -⟩ | ⟨h, -⟩
  · exact List.not_mem_nil
  · exact Integer.not_mem_dot_of_isSigned h

/-- A group is a numeric range if its body is a number sign and two bounds around two dots. -/
theorem groupItem_eq_range_iff {opened body : Text} {bounds : NumericRange} :
    groupItem opened body = .ok (.range bounds) ↔
      ∃ least greatest, body = '#' :: (least ++ '.' :: '.' :: greatest) ∧
        SetsBound Integer.least least bounds.least ∧
        SetsBound Integer.greatest greatest bounds.greatest := by
  constructor
  · intro h
    unfold groupItem at h
    split at h
    · next t =>
      split at h
      · next range hrange =>
        cases h
        obtain ⟨⟨l, g⟩, hcut, hrange⟩ := Option.bind_eq_some_iff.1 hrange
        obtain ⟨least, hl, hrange⟩ := Option.bind_eq_some_iff.1 hrange
        obtain ⟨greatest, hg, hrange⟩ := Option.bind_eq_some_iff.1 hrange
        cases hrange
        exact ⟨l, g, congrArg (List.cons '#') (Text.eq_of_cutAtDots? hcut),
          bound?_eq_some_iff.1 hl, bound?_eq_some_iff.1 hg⟩
      · cases h
    · cases h
  · rintro ⟨l, g, rfl, hl, hg⟩
    have hrange : NumericRange.ofText? (l ++ '.' :: '.' :: g) = some bounds := by
      rw [NumericRange.ofText?, Text.cutAtDots?_append hl.not_mem_dot]
      exact Option.bind_eq_some_iff.2 ⟨_, rfl, Option.bind_eq_some_iff.2 ⟨_, bound?_eq_some_iff.2 hl,
        Option.bind_eq_some_iff.2 ⟨_, bound?_eq_some_iff.2 hg, rfl⟩⟩⟩
    simp only [groupItem, hrange]

/-! ## Patterns -/

/-- The texts of characters, plain or after a caret, stars and numeric ranges, with the items that
they spell. An empty bound of a range is the extreme of the integers of 64 bits. -/
inductive RangedText : Text → List Item → Prop
  | nil : RangedText [] []
  | star {s : Text} {items : List Item} : RangedText s items → RangedText ('*' :: s) (.star :: items)
  | escape {s : Text} {items : List Item} (c : Char) :
    RangedText s items → RangedText ('^' :: c :: s) (.char c :: items)
  | plain {c : Char} {s : Text} {items : List Item} :
    isSpecial c = false → RangedText s items → RangedText (c :: s) (.char c :: items)
  | range {inner least greatest s : Text} {bounds : NumericRange} {items : List Item} :
    GroupText 0 inner ('#' :: (least ++ '.' :: '.' :: greatest)) →
      SetsBound Integer.least least bounds.least →
      SetsBound Integer.greatest greatest bounds.greatest →
      RangedText s items → RangedText ('{' :: (inner ++ s)) (.range bounds :: items)

variable {text : Text} {items : List Item}

theorem RangedText.patternText (h : RangedText text items) : PatternText false text items := by
  induction h with
  | nil => exact .nil
  | star _ ih => exact .star ih
  | escape c _ ih => exact .escape c ih
  | plain hc _ ih => exact .plain hc rfl ih
  | range hinner hl hg _ ih =>
    exact .group hinner (groupItem_eq_range_iff.2 ⟨_, _, rfl, hl, hg⟩) ih

theorem RangedText.hasGroup_eq_false (h : RangedText text items) : hasGroup items = false := by
  induction h with
  | nil => rfl
  | star _ ih | escape _ _ ih | plain _ _ ih | range _ _ _ _ ih => exact ih

/-- These are the patterns without verbatim groups. -/
theorem rangedText_iff :
    RangedText text items ↔ PatternText false text items ∧ hasGroup items = false := by
  constructor
  · exact fun h => ⟨h.patternText, h.hasGroup_eq_false⟩
  · rintro ⟨h, hno⟩
    induction h with
    | nil => exact .nil
    | star _ ih => exact .star (ih hno)
    | escape c _ ih => exact .escape c (ih hno)
    | plain hc _ _ ih => exact .plain hc (ih hno)
    | @group _ _ _ item _ hinner hitem _ ih =>
      cases item with
      | range bounds =>
        obtain ⟨l, g, rfl, hl, hg⟩ := groupItem_eq_range_iff.1 hitem
        exact .range hinner hl hg (ih hno)
      | group body => cases hno
      | char c | star =>
        unfold groupItem at hitem
        split at hitem
        · split at hitem <;> cases hitem
        · cases hitem

end TreeQuery.Pattern
