import TreeQuery.Proofs.Pattern.Cuts

/-!
# What patterns match

Two readings of a pattern, for texts that have no verbatim groups in them.

* `isMatch_iff_isCut_wildcards` — with characters and stars only, a pattern matches the texts that can
  be cut into pieces of its items
* `isMatch_iff_admits_longestCut` — with numeric ranges too, the bounds are asked of the longest cut from
  the left

The second reading does not become the first one by asking for any cut whose integers are within the
bounds: a star in front of a range takes the digits it can get, and the range is left with the last
one (`not_isMatch_of_star_before_range`).
-/

namespace TreeQuery.Pattern

open Regex (Expr)

/-! ## Wildcards -/

/-- The items of a text that is read as characters, escaped or plain, and stars. -/
def wildcards : Text → List Item
  | [] => []
  | '*' :: t => .star :: wildcards t
  | '^' :: c :: t => .char c :: wildcards t
  | c :: t => .char c :: wildcards t

/-- Whether there is a brace in a text that is not escaped. -/
def hasBrace : Text → Bool
  | [] => false
  | '^' :: _ :: t => hasBrace t
  | c :: t => c = '{' || c = '}' || hasBrace t

/-- Without braces the items of a pattern are characters and stars. -/
theorem eq_wildcards_of_patternText {text : Text} {items : List Item}
    (h : PatternText false text items) (hb : hasBrace text = false) : items = wildcards text := by
  induction h with
  | nil => rfl
  | star _ ih =>
    rw [wildcards, ih (by simpa [hasBrace] using hb)]
  | escape c _ ih =>
    rw [wildcards, ih (by simpa [hasBrace] using hb)]
  | group => simp [hasBrace] at hb
  | @plain c s _ hc _ _ ih =>
    have hstar : c ≠ '*' := by
      rintro rfl
      cases hc
    have hcaret : c ≠ '^' := by
      rintro rfl
      cases hc
    have hs : hasBrace s = false := by
      rw [hasBrace] at hb
      · simp_all
      · simp_all
    rw [wildcards, ih hs]
    · simp_all
    · simp_all

theorem hasGroup_wildcards (text : Text) : hasGroup (wildcards text) = false := by
  fun_induction wildcards text with
  | case1 => rfl
  | case2 _ ih | case3 _ _ ih | case4 _ _ _ _ ih => exact ih

/-- Where there are no bounds, a piece of the right shape is admitted. -/
theorem admits_of_hasShape_wildcards {text : Text} {pieces : List Text}
    (h : List.Forall₂ Item.HasShape (wildcards text) pieces) :
    List.Forall₂ Item.Admits (wildcards text) pieces := by
  fun_induction wildcards text generalizing pieces with
  | case1 =>
    cases h
    exact .nil
  | case2 _ ih | case3 _ _ ih | case4 _ _ _ _ ih =>
    cases h with
    | cons hp hps => exact .cons hp (ih hps)

/-- **A pattern of characters and stars matches the texts that can be cut into their pieces**: a
character takes itself, a star takes any text. What is matched is the regular expression that is written
for the pattern, as it is read. -/
theorem isMatch_iff_isCut_wildcards {text : Text} {p : Pattern} (hp : ofText text = .ok p)
    (hb : hasBrace text = false) :
    Expr.ofText none (written (wildcards text)) = .ok p.expr ∧
      ∀ t, p.isMatch t = true ↔ ∃ pieces, IsCut (wildcards text) t pieces := by
  obtain ⟨items, hitems, hexpr, -⟩ := ofText_eq_ok_iff.1 hp
  obtain rfl := eq_wildcards_of_patternText hitems hb
  have hg : hasGroup (wildcards text) = false := hasGroup_wildcards text
  refine ⟨?_, fun t => ?_⟩
  · rwa [exprOfItems, roomFor_eq_none hg] at hexpr
  · rw [isMatch_iff_admits_preferredCut hp hitems hg]
    constructor
    · rintro ⟨pieces, hcut, -⟩
      exact ⟨pieces, (isLongestCut_of_preferredCut? hcut).isCut⟩
    · rintro ⟨others, hothers⟩
      cases hcut : preferredCut? (wildcards text) t with
      | none => exact absurd hothers (preferredCut?_eq_none_iff.1 hcut others)
      | some pieces =>
        exact ⟨pieces, rfl,
          admits_of_hasShape_wildcards (isLongestCut_of_preferredCut? hcut).isCut.1⟩

/-- Stars take line breaks, and what means something in a regular expression is written with a backslash
and stands for itself. -/
theorem isMatch_of_wildcards_across_lines :
    ∃ p, ofText "r.*^*".toList = .ok p ∧ hasBrace "r.*^*".toList = false ∧
      Expr.ofText none "\\A(?:r\\.(?s:.*)\\*)\\z".toList = .ok p.expr ∧
      p.isMatch "r.\n*".toList = true ∧ p.isMatch "rx*".toList = false := by
  have htext : PatternText false "r.*^*".toList [.char 'r', .char '.', .star, .char '*'] :=
    .plain rfl rfl (.plain rfl rfl (.star (.escape '*' .nil)))
  obtain ⟨p, hp⟩ : ∃ p, ofText "r.*^*".toList = .ok p :=
    ⟨⟨_, _, _⟩, ofText_eq_ok_iff.2 ⟨_, htext, exprOfItems_eq rfl, rfl⟩⟩
  have hb : hasBrace "r.*^*".toList = false := by decide
  obtain ⟨hexpr, hmatch⟩ := isMatch_iff_isCut_wildcards hp hb
  refine ⟨p, hp, hb, hexpr, ?_, ?_⟩
  · exact (hmatch _).2
      ⟨[['r'], ['.'], ['\n'], ['*']], .cons rfl (.cons rfl (.cons trivial (.cons rfl .nil))), rfl⟩
  · rw [Bool.eq_false_iff]
    intro h
    obtain ⟨pieces, hcut⟩ := (hmatch _).1 h
    exact preferredCut?_eq_none_iff.1 rfl pieces hcut

/-! ## Numeric ranges -/

/-- **A pattern without verbatim groups matches a text whose longest cut from the left has its integers
within the bounds**, and no other. -/
theorem isMatch_iff_admits_longestCut {text : Text} {items : List Item} {p : Pattern}
    (hp : ofText text = .ok p) (hi : PatternText false text items) (hg : hasGroup items = false)
    (t : Text) :
    p.isMatch t = true ↔
      ∃ pieces, IsLongestCut items t pieces ∧ List.Forall₂ Item.Admits items pieces := by
  rw [isMatch_iff_admits_preferredCut hp hi hg]
  constructor
  · rintro ⟨pieces, hcut, hadmits⟩
    exact ⟨pieces, preferredCut?_eq_some_iff.1 hcut, hadmits⟩
  · rintro ⟨pieces, hcut, hadmits⟩
    exact ⟨pieces, preferredCut?_eq_some_iff.2 hcut, hadmits⟩

/-- The items of a star and a numeric range behind it. -/
theorem patternText_star_range {body : Text} {bounds : NumericRange}
    (hbody : GroupText 0 (body ++ ['}']) body) (hitem : groupItem [] body = .ok (.range bounds)) :
    PatternText false ('*' :: '{' :: (body ++ ['}'])) [.star, .range bounds] := by
  have hgroup := PatternText.group hbody hitem (@PatternText.nil false)
  rw [List.append_nil] at hgroup
  exact .star hgroup

theorem isMatch_of_last_digit_in_range :
    ∃ p, ofText "*{#1..3}".toList = .ok p ∧
      PatternText false "*{#1..3}".toList [.star, .range ⟨1, 3⟩] ∧
      p.isMatch "52".toList = true := by
  have htext : PatternText false "*{#1..3}".toList [.star, .range ⟨1, 3⟩] :=
    patternText_star_range
      (groupText_of_plain "#1..3".toList (by decide) (by decide) (by decide)) rfl
  obtain ⟨p, hp⟩ : ∃ p, ofText "*{#1..3}".toList = .ok p :=
    ⟨⟨_, _, _⟩, ofText_eq_ok_iff.2 ⟨_, htext, exprOfItems_eq rfl, rfl⟩⟩
  refine ⟨p, hp, htext, (isMatch_iff_admits_longestCut hp htext rfl _).2 ⟨[['5'], ['2']], ?_, ?_⟩⟩
  · exact preferredCut?_eq_some_iff.1 rfl
  · exact .cons trivial
      (.cons ⟨_, .positive (by decide) (List.all_eq_true.1 rfl), by decide, by decide⟩ .nil)

/-- A cut whose integers are within the bounds is not enough: the star takes the `4` too. -/
theorem not_isMatch_of_star_before_range :
    ∃ p items pieces, ofText "*{#10..99}".toList = .ok p ∧
      PatternText false "*{#10..99}".toList items ∧ hasGroup items = false ∧
      IsCut items "Item 42".toList pieces ∧ List.Forall₂ Item.Admits items pieces ∧
      p.isMatch "Item 42".toList = false := by
  have htext : PatternText false "*{#10..99}".toList [.star, .range ⟨10, 99⟩] :=
    patternText_star_range
      (groupText_of_plain "#10..99".toList (by decide) (by decide) (by decide)) rfl
  refine ⟨⟨_, _, _⟩, [.star, .range ⟨10, 99⟩], ["Item ".toList, "42".toList],
    ofText_eq_ok_iff.2 ⟨_, htext, exprOfItems_eq rfl, rfl⟩, htext, rfl, ?_, ?_, by decide⟩
  · exact ⟨.cons trivial (.cons ⟨_, .positive (by decide) (List.all_eq_true.1 rfl)⟩ .nil), rfl⟩
  · exact .cons trivial
      (.cons ⟨_, .positive (by decide) (List.all_eq_true.1 rfl), by decide, by decide⟩ .nil)

end TreeQuery.Pattern
