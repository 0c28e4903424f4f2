import TreeQuery.Proofs.Pattern.Anchoring

/-!
# Escaping

Escapes are treated in three places between a text and what matches it. Quoting puts a caret before
each character that means something, reading the pattern takes the carets away again, and where the
pattern is written as a regular expression, a backslash goes before what means something there.

The three agree. A text in which everything is taken literally, be it with carets before ordinary
characters too, matches the text that unquoting leaves and no other (`isMatch_of_isEscaped`).
-/

namespace TreeQuery.Pattern

open Regex (Ast)

/-- A text in which everything is taken literally is a pattern for the text that it spells. -/
theorem isMatch_of_isEscaped {s : Text} (h : isEscaped s = true) :
    ∃ p, ofText s = .ok p ∧ p.expr = wholeExpr ((unquote s).map .char) ∧
      ∀ t, p.isMatch t = true ↔ t = unquote s := by
  refine ⟨_, ofText_eq_ok_iff.2 (spells_of_isEscaped h), rfl, fun t => ?_⟩
  rw [isMatch_eq_true_iff, reach_chars_ne_nil_iff]

/-- **Quoting, unquoting and reading agree.** A quoted text is a pattern for that text and no other.
So is every text in which all that means something follows a caret, for the text that unquoting leaves
of it; and the regular expression that is written for it is read as one that finds the same. -/
theorem quote_unquote_isMatch :
    (∀ v, unquote (quote v) = v ∧
      ∃ p, ofText (quote v) = .ok p ∧ ∀ t, p.isMatch t = true ↔ t = v) ∧
    ∀ s, isEscaped s = true → ∃ p, ofText s = .ok p ∧ (∀ t, p.isMatch t = true ↔ t = unquote s) ∧
      ∃ items ast e, scan false s = .ok (items, []) ∧ Ast.parse (written items) = .ok ast ∧
        ast.meaning {} = .ok (e, {}) ∧ ∀ t, e.find? t = p.expr.find? t := by
  constructor
  · intro v
    obtain ⟨p, hp, -, hmatch⟩ := isMatch_of_isEscaped (isEscaped_quote v)
    rw [unquote_quote] at hmatch
    exact ⟨unquote_quote v, p, hp, hmatch⟩
  · intro s h
    obtain ⟨p, hp, hexpr, hmatch⟩ := isMatch_of_isEscaped h
    have hchars : hasGroup ((unquote s).map .char) = false := hasGroup_chars _
    have hscan : scan false s = .ok ((unquote s).map .char, []) :=
      scan_eq_ok_iff.2 ⟨s, (List.append_nil s).symm, patternText_of_isEscaped h, rfl⟩
    exact ⟨p, hp, hmatch, _, _, _, hscan, parse_written hchars, meaning_written hchars,
      fun t => by rw [hexpr]⟩

/-- With carets before a star, before a caret and before an ordinary character. -/
theorem quote_unquote_isMatch_carets :
    isEscaped "^a.^*^^".toList = true ∧
      ∃ p, ofText "^a.^*^^".toList = .ok p ∧ p.isMatch "a.*^".toList = true ∧
        p.isMatch "ab*^".toList = false := by
  have h : isEscaped "^a.^*^^".toList = true := by decide
  obtain ⟨p, hp, hmatch, -⟩ := quote_unquote_isMatch.2 "^a.^*^^".toList h
  refine ⟨h, p, hp, (hmatch _).2 (by decide), ?_⟩
  rw [← Bool.not_eq_true, hmatch]
  decide

end TreeQuery.Pattern
