import TreeQuery.Text

/-!
# Quoting

A caret takes the character after it literally. Quoting puts a caret before each character that
means something in a pattern; unquoting drops the carets again.
-/

namespace TreeQuery.Pattern

/-- Whether a character means something in a pattern. -/
def isSpecial (c : Char) : Bool := ['*', '&', '|', '{', '}', '^'].contains c

/-- The pattern that spells a text literally. -/
def quote : Text → Text
  | [] => []
  | c :: rest => if isSpecial c then '^' :: c :: quote rest else c :: quote rest

/-- The text that a pattern spells if all of it is taken literally. A caret at the end spells
nothing. -/
def unquote : Text → Text
  | '^' :: c :: rest => c :: unquote rest
  | ['^'] => []
  | c :: rest => c :: unquote rest
  | [] => []

theorem unquote_cons_of_ne {c : Char} (h : c ≠ '^') (t : Text) :
    unquote (c :: t) = c :: unquote t := by
  cases t with
  | nil => rw [unquote] <;> simp_all
  | cons d t => rw [unquote] <;> simp_all

/-- Unquoting undoes quoting. -/
theorem unquote_quote (t : Text) : unquote (quote t) = t := by
  induction t with
  | nil => rfl
  | cons c t ih =>
    rw [quote]
    split
    · rw [unquote, ih]
    · next h =>
      have hc : c ≠ '^' := by
        rintro rfl
        exact h (by decide)
      rw [unquote_cons_of_ne hc, ih]

end TreeQuery.Pattern
