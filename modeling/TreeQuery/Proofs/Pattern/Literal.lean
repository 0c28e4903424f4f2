import TreeQuery.Proofs.Pattern.Grammar
import TreeQuery.Proofs.Pattern.Written
import TreeQuery.Proofs.Regex.Preference

/-!
# Quoted texts and the lone star as patterns

Two kinds of pattern decide about a text in a way that is easy to say. A quoted text matches that
text and no other (`isMatch_literal`), and a star alone matches every text (`isMatch_lone`).

Quoting puts carets where they are needed. They may also stand elsewhere: a text is taken literally as
a whole if each character that means something follows a caret (`isEscaped`).

Like all patterns without verbatim groups they stand for an expression that is bound to the start of the
text, so of all the places where a match could begin only the first counts (`find?_anchored`). From
there the items have to lead to the end of the text (`find?_wholeExpr`).
-/

namespace TreeQuery

namespace Regex

/-! ## Anchored expressions -/

theorem advanceTimes_nil (step : List Cursor → List Cursor) (n : Nat) :
    advanceTimes step n [] = [] := by
  cases n <;> rfl

/-- From no place one comes to no place. -/
theorem Expr.advance_nil (e : Expr) : e.advance [] = [] := by
  induction e with
  | empty | one _ | assertion _ | either _ _ _ _ | capture _ _ _ => rfl
  | seq first second ihf ihs => rw [advance, ihf, ihs]
  | rounds body least most greedy ih =>
    cases most with
    | none =>
      cases least with
      | zero => rfl
      | succ n =>
        rw [advance, advanceTimes_nil]
        rfl
    | some m =>
      rw [advance, advanceTimes_nil]
      show (if m ≤ least then [] else _) = []
      split <;> rfl

/-- No match that has to begin at the start of a text begins later. -/
theorem findSome?_starts_anchored (e : Expr) (x : Char) (t : Text) :
    ((Cursor.starts (some x) t).findSome? fun start =>
      ((Expr.seq (.assertion .textStart) e).advance [start]).head?.map
        fun finish => Match.mk start finish) = none := by
  have hstart : ∀ start : Cursor, start.before.isSome →
      (Expr.seq (.assertion .textStart) e).advance [start] = [] := by
    intro start h
    have hholds : ¬Assertion.holds start.before start.rest.head? .textStart := by
      simpa [Assertion.holds, Option.isSome_iff_ne_none] using h
    rw [Expr.advance, Expr.advance, List.filter_cons_of_neg (a := start) hholds]
    exact e.advance_nil
  induction t generalizing x with
  | nil =>
    rw [Cursor.starts, List.findSome?_cons, hstart _ rfl]
    rfl
  | cons c t ih =>
    rw [Cursor.starts, List.findSome?_cons, hstart _ rfl]
    exact ih c

/-- A match that has to begin at the start of the text is looked for there only. -/
theorem find?_anchored (e : Expr) (t : Text) :
    (Expr.seq (.assertion .textStart) e).find? t =
      (e.advance [{ rest := t }]).head?.map fun finish => ⟨{ rest := t }, finish⟩ := by
  have hstart : (Expr.seq (.assertion .textStart) e).advance [{ rest := t }] =
      e.advance [{ rest := t }] := rfl
  unfold Expr.find?
  cases t with
  | nil =>
    rw [Cursor.starts, List.findSome?_cons, hstart]
    cases (e.advance [{ rest := [] }]).head? <;> rfl
  | cons c t =>
    rw [Cursor.starts, List.findSome?_cons, hstart, findSome?_starts_anchored]
    cases (e.advance [{ rest := c :: t }]).head? <;> rfl

end Regex

namespace Pattern

open Regex (Expr Cursor DecidedByRest onward find?_anchored)

/-! ## Any characters -/

/-- Taking any characters goes on to the end of the text. -/
theorem exists_mem_onward {rest : Text} (h : rest ≠ []) (captures : List (Text × Text)) :
    ∃ d ∈ onward (fun _ => true) captures rest, d.rest = [] := by
  induction rest with
  | nil => exact absurd rfl h
  | cons x rest ih =>
    unfold onward
    rw [if_pos rfl]
    by_cases hr : rest = []
    · exact ⟨_, List.mem_append_right _ (List.mem_singleton_self _), hr⟩
    · obtain ⟨d, hd, hend⟩ := ih hr
      exact ⟨d, List.mem_append_left _ hd, hend⟩

/-- From every place a star comes to the end of the text. -/
theorem exists_mem_advance_starExpr (c : Cursor) : ∃ d ∈ starExpr.advance [c], d.rest = [] := by
  let atEnd (d : Cursor) : Option Unit := if d.rest = [] then some () else none
  have hg : DecidedByRest atEnd := by
    intro c d hrest h
    simp only [atEnd] at h ⊢
    rwa [← hrest]
  have hahead : ∃ d ∈ onward (fun _ => true) c.captures c.rest ++ [c], d.rest = [] := by
    by_cases hc : c.rest = []
    · exact ⟨c, List.mem_append_right _ (List.mem_singleton_self c), hc⟩
    · obtain ⟨d, hd, hend⟩ := exists_mem_onward hc c.captures
      exact ⟨d, List.mem_append_left _ hd, hend⟩
  have hfound : ((starExpr.advance [c]).findSome? atEnd).isSome := by
    rw [starExpr, Regex.findSome?_advance_star hg (Regex.placesOf_rest c), List.findSome?_singleton,
      List.findSome?_isSome_iff]
    obtain ⟨d, hd, hend⟩ := hahead
    exact ⟨d, hd, by simp [atEnd, hend]⟩
  obtain ⟨d, hd, hend⟩ := List.findSome?_isSome_iff.1 hfound
  exact ⟨d, hd, by simpa [atEnd] using hend⟩

/-! ## Ends of a text -/

/-- The places at the end of the text that items lead to, the next numeric range being the one at
`index`. -/
def reach (index : Nat) (items : List Item) (cs : List Cursor) : List Cursor :=
  (Expr.assertion .textEnd).advance ((exprOf index items).advance cs)

theorem reach_cons (index : Nat) (item : Item) (items : List Item) (cs : List Cursor) :
    reach index (item :: items) cs =
      reach (item.next index) items ((item.expr index).advance cs) := rfl

theorem reach_nil_right (index : Nat) (items : List Item) : reach index items [] = [] := by
  rw [reach, Expr.advance_nil, Expr.advance_nil]

theorem advance_insideExpr (items : List Item) (cs : List Cursor) :
    (insideExpr items).advance cs = (exprOf 0 items).advance cs := by
  match items with
  | [] | [_] | _ :: _ :: _ => rfl

/-- A pattern is matched from the start of the text to its end. -/
theorem find?_wholeExpr (items : List Item) (t : Text) :
    (wholeExpr items).find? t =
      (reach 0 items [{ rest := t }]).head?.map fun finish => ⟨{ rest := t }, finish⟩ := by
  rw [wholeExpr, find?_anchored, reach, ← advance_insideExpr]
  rfl

/-! ## Quoted texts -/

/-- From a place the characters of a text lead on exactly when that text is all that follows. -/
theorem reach_chars_ne_nil_iff {index : Nat} {v : Text} {c : Cursor} :
    reach index (v.map .char) [c] ≠ [] ↔ c.rest = v := by
  obtain ⟨before, rest, captures⟩ := c
  induction v generalizing before rest with
  | nil =>
    show [_].filter (fun c : Cursor => c.rest.head?.isNone) ≠ [] ↔ rest = []
    cases rest with
    | nil => exact ⟨fun _ => rfl, fun _ h => by cases h⟩
    | cons x rest => exact ⟨fun h => absurd rfl h, fun h => by cases h⟩
  | cons x v ih =>
    show reach index (v.map .char) ([_].filterMap (Cursor.next? fun d => d = x)) ≠ [] ↔ _
    cases rest with
    | nil =>
      show reach index (v.map .char) [] ≠ [] ↔ _
      rw [reach_nil_right]
      simp
    | cons y rest =>
      by_cases h : y = x
      · subst h
        have hnext : Cursor.next? (fun d => d = y) ⟨before, y :: rest, captures⟩ =
            some ⟨some y, rest, captures⟩ := by simp [Cursor.next?]
        rw [List.filterMap_cons_some hnext, List.filterMap_nil, ih]
        simp
      · have hnext : Cursor.next? (fun d => d = x) ⟨before, y :: rest, captures⟩ = none := by
          simp [Cursor.next?, h]
        rw [List.filterMap_cons_none hnext, List.filterMap_nil, reach_nil_right]
        simp [h]

/-! ## The two patterns -/

/-- A pattern without numeric ranges matches when its items lead from the start of the text to its
end. -/
theorem isMatch_eq_true_iff {source t : Text} {items : List Item} :
    isMatch ⟨source, wholeExpr items, []⟩ t = true ↔ reach 0 items [{ rest := t }] ≠ [] := by
  unfold isMatch
  rw [find?_wholeExpr]
  cases reach 0 items [{ rest := t }] <;> simp [withinBounds]

/-- The pattern that a quoted text is read as. -/
def literal (v : Text) : Pattern := ⟨quote v, wholeExpr (v.map .char), []⟩

/-- The pattern that a star alone is read as. -/
def lone : Pattern := ⟨['*'], wholeExpr [.star], []⟩

/-- **A quoted text matches that text and no other.** -/
theorem isMatch_literal (v t : Text) : (literal v).isMatch t = decide (t = v) := by
  rw [Bool.eq_iff_iff, literal, isMatch_eq_true_iff, reach_chars_ne_nil_iff, decide_eq_true_iff]

/-- **A star alone matches every text.** -/
theorem isMatch_lone (t : Text) : lone.isMatch t = true := by
  rw [lone, isMatch_eq_true_iff]
  obtain ⟨d, hd, hend⟩ := exists_mem_advance_starExpr { rest := t }
  refine List.ne_nil_of_mem (a := d) (List.mem_filter.2 ⟨hd, ?_⟩)
  show d.rest.head?.isNone = true
  rw [hend]
  rfl

/-! ## Texts that are taken literally -/

theorem rangesOf_chars (v : Text) : rangesOf (v.map .char) = [] := by
  induction v with
  | nil => rfl
  | cons c v ih => exact ih

theorem hasGroup_chars (v : Text) : hasGroup (v.map .char) = false := by
  induction v with
  | nil => rfl
  | cons c v ih => exact ih

/-- Whether each character that means something follows a caret. A caret takes the character after
it, whichever that is. -/
def isEscaped : Text → Bool
  | '^' :: _ :: rest => isEscaped rest
  | c :: rest => !isSpecial c && isEscaped rest
  | [] => true

theorem ne_caret_of_not_special {c : Char} (h : isSpecial c = false) : c ≠ '^' := by
  rintro rfl
  exact absurd h (by decide)

theorem isEscaped_cons_of_not_special {c : Char} (h : isSpecial c = false) (t : Text) :
    isEscaped (c :: t) = isEscaped t := by
  have hc : c ≠ '^' := ne_caret_of_not_special h
  cases t with
  | nil => rw [isEscaped] <;> simp_all
  | cons d t => rw [isEscaped] <;> simp_all

theorem isEscaped_quote (v : Text) : isEscaped (quote v) = true := by
  induction v with
  | nil => rfl
  | cons c v ih =>
    rw [quote]
    split
    · rw [isEscaped, ih]
    · next h => rw [isEscaped_cons_of_not_special (by simpa using h), ih]

/-- A text in which everything is taken literally spells the characters that unquoting leaves. -/
theorem patternText_of_isEscaped {s : Text} (h : isEscaped s = true) :
    PatternText false s ((unquote s).map .char) := by
  fun_induction isEscaped s with
  | case1 c rest ih => exact .escape c (ih h)
  | case2 c rest _ ih =>
    simp only [Bool.and_eq_true, Bool.not_eq_true'] at h
    rw [unquote_cons_of_ne (ne_caret_of_not_special h.1)]
    exact .plain h.1 rfl (ih h.2)
  | case3 => exact .nil

/-- Such a text is one pattern as a whole. -/
theorem spells_of_isEscaped {s : Text} (h : isEscaped s = true) :
    Spells false s ⟨s, wholeExpr ((unquote s).map .char), []⟩ := by
  refine ⟨(unquote s).map .char, patternText_of_isEscaped h, exprOfItems_eq (hasGroup_chars _), ?_⟩
  rw [rangesOf_chars]

/-- A quoted text is one pattern as a whole. -/
theorem spells_quote (v : Text) : Spells false (quote v) (literal v) := by
  simpa [literal, unquote_quote] using spells_of_isEscaped (isEscaped_quote v)

theorem spells_star (stop : Bool) : Spells stop ['*'] lone :=
  ⟨[.star], .star .nil, exprOfItems_eq rfl, rfl⟩

end Pattern

end TreeQuery
