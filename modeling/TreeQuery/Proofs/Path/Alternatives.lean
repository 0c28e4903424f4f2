import TreeQuery.Proofs.Path.Search

/-!
# Alternatives

A path of several lines finds what its first line finds, then what the second finds, and so on, and its
error is that of the first line that has one. So two paths with line breaks between them find what the one
finds and then what the other finds (`evaluate_alternatives`), whatever the line breaks are and however many.

Everything about the lines follows from one equation: at a line break, the lines of a text are those before
it and those after it (`fullLines_append_break`). Empty lines leave nothing behind; but a path without a
line break is read even if it is empty, so an empty path is no alternative that finds nothing.
-/

namespace TreeQuery

/-- A text is cut at each break, whatever stands before it. -/
theorem Text.splitBy_append_cons {isBreak : Char → Bool} {c : Char} (hc : isBreak c = true)
    (s t : Text) :
    splitBy isBreak (s ++ c :: t) = splitBy isBreak s ++ splitBy isBreak t := by
  induction s with
  | nil =>
    show splitBy isBreak (c :: t) = [] :: splitBy isBreak t
    rw [splitBy, if_pos hc]
  | cons d s ih =>
    rw [List.cons_append, splitBy, splitBy, ih]
    split
    · rfl
    · obtain ⟨first, pieces, hs⟩ := List.exists_cons_of_ne_nil (splitBy_ne_nil isBreak s)
      rw [hs]
      rfl

namespace Path

/-! ## Lines -/

/-- The lines of a text that are not empty. -/
def fullLines (t : Text) : List Text := (Text.splitBy isLineBreak t).filter (· ≠ [])

/-- A text of line breaks only. -/
def IsBlank (t : Text) : Prop := ∀ c ∈ t, isLineBreak c = true

instance (t : Text) : Decidable (IsBlank t) :=
  List.decidableBAll (fun c => isLineBreak c = true) t

/-- A place in a text where a line begins or ends. -/
def BetweenLines (before after : Text) : Prop :=
  (∀ c ∈ before.getLast?, isLineBreak c = true) ∨ ∀ c ∈ after.head?, isLineBreak c = true

theorem fullLines_nil : fullLines [] = [] := rfl

/-- **At a line break, the lines are those before it and those after it.** -/
theorem fullLines_append_break {c : Char} (hc : isLineBreak c = true) (s t : Text) :
    fullLines (s ++ c :: t) = fullLines s ++ fullLines t := by
  rw [fullLines, Text.splitBy_append_cons hc, List.filter_append]
  rfl

theorem fullLines_cons_break {c : Char} (hc : isLineBreak c = true) (t : Text) :
    fullLines (c :: t) = fullLines t :=
  fullLines_append_break hc [] t

theorem fullLines_blank_append {blank : Text} (h : IsBlank blank) (t : Text) :
    fullLines (blank ++ t) = fullLines t := by
  induction blank with
  | nil => rfl
  | cons c blank ih =>
    obtain ⟨hc, hblank⟩ := List.forall_mem_cons.1 h
    rw [List.cons_append, fullLines_cons_break hc, ih hblank]

theorem fullLines_append_blank {blank : Text} (hne : blank ≠ []) (h : IsBlank blank) (s t : Text) :
    fullLines (s ++ (blank ++ t)) = fullLines s ++ fullLines t := by
  obtain ⟨c, blank, rfl⟩ := List.exists_cons_of_ne_nil hne
  obtain ⟨hc, hblank⟩ := List.forall_mem_cons.1 h
  rw [List.cons_append, fullLines_append_break hc, fullLines_blank_append hblank]

/-- Between lines, a text has the lines before and the lines after. -/
theorem fullLines_append {before after : Text} (h : BetweenLines before after) :
    fullLines (before ++ after) = fullLines before ++ fullLines after := by
  rcases h with hlast | hhead
  · rcases List.eq_nil_or_concat' before with rfl | ⟨before, c, rfl⟩
    · rfl
    · have hc : isLineBreak c = true := hlast c (by simp)
      rw [List.append_assoc, List.singleton_append, fullLines_append_break hc,
        fullLines_append_break hc, fullLines_nil, List.append_nil]
  · cases after with
    | nil => rw [List.append_nil, fullLines_nil, List.append_nil]
    | cons c after =>
      have hc : isLineBreak c = true := hhead c (by simp)
      rw [fullLines_append_break hc, fullLines_cons_break hc]

/-- The lines of a path that is not empty are those that are not empty. -/
theorem lines_eq_fullLines {t : Text} (h : t ≠ []) : lines t = fullLines t := by
  by_cases ho : OneLine t
  · have hsplit : Text.splitBy isLineBreak (t ++ []) = [t ++ []] := splitBy_append ho rfl
    rw [List.append_nil] at hsplit
    rw [lines_of_oneLine ho, fullLines, hsplit, List.filter_cons_of_pos (by simpa using h),
      List.filter_nil]
  · exact lines_of_not_oneLine ho

/-- Line breaks between lines leave the lines as they are. -/
theorem lines_insert_blank {before blank after : Text} (hne : before ++ after ≠ [])
    (h : BetweenLines before after) (hblank : IsBlank blank) :
    lines (before ++ (blank ++ after)) = lines (before ++ after) := by
  by_cases hb : blank = []
  · rw [hb, List.nil_append]
  · rw [lines_eq_fullLines hne, lines_eq_fullLines (by simp [hb]),
      fullLines_append_blank hb hblank, fullLines_append h]

/-! ## What lines find -/

variable {forest : Forest}

/-- Lines find what the first of them find, then what the others find. -/
theorem outcomeOfLines_append (roots : List Root) (ls more : List Text) :
    outcomeOfLines forest roots (ls ++ more) =
      (outcomeOfLines forest roots ls).bind fun found =>
        (outcomeOfLines forest roots more).map (found ++ ·) := by
  induction ls with
  | nil =>
    rw [List.nil_append]
    cases outcomeOfLines forest roots more <;> rfl
  | cons line ls ih =>
    rw [List.cons_append, outcomeOfLines, outcomeOfLines, ih]
    cases (Plan.read false line).outcome forest roots with
    | error e => rfl
    | ok first =>
      cases outcomeOfLines forest roots ls with
      | error e => rfl
      | ok found =>
        cases outcomeOfLines forest roots more with
        | error e => rfl
        | ok others => exact congrArg Except.ok (List.append_assoc first found others).symm

/-- **Alternatives are joined.** Two paths with line breaks between them find what the first finds and
then what the second finds; if the first fails, its error is the error, and else that of the second.
Further line breaks, at the beginning or the end of any line, change nothing. -/
theorem evaluate_alternatives {a b sep : Text} (ha : a ≠ []) (hb : b ≠ []) (hs : sep ≠ [])
    (hsep : IsBlank sep) (forest : Forest) (roots : List Root) :
    evaluate forest none (a ++ (sep ++ b)) roots =
        ((evaluate forest none a roots).bind fun found =>
          (evaluate forest none b roots).map (found ++ ·)) ∧
      ∀ before blank after, before ++ after = a ++ (sep ++ b) → BetweenLines before after →
        IsBlank blank → ∀ fuel, evaluate forest fuel (before ++ (blank ++ after)) roots =
          evaluate forest fuel (a ++ (sep ++ b)) roots := by
  have hne : a ++ (sep ++ b) ≠ [] := List.append_ne_nil_of_left_ne_nil ha _
  constructor
  · rw [evaluate_none, evaluate_none, evaluate_none, ← outcomeOfLines_append, lines_eq_fullLines hne,
      lines_eq_fullLines ha, lines_eq_fullLines hb, fullLines_append_blank hs hsep]
  · intro before blank after heq hbetween hblank fuel
    rw [evaluate, evaluate, lines_insert_blank (heq ▸ hne) hbetween hblank, heq]

/-- From the top to the node on the left and, after a line break of two characters, to the one on the
right. -/
theorem evaluate_alternatives_diamond :
    ['l'] ≠ [] ∧ ['r'] ≠ [] ∧ ['\r', '\n'] ≠ [] ∧ IsBlank ['\r', '\n'] ∧
      BetweenLines [] ['l', '\r', '\n', 'r'] ∧ IsBlank ['\n'] ∧
      evaluate diamond none ['l', '\r', '\n', 'r'] [.node ⟨0, 0⟩] = .ok [⟨0, 1⟩, ⟨0, 2⟩] ∧
      evaluate diamond none ['\n', 'l', '\r', '\n', 'r'] [.node ⟨0, 0⟩] = .ok [⟨0, 1⟩, ⟨0, 2⟩] := by
  have hleft : evaluate diamond none ['l'] [.node ⟨0, 0⟩] = .ok [⟨0, 1⟩] :=
    evaluate_quote_of_isLiteral none (v := ['l']) (by decide) _
  have hright : evaluate diamond none ['r'] [.node ⟨0, 0⟩] = .ok [⟨0, 2⟩] :=
    evaluate_quote_of_isLiteral none (v := ['r']) (by decide) _
  have hsep : IsBlank ['\r', '\n'] := by decide
  have hbetween : BetweenLines [] ['l', '\r', '\n', 'r'] := .inl (by simp)
  have hblank : IsBlank ['\n'] := by decide
  obtain ⟨hjoin, hinsert⟩ := evaluate_alternatives (a := ['l']) (b := ['r']) (by decide) (by decide)
    (by decide) hsep diamond [.node ⟨0, 0⟩]
  rw [hleft, hright] at hjoin
  exact ⟨by decide, by decide, by decide, hsep, hbetween, hblank, hjoin,
    (hinsert [] ['\n'] _ rfl hbetween hblank none).trans hjoin⟩

end Path

end TreeQuery
