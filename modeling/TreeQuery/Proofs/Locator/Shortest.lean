import TreeQuery.Proofs.Locator.Soundness

/-!
# The shortest expression

The candidate parameters are tried in order. The first `count` of them make one attempt: the name of
the target, with a clause for each of these parameters that the target has a value for (`attempt`).
An expression is given out exactly if some attempt finds the target alone, and all attempts with fewer
candidates are followed without an error and find something else (`expression_eq_ok_iff`). So it is the
first attempt that will do.
-/

namespace TreeQuery.Locator

open TreeQuery.Path (evaluate)
open Pattern (map_eq_ok_iff bind_eq_ok_iff)

variable {forest : Forest} {params : List Text} {root : Root} {target : Node} {expr e : Text}

/-- The expression with the clauses of the first candidates. -/
def extended (forest : Forest) (target : Node) (expr : Text) (params : List Text) (count : Nat) :
    Text :=
  expr ++ (clauses forest target (params.take count)).flatten

/-- The expression that the first candidates make: the quoted name of the target, and for each of them
that it has a value for, a clause with the quoted value. -/
def attempt (forest : Forest) (target : Node) (params : List Text) (count : Nat) : Text :=
  extended forest target (Pattern.quote (forest.name target)) params count

/-- Whether an expression is followed without an error to something else than the target alone. -/
def FindsOther (forest : Forest) (root : Root) (target : Node) (expr : Text) : Prop :=
  ∃ found, evaluate forest .standard expr [root] = .ok found ∧ found ≠ [target]

theorem selectsOnly_eq_ok_false_iff :
    selectsOnly forest root target expr = .ok false ↔ FindsOther forest root target expr := by
  unfold selectsOnly FindsOther
  rw [map_eq_ok_iff]
  exact exists_congr fun found => and_congr_right fun _ => decide_eq_false_iff_not

/-! ## Candidates one by one -/

/-- The expression with the clause of one candidate, unless the target has no value for it. -/
def extendedBy (forest : Forest) (target : Node) (expr param : Text) : Text :=
  if forest.parameter target param = [] then expr
  else expr ++ clause param (forest.parameter target param)

theorem extended_zero (expr : Text) (params : List Text) :
    extended forest target expr params 0 = expr :=
  List.append_nil expr

theorem extended_succ (expr param : Text) (params : List Text) (count : Nat) :
    extended forest target expr (param :: params) (count + 1) =
      extended forest target (extendedBy forest target expr param) params count := by
  unfold extended extendedBy clauses
  by_cases h : forest.parameter target param = []
  · rw [if_pos h, List.take_succ_cons, List.filter_cons_of_neg (by simpa using h)]
  · rw [if_neg h, List.take_succ_cons, List.filter_cons_of_pos (by simpa using h), List.map_cons,
      List.flatten_cons, ← List.append_assoc]

/-- Whether the first candidates extend an expression to one that finds the target alone, and fewer
candidates extend it to one that finds something else. -/
structure FirstFinds (forest : Forest) (root : Root) (target : Node) (expr : Text)
    (params : List Text) (count : Nat) : Prop where
  le_length : count ≤ params.length
  finds : evaluate forest .standard (extended forest target expr params count) [root] = .ok [target]
  findsOther : ∀ fewer < count,
    FindsOther forest root target (extended forest target expr params fewer)

theorem firstFinds_zero_iff :
    FirstFinds forest root target expr params 0 ↔
      evaluate forest .standard expr [root] = .ok [target] := by
  constructor
  · intro h
    have hfinds := h.finds
    rwa [extended_zero] at hfinds
  · intro h
    refine ⟨Nat.zero_le _, ?_, fun fewer hlt => absurd hlt (Nat.not_lt_zero fewer)⟩
    rwa [extended_zero]

theorem firstFinds_succ_iff {param : Text} {count : Nat} :
    FirstFinds forest root target expr (param :: params) (count + 1) ↔
      FindsOther forest root target expr ∧
        FirstFinds forest root target (extendedBy forest target expr param) params count := by
  constructor
  · rintro ⟨hle, hfinds, hother⟩
    have hfirst := hother 0 (Nat.zero_lt_succ count)
    rw [extended_zero] at hfirst
    rw [extended_succ] at hfinds
    refine ⟨hfirst, Nat.le_of_succ_le_succ hle, hfinds, fun fewer hlt => ?_⟩
    rw [← extended_succ]
    exact hother (fewer + 1) (Nat.succ_lt_succ hlt)
  · rintro ⟨hfirst, hle, hfinds, hother⟩
    rw [← extended_succ] at hfinds
    refine ⟨Nat.succ_le_succ hle, hfinds, fun fewer hlt => ?_⟩
    cases fewer with
    | zero => rwa [extended_zero]
    | succ fewer =>
      rw [extended_succ]
      exact hother fewer (Nat.lt_of_succ_lt_succ hlt)

/-! ## Lengthening -/

/-- Lengthening begins by trying the expression as it is. -/
theorem finds_or_findsOther_of_lengthen {cs : List Text}
    (h : lengthen forest root target expr cs = .ok e) :
    evaluate forest .standard expr [root] = .ok [target] ∧ e = expr ∨
      FindsOther forest root target expr := by
  cases cs with
  | nil | cons =>
    obtain ⟨selects, hs, h⟩ := bind_eq_ok_iff.1 h
    cases selects with
    | true => exact .inl ⟨selectsOnly_eq_ok_true_iff.1 hs, (Except.ok.inj h).symm⟩
    | false => exact .inr (selectsOnly_eq_ok_false_iff.1 hs)

/-- An expression that finds the target alone is not lengthened. -/
theorem lengthen_of_finds (h : evaluate forest .standard expr [root] = .ok [target])
    (cs : List Text) : lengthen forest root target expr cs = .ok expr := by
  have hs := selectsOnly_eq_ok_true_iff.2 h
  cases cs with
  | nil | cons => rw [lengthen, hs]; rfl

/-- Another expression is lengthened by the next candidate that the target has a value for. -/
theorem lengthen_of_findsOther (h : FindsOther forest root target expr) (param : Text)
    (params : List Text) :
    lengthen forest root target expr (clauses forest target (param :: params)) =
      lengthen forest root target (extendedBy forest target expr param)
        (clauses forest target params) := by
  have hs := selectsOnly_eq_ok_false_iff.2 h
  unfold extendedBy clauses
  by_cases hv : forest.parameter target param = []
  · rw [if_pos hv, List.filter_cons_of_neg (by simpa using hv)]
  · rw [if_neg hv, List.filter_cons_of_pos (by simpa using hv), List.map_cons, lengthen, hs]
    rfl

/-- **Lengthening stops at the first candidates that do.** -/
theorem lengthen_eq_ok_iff :
    lengthen forest root target expr (clauses forest target params) = .ok e ↔
      ∃ count, e = extended forest target expr params count ∧
        FirstFinds forest root target expr params count := by
  constructor
  · intro h
    induction params generalizing expr with
    | nil =>
      obtain ⟨hfinds, rfl⟩ | hother := finds_or_findsOther_of_lengthen h
      · exact ⟨0, (extended_zero _ _).symm, firstFinds_zero_iff.2 hfinds⟩
      · rw [clauses, List.filter_nil, List.map_nil, lengthen, selectsOnly_eq_ok_false_iff.2 hother] at h
        cases h
    | cons param params ih =>
      obtain ⟨hfinds, rfl⟩ | hother := finds_or_findsOther_of_lengthen h
      · exact ⟨0, (extended_zero _ _).symm, firstFinds_zero_iff.2 hfinds⟩
      · rw [lengthen_of_findsOther hother] at h
        obtain ⟨count, rfl, hfirst⟩ := ih h
        exact ⟨count + 1, (extended_succ _ _ _ _).symm, firstFinds_succ_iff.2 ⟨hother, hfirst⟩⟩
  · rintro ⟨count, rfl, h⟩
    induction params generalizing expr count with
    | nil =>
      obtain rfl := Nat.le_zero.1 h.le_length
      rw [extended_zero]
      exact lengthen_of_finds (firstFinds_zero_iff.1 h) _
    | cons param params ih =>
      cases count with
      | zero =>
        rw [extended_zero]
        exact lengthen_of_finds (firstFinds_zero_iff.1 h) _
      | succ count =>
        obtain ⟨hother, hfirst⟩ := firstFinds_succ_iff.1 h
        rw [extended_succ, lengthen_of_findsOther hother]
        exact ih count hfirst

/-- **An expression is the first attempt that finds the target alone.** It is given out exactly for a
child of the root, if some number of candidates makes it, it finds the target and nothing else, and
each smaller number makes an expression that is followed without an error to something else. -/
theorem expression_eq_ok_iff (forest : Forest) (params : List Text) (root : Root) (target : Node)
    (e : Text) :
    expression forest params root target = .ok e ↔
      target ∈ root.children forest ∧ ∃ count ≤ params.length,
        e = attempt forest target params count ∧
        evaluate forest .standard e [root] = .ok [target] ∧
        ∀ fewer < count, ∃ found,
          evaluate forest .standard (attempt forest target params fewer) [root] = .ok found ∧
            found ≠ [target] := by
  unfold expression
  by_cases hmem : target ∈ root.children forest
  · rw [if_pos hmem, lengthen_eq_ok_iff, and_iff_right hmem]
    constructor
    · rintro ⟨count, rfl, hfirst⟩
      exact ⟨count, hfirst.le_length, rfl, hfirst.finds, hfirst.findsOther⟩
    · rintro ⟨count, hle, rfl, hfinds, hother⟩
      exact ⟨count, rfl, hle, hfinds, hother⟩
  · rw [if_neg hmem]
    constructor
    · intro h
      cases h
    · rintro ⟨hmem', -⟩
      exact absurd hmem' hmem

end TreeQuery.Locator
