import TreeQuery.Path
import TreeQuery.Proofs.Path.Reach

/-!
# What a path gives, apart from its fuel

What a path gives has three parts that do not mix.

* Whether it has a fault, and which, is a matter of its text alone (`fault?`): plans are read
  without looking at any tree, and no move of a frontier fails for any reason but want of fuel.
* What it finds without a fault depends on the forest and the roots (`Plan.outcome`).
* What it costs is the number of nodes that its descents reach, up to the end or the first fault
  (`demand`).

With limited fuel a path first pays its whole cost, as it were, and then gives what it gives without
a limit (`followLines_eq`). So fuel is a threshold and nothing else (`evaluate_some`), and the
faults of a path are the same wherever it starts (`evaluate_error_iff`).
-/

namespace TreeQuery.Path

variable {forest : Forest}

/-! ## Moves -/

/-- The frontier after a move, if fuel has no limit. -/
def Step.after (forest : Forest) (roots : List Root) : Step → List Root
  | descend => expand forest roots
  | climb => Path.climb forest roots
  | select least greatest => Path.select least greatest roots
  | sort descending param => Path.sort forest descending param roots
  | singleton => roots.map Root.singleton
  | filter distinct segment => (Path.filter forest distinct segment roots).map .node

/-- The frontiers at which a move descends: the present one, or none. -/
def Step.descents (roots : List Root) : Step → List (List Root)
  | descend => [roots]
  | _ => []

/-- How many nodes the descents from some frontiers reach, each descent on its own. -/
noncomputable def reach (forest : Forest) (frontiers : List (List Root)) : Nat :=
  (frontiers.map fun roots => {node | forest.Reaches roots node}.ncard).sum

theorem reach_append (frontiers more : List (List Root)) :
    reach forest (frontiers ++ more) = reach forest frontiers + reach forest more := by
  rw [reach, List.map_append, List.sum_append]
  rfl

/-- A move pays for what it reaches and does not fail otherwise. -/
theorem Step.move_eq (s : Step) (fuel : Fuel) (roots : List Root) :
    s.move forest fuel roots =
      (fuel.pay (reach forest (s.descents roots))).map
        fun fuel => (s.after forest roots, fuel) := by
  cases s with
  | descend =>
    show Path.descend forest fuel roots = _
    rw [descend_eq, ← ncard_reaches]
    rfl
  | climb | select | sort | singleton | filter =>
    show _ = (fuel.pay 0).map _
    rw [Fuel.pay_zero]
    rfl

/-! ## Plans -/

namespace Plan

/-- The fault at which a plan stops, if it does. -/
def fault? : Plan → Option Error
  | stop e => some e
  | last _ _ => none
  | step _ next => next.fault?

/-- What a plan gives if fuel has no limit. -/
def outcome (forest : Forest) (roots : List Root) : Plan → Except Error (List Node)
  | stop e => .error e
  | last distinct segment => .ok (Path.filter forest distinct segment roots)
  | step s next => next.outcome forest (s.after forest roots)

/-- The frontiers at which the descents of a plan start, in order. -/
def descents (forest : Forest) (roots : List Root) : Plan → List (List Root)
  | stop _ | last _ _ => []
  | step s next => s.descents roots ++ next.descents forest (s.after forest roots)

/-- A plan gives an error exactly if it stops at that fault. -/
theorem outcome_eq_error_iff {p : Plan} {roots : List Root} {e : Error} :
    p.outcome forest roots = .error e ↔ p.fault? = some e := by
  induction p generalizing roots with
  | stop e' => simp [outcome, fault?]
  | last distinct segment => simp [outcome, fault?]
  | step s next ih => exact ih

variable (forest) in
theorem exists_outcome_eq_ok {p : Plan} (h : p.fault? = none) (roots : List Root) :
    ∃ found, p.outcome forest roots = .ok found := by
  cases ho : p.outcome forest roots with
  | ok found => exact ⟨found, rfl⟩
  | error e =>
    rw [outcome_eq_error_iff.1 ho] at h
    cases h

/-- A plan pays for what its descents reach, and gives what it gives without a limit. -/
theorem run_eq (p : Plan) (fuel : Fuel) (roots : List Root) :
    p.run forest fuel roots =
      (fuel.pay (reach forest (p.descents forest roots))).bind fun fuel =>
        (p.outcome forest roots).map fun found => (found, fuel) := by
  induction p generalizing fuel roots with
  | stop e =>
    show _ = (fuel.pay 0).bind _
    rw [Fuel.pay_zero]
    rfl
  | last distinct segment =>
    show _ = (fuel.pay 0).bind _
    rw [Fuel.pay_zero]
    rfl
  | step s next ih =>
    show (s.move forest fuel roots).bind _ = _
    rw [Step.move_eq, descents, reach_append, Fuel.pay_add]
    cases fuel.pay (reach forest (s.descents roots)) with
    | error e => rfl
    | ok left => exact ih left (s.after forest roots)

end Plan

/-! ## Lines -/

/-- What lines find together if fuel has no limit. -/
def outcomeOfLines (forest : Forest) (roots : List Root) : List Text → Except Error (List Node)
  | [] => .ok []
  | line :: lines =>
    ((Plan.read false line).outcome forest roots).bind fun found =>
      (outcomeOfLines forest roots lines).map (found ++ ·)

/-- The frontiers at which the descents of lines start, up to the first fault. -/
def descentsOfLines (forest : Forest) (roots : List Root) : List Text → List (List Root)
  | [] => []
  | line :: lines =>
    (Plan.read false line).descents forest roots ++
      if (Plan.read false line).fault? = none then descentsOfLines forest roots lines else []

/-- Lines pay for what their descents reach, and give what they give without a limit. -/
theorem followLines_eq (fuel : Fuel) (roots : List Root) (ls : List Text) :
    followLines forest fuel roots ls =
      (fuel.pay (reach forest (descentsOfLines forest roots ls))).bind fun fuel =>
        (outcomeOfLines forest roots ls).map fun found => (found, fuel) := by
  induction ls generalizing fuel with
  | nil =>
    show _ = (fuel.pay 0).bind _
    rw [Fuel.pay_zero]
    rfl
  | cons line ls ih =>
    show ((Plan.read false line).run forest fuel roots).bind _ = _
    rw [Plan.run_eq, descentsOfLines, reach_append, Fuel.pay_add, outcomeOfLines]
    cases fuel.pay (reach forest ((Plan.read false line).descents forest roots)) with
    | error e => rfl
    | ok left =>
      cases hf : (Plan.read false line).fault? with
      | some e =>
        -- the lines after a fault cost nothing
        rw [Plan.outcome_eq_error_iff.2 hf, if_neg (Option.some_ne_none e)]
        show _ = (left.pay 0).bind _
        rw [Fuel.pay_zero]
        rfl
      | none =>
        obtain ⟨found, ho⟩ := Plan.exists_outcome_eq_ok forest hf roots
        rw [ho, if_pos rfl]
        show (followLines forest left roots ls).bind _ = (left.pay _).bind _
        rw [ih]
        cases left.pay (reach forest (descentsOfLines forest roots ls)) with
        | error e => rfl
        | ok rest => cases outcomeOfLines forest roots ls <;> rfl

/-! ## Paths -/

/-- The first fault of a path, line by line from the left. -/
def fault? (path : Text) : Option Error :=
  (lines path).findSome? fun line => (Plan.read false line).fault?

/-- The frontiers at which the descents of a path start, in all lines in order, up to the end or the
first fault. -/
def descents (forest : Forest) (path : Text) (roots : List Root) : List (List Root) :=
  descentsOfLines forest roots (lines path)

/-- How many nodes the descents of a path reach together. -/
noncomputable def demand (forest : Forest) (path : Text) (roots : List Root) : Nat :=
  reach forest (descents forest path roots)

theorem outcomeOfLines_eq_error_iff {roots : List Root} {ls : List Text} {e : Error} :
    outcomeOfLines forest roots ls = .error e ↔
      (ls.findSome? fun line => (Plan.read false line).fault?) = some e := by
  induction ls with
  | nil => simp [outcomeOfLines]
  | cons line ls ih =>
    rw [outcomeOfLines, List.findSome?_cons]
    cases hf : (Plan.read false line).fault? with
    | some e' =>
      rw [Plan.outcome_eq_error_iff.2 hf]
      simp [Except.bind]
    | none =>
      obtain ⟨found, ho⟩ := Plan.exists_outcome_eq_ok forest hf roots
      rw [ho, ← ih]
      cases outcomeOfLines forest roots ls <;> simp [Except.bind, Except.map]

theorem evaluate_eq (fuel : Fuel) (path : Text) (roots : List Root) :
    evaluate forest fuel path roots =
      (fuel.pay (demand forest path roots)).bind
        fun _ => outcomeOfLines forest roots (lines path) := by
  rw [evaluate, followLines_eq, demand, descents]
  cases fuel.pay _ with
  | error e => rfl
  | ok left => cases outcomeOfLines forest roots (lines path) <;> rfl

theorem evaluate_none (path : Text) (roots : List Root) :
    evaluate forest none path roots = outcomeOfLines forest roots (lines path) := by
  rw [evaluate_eq, Fuel.pay_none]
  rfl

/-- Fuel that covers what a path demands is as good as fuel without a limit. -/
theorem evaluate_of_covers {fuel : Fuel} {path : Text} {roots : List Root}
    (h : fuel.Covers (demand forest path roots)) :
    evaluate forest fuel path roots = evaluate forest none path roots := by
  obtain ⟨left, hp⟩ := Fuel.exists_pay_eq_ok h
  rw [evaluate_none, evaluate_eq, hp]
  rfl

/-- Without a limit, a path fails exactly with its fault. -/
theorem evaluate_none_eq_error_iff {path : Text} {roots : List Root} {e : Error} :
    evaluate forest none path roots = .error e ↔ fault? path = some e := by
  rw [evaluate_none, outcomeOfLines_eq_error_iff, fault?]

/-- **Fuel is a threshold.** As many units as the descents of a path reach nodes are enough for what
the path gives without a limit, be it an error or not, and fewer are not enough for anything. -/
theorem evaluate_some (forest : Forest) (path : Text) (roots : List Root) (limit : Nat) :
    evaluate forest (some limit) path roots =
      if limit < demand forest path roots then .error .fuelExhausted
      else evaluate forest none path roots := by
  rw [evaluate_none, evaluate_eq, Fuel.pay]
  by_cases h : limit < demand forest path roots
  · rw [if_pos h, if_neg (Nat.not_le.2 h)]
    rfl
  · rw [if_neg h, if_pos (Nat.not_lt.1 h)]
    rfl

/-- **Whether a path is valid does not depend on where it starts.** Without a limit it fails from
any roots in any forest or from none, with the same error. A limit changes nothing but that fuel may
run out. -/
theorem evaluate_error_iff (path : Text) (A B : Forest) (roots roots' : List Root) :
    (∀ e, evaluate A none path roots = .error e ↔ evaluate B none path roots' = .error e) ∧
      ∀ limit, evaluate A (some limit) path roots = .error .fuelExhausted ∨
        evaluate A (some limit) path roots = evaluate A none path roots := by
  constructor
  · intro e
    rw [evaluate_none_eq_error_iff, evaluate_none_eq_error_iff]
  · intro limit
    rw [evaluate_eq, evaluate_none]
    cases hp : Fuel.pay (some limit) (demand A path roots) with
    | ok left => exact .inr rfl
    | error e =>
      rw [Fuel.pay] at hp
      split at hp
      · cases hp
      · cases hp
        exact .inl rfl

end TreeQuery.Path
