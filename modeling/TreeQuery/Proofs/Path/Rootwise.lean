import TreeQuery.Proofs.Path.Fusion

/-!
# Root by root

Filters, with or without a dot, and steps to the parents look at each root by itself: what they find
from some roots is what they find from the first, then what they find from the second, and so on. A
line of nothing but these finds from two lists of roots together what it finds from the one and then
what it finds from the other (`evaluate_append_roots`). Nothing is dropped from the second part that
the first part holds already, since only a filter after a descent looks for repetitions.

Whether such a line can be read does not depend on the roots, and it costs no fuel.
-/

namespace TreeQuery.Path

open Plan (opening endsName restOf)
open Segment (Spelled)

/-! ## Lines -/

/-- Lines of filters, dots for the roots themselves and steps to the parents, as far as they can be
read. -/
inductive Rootwise : Text → Prop
  | climb {rest : Option Text} : Rootwise (restOf rest) → Rootwise ('.' :: '.' :: tail rest)
  | self {rest : Text} :
    endsName rest = true →
      (∀ segment next, Segment.read ('*' :: rest) = .ok (segment, some next) → Rootwise next) →
      Rootwise ('.' :: rest)
  | filter {t : Text} :
    opening t = .filter →
      (∀ segment next, Segment.read t = .ok (segment, some next) → Rootwise next) → Rootwise t

/-- A filter at the end is such a line. -/
theorem Rootwise.of_isFilter {s : Text} (h : IsFilter s) : Rootwise s := by
  cases h with
  | children ho hs =>
    refine .filter ho fun segment next hread => ?_
    simp [Segment.read_of_spelled hs] at hread
  | self he hs =>
    refine .self he fun segment next hread => ?_
    simp [Segment.read_of_spelled hs] at hread

/-- A filter may go before any such line. -/
theorem Rootwise.filter_bar {s q : Text} (h : IsFilter s) (hq : Rootwise q) :
    Rootwise (s ++ '|' :: q) := by
  cases h with
  | children ho hs =>
    refine .filter (Plan.opening_append ho (by decide) q) fun segment next hread => ?_
    rw [Segment.read_append_bar_of_spelled hs] at hread
    cases hread
    exact hq
  | self he hs =>
    rw [List.cons_append]
    refine .self (Plan.endsName_append_bar he q) fun segment next hread => ?_
    rw [← List.cons_append, Segment.read_append_bar_of_spelled hs] at hread
    cases hread
    exact hq

/-- Two dots may go before any such line. -/
theorem Rootwise.climb_bar {q : Text} (hq : Rootwise q) : Rootwise ('.' :: '.' :: '|' :: q) :=
  have hrest : Rootwise (restOf (some q)) := hq
  .climb hrest

/-! ## Moves -/

variable {forest : Forest}

/-- The moves that look at each root by itself. A filter must not look for repetitions. -/
def Step.Rootwise : Step → Prop
  | climb | singleton => True
  | filter distinct _ => distinct = false
  | _ => False

theorem climb_append (r₁ r₂ : List Root) :
    climb forest (r₁ ++ r₂) = climb forest r₁ ++ climb forest r₂ := by
  simp [climb]

theorem filter_append (segment : Segment) (r₁ r₂ : List Root) :
    filter forest false segment (r₁ ++ r₂) =
      filter forest false segment r₁ ++ filter forest false segment r₂ := by
  simp [filter]

/-- Such a move takes the roots of two lists to what it takes the one list to and then the other. -/
theorem Step.after_append {s : Step} (h : s.Rootwise) (r₁ r₂ : List Root) :
    s.after forest (r₁ ++ r₂) = s.after forest r₁ ++ s.after forest r₂ := by
  cases s with
  | climb => exact climb_append r₁ r₂
  | singleton => exact List.map_append
  | filter distinct segment =>
    cases h
    simp [Step.after, filter_append]
  | descend | select | sort => exact h.elim

/-! ## Plans -/

namespace Plan

/-- The plans that look at each root by itself from beginning to end. -/
def Rootwise : Plan → Prop
  | stop _ => True
  | last distinct _ => distinct = false
  | step s next => s.Rootwise ∧ next.Rootwise

theorem rootwise_readFilter {t : Text}
    (h : ∀ segment next, Segment.read t = .ok (segment, some next) → (read false next).Rootwise) :
    (readFilter false t).Rootwise := by
  cases hread : Segment.read t with
  | error e =>
    rw [readFilter_stop false hread]
    trivial
  | ok r =>
    obtain ⟨segment, _ | next⟩ := r
    · rw [readFilter_last false hread]
      rfl
    · rw [readFilter_step false hread]
      exact ⟨rfl, h segment next hread⟩

theorem rootwise_read {t : Text} (h : Path.Rootwise t) : (read false t).Rootwise := by
  induction h with
  | climb _ ih =>
    rw [read_climb]
    exact ⟨trivial, ih⟩
  | self he _ ih =>
    rw [read_self false he]
    exact ⟨trivial, rootwise_readFilter ih⟩
  | filter ho _ ih =>
    rw [read_filter false ho]
    exact rootwise_readFilter ih

/-- Such a plan does not descend. -/
theorem Rootwise.descents_eq_nil {p : Plan} (h : p.Rootwise) (roots : List Root) :
    p.descents forest roots = [] := by
  induction p generalizing roots with
  | stop e => rfl
  | last distinct segment => rfl
  | step s next ih =>
    obtain ⟨hs, hn⟩ := h
    rw [descents, ih hn]
    cases s with
    | climb | singleton | filter => rfl
    | descend | select | sort => exact hs.elim

/-- A plan without a fault that looks at each root by itself finds from two lists of roots what it
finds from the one and then what it finds from the other. -/
theorem Rootwise.outcome_append {p : Plan} (h : p.Rootwise) (hf : p.fault? = none)
    (r₁ r₂ : List Root) :
    ∃ found more, p.outcome forest r₁ = .ok found ∧ p.outcome forest r₂ = .ok more ∧
      p.outcome forest (r₁ ++ r₂) = .ok (found ++ more) := by
  induction p generalizing r₁ r₂ with
  | stop e => simp [fault?] at hf
  | last distinct segment =>
    cases h
    exact ⟨_, _, rfl, rfl, congrArg Except.ok (filter_append segment r₁ r₂)⟩
  | step s next ih =>
    obtain ⟨hs, hn⟩ := h
    obtain ⟨found, more, h₁, h₂, h⟩ := ih hn hf (s.after forest r₁) (s.after forest r₂)
    refine ⟨found, more, h₁, h₂, ?_⟩
    rw [outcome, Step.after_append hs, h]

end Plan

/-! ## Paths -/

/-- Such a line needs no fuel. -/
theorem evaluate_of_rootwise {path : Text} (hl : OneLine path) (hp : Rootwise path) (fuel : Fuel)
    (roots : List Root) :
    evaluate forest fuel path roots = (Plan.read false path).outcome forest roots := by
  rw [evaluate_of_oneLine forest fuel hl, Plan.run_eq,
    (Plan.rootwise_read hp).descents_eq_nil]
  show ((fuel.pay 0).bind _).map _ = _
  rw [Fuel.pay_zero]
  show (Except.map _ _).map _ = _
  cases (Plan.read false path).outcome forest roots <;> rfl

/-- **From two lists of roots, filters and steps to the parents find what they find from the one and
then what they find from the other.** If the line cannot be read, all three fail with the same
error. -/
theorem evaluate_append_roots {path : Text} (hl : OneLine path) (hp : Rootwise path)
    (forest : Forest) (fuel : Fuel) (r₁ r₂ : List Root) :
    (∃ found more, evaluate forest fuel path r₁ = .ok found ∧
        evaluate forest fuel path r₂ = .ok more ∧
        evaluate forest fuel path (r₁ ++ r₂) = .ok (found ++ more)) ∨
      ∃ e, evaluate forest fuel path r₁ = .error e ∧ evaluate forest fuel path r₂ = .error e ∧
        evaluate forest fuel path (r₁ ++ r₂) = .error e := by
  simp only [evaluate_of_rootwise hl hp]
  cases hf : (Plan.read false path).fault? with
  | none => exact .inl ((Plan.rootwise_read hp).outcome_append hf r₁ r₂)
  | some e =>
    have hstop (roots : List Root) : (Plan.read false path).outcome forest roots = .error e :=
      Plan.outcome_eq_error_iff.2 hf
    exact .inr ⟨e, hstop _, hstop _, hstop _⟩

/-- The nodes next to the roots with the same name. A root of its own is dropped on the way up, and
what several roots lead to is found several times. -/
theorem evaluate_append_roots_marked :
    OneLine "..|s".toList ∧ Rootwise "..|s".toList ∧
      evaluate marked none "..|s".toList [.node ⟨0, 1⟩, .detached [⟨0, 1⟩]] =
        .ok [⟨0, 1⟩, ⟨0, 2⟩, ⟨0, 1⟩] ∧
      evaluate marked none "..|s".toList [.node ⟨0, 2⟩, .node ⟨0, 0⟩] =
        .ok [⟨0, 1⟩, ⟨0, 2⟩, ⟨0, 1⟩] ∧
      evaluate marked none "..|s".toList
          ([.node ⟨0, 1⟩, .detached [⟨0, 1⟩]] ++ [.node ⟨0, 2⟩, .node ⟨0, 0⟩]) =
        .ok ([⟨0, 1⟩, ⟨0, 2⟩, ⟨0, 1⟩] ++ [⟨0, 1⟩, ⟨0, 2⟩, ⟨0, 1⟩]) := by
  have hl : OneLine "..|s".toList := by decide
  have hs : Spelled ['s'] { name := Pattern.literal ['s'] } := Segment.spelled_quote ['s']
  have hp : Rootwise "..|s".toList := .climb_bar (.of_isFilter (.children rfl hs))
  have hread : Plan.read false "..|s".toList =
      .step .climb (.last false { name := Pattern.literal ['s'] }) := by
    rw [show "..|s".toList = '.' :: '.' :: '|' :: ['s'] from rfl, Plan.read_climb_bar,
      Plan.read_filter false rfl, Plan.readFilter_last false (Segment.read_of_spelled hs)]
  have hfound (roots : List Root) : evaluate marked none "..|s".toList roots =
      .ok (((climb marked roots).flatMap (·.children marked)).filter
        fun node => decide (marked.name node = ['s'])) := by
    rw [evaluate_of_rootwise hl hp, hread]
    exact congrArg Except.ok (filter_literal ['s'] (climb marked roots))
  have h₁ : evaluate marked none "..|s".toList [.node ⟨0, 1⟩, .detached [⟨0, 1⟩]] =
      .ok [⟨0, 1⟩, ⟨0, 2⟩, ⟨0, 1⟩] := by
    rw [hfound]
    decide
  have h₂ : evaluate marked none "..|s".toList [.node ⟨0, 2⟩, .node ⟨0, 0⟩] =
      .ok [⟨0, 1⟩, ⟨0, 2⟩, ⟨0, 1⟩] := by
    rw [hfound]
    decide
  refine ⟨hl, hp, h₁, h₂, ?_⟩
  rcases evaluate_append_roots hl hp marked none [.node ⟨0, 1⟩, .detached [⟨0, 1⟩]]
    [.node ⟨0, 2⟩, .node ⟨0, 0⟩] with ⟨found, more, hf, hm, h⟩ | ⟨e, he, -⟩
  · rw [h₁] at hf
    rw [h₂] at hm
    cases hf
    cases hm
    exact h
  · rw [h₁] at he
    cases he

end TreeQuery.Path
