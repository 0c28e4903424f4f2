import TreeQuery.Proofs.Path.Outcome
import TreeQuery.Proofs.Path.Quoting

/-!
# Paths one after the other

A line is a sequence of complete segments with a bar after each but the last. When the last one is a
filter, then the nodes that the line finds are a frontier like any other, and a path appended after a
bar goes on from them (`evaluate_append_bar`).

The proof has two halves. Reading the joined line gives the plan of the first path with the plan of
the second in place of its end (`read_append_bar`); this is an induction on the segments of the first
path and does not look at any tree. Carrying out such a plan is carrying out the two plans one after
the other (`run_followedBy`).

A line that can be followed without an error ends in a filter or in an operator that no bar follows
(`endsIn_of_run`), so there is no third kind of line to think of.
-/

namespace TreeQuery.Path

open Pattern (map_eq_ok_iff bind_eq_ok_iff)
open Segment (Spelled)

/-! ## Lines by their last segment -/

/-- A filter segment: a pattern with clauses, or a dot with clauses. -/
inductive IsFilter : Text → Prop
  | children {s : Text} {segment : Segment} :
    Plan.opening s = .filter → Spelled s segment → IsFilter s
  | self {s : Text} {segment : Segment} :
    Plan.endsName s = true → Spelled ('*' :: s) segment → IsFilter ('.' :: s)

/-- An operator that no bar follows. -/
inductive IsOperator : Text → Prop
  | descend : IsOperator ['*', '*']
  | climb : IsOperator ['.', '.']
  | select {bounds : Text} :
    '|' ∉ bounds → Plan.bounds? bounds ≠ none → IsOperator ('.' :: '#' :: bounds)
  | sort {key : Text} : '|' ∉ key → IsOperator ('.' :: '!' :: key)

/-- Lines of complete segments, with a bar after each but the last, of which `Last` holds. -/
inductive EndsIn (Last : Text → Prop) : Text → Prop
  | last {s : Text} : Last s → EndsIn Last s
  | descend {rest : Text} : EndsIn Last rest → EndsIn Last ('*' :: '*' :: '|' :: rest)
  | climb {rest : Text} : EndsIn Last rest → EndsIn Last ('.' :: '.' :: '|' :: rest)
  | select {bounds rest : Text} :
    '|' ∉ bounds → Plan.bounds? bounds ≠ none → EndsIn Last rest →
      EndsIn Last ('.' :: '#' :: (bounds ++ '|' :: rest))
  | sort {key rest : Text} :
    '|' ∉ key → EndsIn Last rest → EndsIn Last ('.' :: '!' :: (key ++ '|' :: rest))
  | filter {s rest : Text} : IsFilter s → EndsIn Last rest → EndsIn Last (s ++ '|' :: rest)

/-! ## Plans one after the other -/

namespace Plan

/-- A plan with another one in place of its end. -/
def followedBy (q : Plan) : Plan → Plan
  | stop e => stop e
  | last distinct segment => step (.filter distinct segment) q
  | step s next => step s (followedBy q next)

theorem followedBy_assoc (p q r : Plan) :
    followedBy r (followedBy q p) = followedBy (followedBy r q) p := by
  induction p with
  | stop e => rfl
  | last distinct segment => rfl
  | step s next ih => rw [followedBy, followedBy, followedBy, ih]

/-- Reading goes on after a filter segment with a bar as it does after a bar. -/
theorem read_isFilter_append_bar {s : Text} (h : IsFilter s) (distinct : Bool) (q : Text) :
    read distinct (s ++ '|' :: q) = followedBy (read false q) (read distinct s) := by
  cases h with
  | children ho hs =>
    rw [read_filter distinct ho, read_filter distinct (opening_append ho (by decide) q),
      readFilter_last distinct (Segment.read_of_spelled hs),
      readFilter_step distinct (Segment.read_append_bar_of_spelled hs q)]
    rfl
  | self he hs =>
    rw [List.cons_append, read_self distinct he, read_self distinct (endsName_append_bar he q),
      readFilter_last distinct (Segment.read_of_spelled hs), ← List.cons_append,
      readFilter_step distinct (Segment.read_append_bar_of_spelled hs q)]
    rfl

/-- **The plan of a joined line is the plan of the first path with that of the second for its end.** -/
theorem read_append_bar {p : Text} (h : EndsIn IsFilter p) (distinct : Bool) (q : Text) :
    read distinct (p ++ '|' :: q) = followedBy (read false q) (read distinct p) := by
  induction h generalizing distinct with
  | last hs => exact read_isFilter_append_bar hs distinct q
  | @descend rest _ ih =>
    show read distinct ('*' :: '*' :: '|' :: (rest ++ '|' :: q)) = _
    rw [read_descend_bar, read_descend_bar, ih]
    rfl
  | @climb rest _ ih =>
    show read distinct ('.' :: '.' :: '|' :: (rest ++ '|' :: q)) = _
    rw [read_climb_bar, read_climb_bar, ih]
    rfl
  | @select bounds rest hn hb _ ih =>
    obtain ⟨⟨least, greatest⟩, hb⟩ := Option.ne_none_iff_exists'.1 hb
    show read distinct ('.' :: '#' :: ((bounds ++ '|' :: rest) ++ '|' :: q)) = _
    rw [List.append_assoc, List.cons_append, read_select_bar distinct hn hb,
      read_select_bar distinct hn hb, ih]
    rfl
  | @sort key rest hn _ ih =>
    show read distinct ('.' :: '!' :: ((key ++ '|' :: rest) ++ '|' :: q)) = _
    rw [List.append_assoc, List.cons_append, read_sort_bar distinct hn, read_sort_bar distinct hn, ih]
    rfl
  | @filter s rest hs _ ih =>
    rw [List.append_assoc, List.cons_append, read_isFilter_append_bar hs, ih,
      read_isFilter_append_bar hs, followedBy_assoc]

/-! ## Carrying out -/

variable {forest : Forest}

/-- A plan goes on from the nodes that the plan before it found, with the fuel that was left. -/
theorem run_followedBy (p q : Plan) (fuel : Fuel) (roots : List Root) :
    (followedBy q p).run forest fuel roots =
      (p.run forest fuel roots).bind fun (nodes, fuel) => q.run forest fuel (nodes.map .node) := by
  induction p generalizing fuel roots with
  | stop e => rfl
  | last distinct segment => rfl
  | step s next ih =>
    show (s.move forest fuel roots).bind _ = ((s.move forest fuel roots).bind _).bind _
    cases s.move forest fuel roots with
    | error e => rfl
    | ok moved => exact ih moved.2 moved.1

theorem run_step_eq_ok_iff {s : Step} {next : Plan} {fuel : Fuel} {roots : List Root}
    {found : List Node × Fuel} :
    (step s next).run forest fuel roots = .ok found ↔
      ∃ roots' fuel', s.move forest fuel roots = .ok (roots', fuel') ∧
        next.run forest fuel' roots' = .ok found := by
  rw [run, bind_eq_ok_iff, Prod.exists]

theorem run_step_of_ok {s : Step} {next : Plan} {fuel fuel' : Fuel} {roots roots' : List Root}
    (h : s.move forest fuel roots = .ok (roots', fuel')) :
    (step s next).run forest fuel roots = next.run forest fuel' roots' := by
  rw [run, h]
  rfl

/-- Where a filter could be followed, there is a segment, and what follows it could be followed. -/
theorem exists_spelled_of_run_readFilter {t : Text} {distinct : Bool} {fuel : Fuel}
    {roots : List Root} {found : List Node × Fuel}
    (h : (readFilter distinct t).run forest fuel roots = .ok found) :
    ∃ s segment next, t = s ++ tail next ∧ Spelled s segment ∧
      ∀ rest, next = some rest →
        ∃ fuel' roots', (read false rest).run forest fuel' roots' = .ok found := by
  cases hr : Segment.read t with
  | error e =>
    rw [readFilter_stop distinct hr] at h
    cases h
  | ok r =>
    obtain ⟨segment, next⟩ := r
    obtain ⟨s, ht, hs⟩ := Segment.read_eq_ok_iff.1 hr
    refine ⟨s, segment, next, ht, hs, ?_⟩
    rintro rest rfl
    rw [readFilter_step distinct hr] at h
    obtain ⟨roots', fuel', -, h⟩ := run_step_eq_ok_iff.1 h
    exact ⟨fuel', roots', h⟩

/-- A line that can be followed ends in a filter or in an operator that no bar follows. -/
theorem endsIn_of_run {t : Text} {distinct : Bool} {fuel : Fuel} {roots : List Root}
    {found : List Node × Fuel} (h : (read distinct t).run forest fuel roots = .ok found) :
    EndsIn (fun s => IsFilter s ∨ IsOperator s) t := by
  induction hn : t.length using Nat.strongRecOn generalizing t distinct fuel roots with
  | ind n ih =>
    subst hn
    -- what follows the first segment is shorter and could be followed too
    have after {s : Step} {d : Bool} {rest : Text}
        (h : (step s (read d rest)).run forest fuel roots = .ok found)
        (hl : rest.length < t.length) : EndsIn (fun s => IsFilter s ∨ IsOperator s) rest := by
      obtain ⟨roots', fuel', -, h⟩ := run_step_eq_ok_iff.1 h
      exact ih _ hl h rfl
    rcases opening_cases t with
      ⟨rest, rfl⟩ | ⟨rest, rfl⟩ | ⟨bounds, rest, rfl, hn⟩ | ⟨key, rest, rfl, hn⟩ | ⟨rest, rfl, he⟩ | ho
    · cases rest with
      | none => exact .last (.inr .descend)
      | some rest =>
        rw [tail, read_descend_bar] at h
        exact .descend (after h (by simp [tail]; omega))
    · cases rest with
      | none => exact .last (.inr .climb)
      | some rest =>
        rw [tail, read_climb_bar] at h
        exact .climb (after h (by simp [tail]; omega))
    · rw [read_select distinct rest hn] at h
      split at h
      · next hb =>
        have hb := Option.ne_none_iff_exists'.2 ⟨_, hb⟩
        cases rest with
        | none => exact .last (.inr (by rw [tail, List.append_nil]; exact .select hn hb))
        | some rest => exact .select hn hb (after h (by simp [tail]; omega))
      · cases h
    · cases rest with
      | none => exact .last (.inr (by rw [tail, List.append_nil]; exact .sort hn))
      | some rest =>
        rw [tail, read_sort_bar distinct hn] at h
        exact .sort hn (after h (by simp [tail]; omega))
    -- a dot is read as a star, which is the first character of the segment then
    · rw [read_self distinct he] at h
      obtain ⟨_, _, -, h⟩ := run_step_eq_ok_iff.1 h
      obtain ⟨s, segment, next, ht, hs, hnext⟩ := exists_spelled_of_run_readFilter h
      cases s with
      | nil => cases next <;> cases ht
      | cons c s =>
        rw [List.cons_append] at ht
        obtain ⟨rfl, rfl⟩ := List.cons.inj ht
        cases next with
        | none =>
          rw [tail, List.append_nil] at he ⊢
          exact .last (.inl (.self he hs))
        | some rest =>
          obtain ⟨fuel', roots', h⟩ := hnext rest rfl
          have hf : IsFilter ('.' :: s) := .self (endsName_of_append he) hs
          exact .filter hf (ih _ (by simp [tail]; omega) h rfl)
    · rw [read_filter distinct ho] at h
      obtain ⟨s, segment, next, rfl, hs, hnext⟩ := exists_spelled_of_run_readFilter h
      cases next with
      | none =>
        rw [tail, List.append_nil] at ho ⊢
        exact .last (.inl (.children ho hs))
      | some rest =>
        obtain ⟨fuel', roots', h⟩ := hnext rest rfl
        have hf : IsFilter s := .children (opening_of_append_bar ho) hs
        exact .filter hf (ih _ (by simp [tail]; omega) h rfl)

end Plan

/-! ## Fuel without limit -/

/-- Where the fuel has no limit, a plan does not set one. -/
theorem Plan.fuel_eq_none_of_run {p : Plan} {roots : List Root} {nodes : List Node} {fuel : Fuel}
    (h : p.run forest none roots = .ok (nodes, fuel)) : fuel = none := by
  rw [run_eq, Fuel.pay_none] at h
  obtain ⟨found, -, he⟩ := map_eq_ok_iff.1 h
  exact (Prod.mk.inj he).2.symm

/-! ## Composition -/

/-- **A path after a bar goes on from what the path before it found.** The path before the bar ends
in a filter. Errors of the path after it are the same as well. -/
theorem evaluate_append_bar {p q : Text} {roots : List Root} {nodes : List Node} (hp : OneLine p)
    (hq : OneLine q) (hf : EndsIn IsFilter p) (h : evaluate forest none p roots = .ok nodes) :
    evaluate forest none (p ++ '|' :: q) roots = evaluate forest none q (nodes.map .node) := by
  have hpq : OneLine (p ++ '|' :: q) :=
    oneLine_append_iff.2 ⟨hp, oneLine_cons_iff.2 ⟨by decide, hq⟩⟩
  rw [evaluate_of_oneLine forest none hp] at h
  obtain ⟨⟨nodes', fuel⟩, hr, rfl⟩ := map_eq_ok_iff.1 h
  -- the second path alone starts with the whole fuel, which is what the first one left of it
  rw [evaluate_of_oneLine forest none hpq, evaluate_of_oneLine forest none hq,
    Plan.read_append_bar hf, Plan.run_followedBy, hr, Plan.fuel_eq_none_of_run hr]
  rfl

/-- From `a` to the node `b` below it. -/
theorem evaluate_name_bar_name :
    OneLine ['a'] ∧ OneLine ['b'] ∧ EndsIn IsFilter ['a'] ∧
      evaluate [Tree.build [.node ['a'], .node ['b'], .child 0 1]] none ['a']
        [.detached [⟨0, 0⟩]] = .ok [⟨0, 0⟩] ∧
      evaluate [Tree.build [.node ['a'], .node ['b'], .child 0 1]] none ['a', '|', 'b']
        [.detached [⟨0, 0⟩]] =
      evaluate [Tree.build [.node ['a'], .node ['b'], .child 0 1]] none ['b'] [.node ⟨0, 0⟩] := by
  have hp : OneLine ['a'] := by decide
  have hq : OneLine ['b'] := by decide
  have hf : EndsIn IsFilter ['a'] := .last (.children rfl (Segment.spelled_quote ['a']))
  have h : evaluate [Tree.build [.node ['a'], .node ['b'], .child 0 1]] none ['a']
      [.detached [⟨0, 0⟩]] = .ok [⟨0, 0⟩] :=
    evaluate_quote_of_isLiteral none (v := ['a']) (by decide) _
  exact ⟨hp, hq, hf, h, evaluate_append_bar hp hq hf h⟩

end TreeQuery.Path
