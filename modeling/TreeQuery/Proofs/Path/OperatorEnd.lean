import TreeQuery.Proofs.Path.Composition

/-!
# Lines that end in an operator

A line that ends in an operator goes on with a dot, or with whatever follows once a bar is put after
it. The dot shows the nodes among the roots and hides detached ones. So the line alone and the line
with a bar after it agree as long as there is nothing to hide: when the roots are all nodes, or all
detached and none is found.

Without descents that is always so, because every other move makes all roots alike or picks among
them (`Alike.move`). Then a line that finds one node leads on from that node, be its last segment a
filter or an operator (`run_append_bar_of_found`).
-/

namespace TreeQuery.Path

open Pattern (bind_eq_ok_iff)

variable {forest : Forest}

/-! ## Moves in a row -/

/-- Carries out some steps, and gives the fuel that is left. -/
def moves (forest : Forest) (fuel : Fuel) (roots : List Root) :
    List Step → Except Error (List Root × Fuel)
  | [] => .ok (roots, fuel)
  | s :: steps => do
    let (roots, fuel) ← s.move forest fuel roots
    moves forest fuel roots steps

namespace Plan

/-- Some steps before a plan. -/
def after (steps : List Step) (p : Plan) : Plan := steps.foldr step p

theorem after_append (steps more : List Step) (p : Plan) :
    after (steps ++ more) p = after steps (after more p) :=
  List.foldr_append

theorem run_after (steps : List Step) (p : Plan) (fuel : Fuel) (roots : List Root) :
    (after steps p).run forest fuel roots =
      (moves forest fuel roots steps).bind fun (roots, fuel) => p.run forest fuel roots := by
  induction steps generalizing fuel roots with
  | nil => rfl
  | cons s steps ih =>
    show (s.move forest fuel roots).bind _ = ((s.move forest fuel roots).bind _).bind _
    cases s.move forest fuel roots with
    | error e => rfl
    | ok moved => exact ih moved.2 moved.1

theorem followedBy_after (steps : List Step) (distinct : Bool) (segment : Segment) (q : Plan) :
    followedBy q (after steps (last distinct segment)) =
      after (steps ++ [.filter distinct segment]) q := by
  induction steps with
  | nil => rfl
  | cons s steps ih => exact congrArg (step s) ih

/-! ## Plans without descents -/

/-- Whether there is a descent among the steps of a plan. -/
def descends : Plan → Bool
  | stop _ | last _ _ => false
  | step .descend _ => true
  | step _ next => next.descends

theorem descends_step_eq_false_iff {s : Step} {next : Plan} :
    (step s next).descends = false ↔ s ≠ .descend ∧ next.descends = false := by
  cases s with
  | descend => simp [descends]
  | climb | select | sort | singleton | filter => simp [descends]

theorem descends_after_eq_false_iff {steps : List Step} {p : Plan} :
    (after steps p).descends = false ↔ (∀ s ∈ steps, s ≠ .descend) ∧ p.descends = false := by
  induction steps with
  | nil => simp [after]
  | cons s steps ih =>
    show (step s (after steps p)).descends = false ↔ _
    rw [descends_step_eq_false_iff, ih, List.forall_mem_cons, and_assoc]

end Plan

/-! ## Roots that are alike -/

/-- Roots that are all nodes or all detached. -/
def Alike (roots : List Root) : Prop :=
  (∀ root ∈ roots, root.node? ≠ none) ∨ ∀ root ∈ roots, root.node? = none

theorem alike_map_node (nodes : List Node) : Alike (nodes.map .node) := by
  refine .inl fun root hr => ?_
  obtain ⟨node, -, rfl⟩ := List.mem_map.1 hr
  exact Option.some_ne_none node

theorem alike_singleton (root : Root) : Alike [root] := by
  cases root with
  | node n => exact alike_map_node [n]
  | detached ns => exact .inr (by simp [Root.node?])

theorem Alike.of_subset {roots roots' : List Root} (ha : Alike roots) (hs : roots' ⊆ roots) :
    Alike roots' :=
  ha.imp (fun h root hr => h root (hs hr)) fun h root hr => h root (hs hr)

/-- Among roots that are alike, a single node is found only if it is the only root. -/
theorem Alike.eq_of_filterMap {roots : List Root} {node : Node} (ha : Alike roots)
    (h : roots.filterMap Root.node? = [node]) : roots = [.node node] := by
  rcases ha with hn | hd
  · cases roots with
    | nil => cases h
    | cons root roots =>
      cases root with
      | detached ns => exact absurd rfl (hn _ List.mem_cons_self)
      | node n =>
        obtain ⟨rfl, hnil⟩ := List.cons.inj h
        cases roots with
        | nil => rfl
        | cons root roots =>
          have := List.filterMap_eq_nil_iff.1 hnil root List.mem_cons_self
          exact absurd this (hn root (by simp))
  · rw [List.filterMap_eq_nil_iff.2 hd] at h
    cases h

/-- No move but a descent mixes nodes with detached roots or uses up fuel. -/
theorem Alike.move {s : Step} (hs : s ≠ .descend) {fuel fuel' : Fuel} {roots roots' : List Root}
    (ha : Alike roots) (h : s.move forest fuel roots = .ok (roots', fuel')) :
    Alike roots' ∧ fuel' = fuel := by
  cases s with
  | descend => exact absurd rfl hs
  | climb | filter =>
    obtain ⟨rfl, rfl⟩ := Prod.mk.inj (Except.ok.inj h)
    exact ⟨alike_map_node _, rfl⟩
  | select least greatest =>
    obtain ⟨rfl, rfl⟩ := Prod.mk.inj (Except.ok.inj h)
    exact ⟨ha.of_subset (List.Subset.trans (List.take_subset _ _) (List.drop_subset _ _)), rfl⟩
  | sort descending param =>
    obtain ⟨rfl, rfl⟩ := Prod.mk.inj (Except.ok.inj h)
    refine ⟨ha.of_subset ?_, rfl⟩
    cases descending <;> exact (List.mergeSort_perm _ _).subset
  | singleton =>
    obtain ⟨rfl, rfl⟩ := Prod.mk.inj (Except.ok.inj h)
    refine ⟨.inr fun root hr => ?_, rfl⟩
    obtain ⟨r, -, rfl⟩ := List.mem_map.1 hr
    cases r <;> rfl

theorem Alike.moves {steps : List Step} (hs : ∀ s ∈ steps, s ≠ .descend) {fuel fuel' : Fuel}
    {roots roots' : List Root} (ha : Alike roots)
    (h : moves forest fuel roots steps = .ok (roots', fuel')) : Alike roots' ∧ fuel' = fuel := by
  induction steps generalizing fuel roots with
  | nil =>
    obtain ⟨rfl, rfl⟩ := Prod.mk.inj (Except.ok.inj h)
    exact ⟨ha, rfl⟩
  | cons s steps ih =>
    obtain ⟨⟨roots₁, fuel₁⟩, hm, hrest⟩ := bind_eq_ok_iff.1 h
    obtain ⟨ha₁, rfl⟩ := ha.move (hs s List.mem_cons_self) hm
    exact ih (fun t ht => hs t (List.mem_cons_of_mem _ ht)) ha₁ hrest

/-! ## A dot, or what follows the bar -/

theorem flatMap_children_singleton (roots : List Root) :
    (roots.map Root.singleton).flatMap (·.children forest) = roots.filterMap Root.node? := by
  induction roots with
  | nil => rfl
  | cons root roots ih =>
    rw [List.map_cons, List.flatMap_cons, ih]
    cases root <;> rfl

/-- A dot finds the nodes among the roots. -/
theorem run_self (fuel : Fuel) (roots : List Root) :
    (Plan.read false ['.']).run forest fuel roots = .ok (roots.filterMap Root.node?, fuel) := by
  rw [Plan.read_self false rfl,
    Plan.readFilter_last false (Segment.read_of_spelled Segment.spelled_star)]
  show Except.ok (((roots.map Root.singleton).flatMap _).filter _, fuel) = _
  rw [flatMap_children_singleton, List.filter_eq_self.2 fun node _ => Segment.accepts_lone node]

/-- Two dots find the parents of the roots. -/
theorem run_parent (fuel : Fuel) (roots : List Root) :
    (Plan.read false ['.', '.']).run forest fuel roots =
      .ok (roots.filterMap (·.parent? forest), fuel) := by
  have hr : Plan.read false ['.', '.'] = .step .climb (Plan.read false ['.']) :=
    Plan.read_climb false none
  rw [hr]
  refine (run_self fuel (climb forest roots)).trans ?_
  rw [climb, List.filterMap_map]
  exact congrArg (fun nodes => Except.ok (nodes, fuel)) List.filterMap_some

/-- Whether a plan finds the nodes among the roots that some steps lead to. -/
def Shows (forest : Forest) (steps : List Step) (p : Plan) : Prop :=
  ∀ fuel roots, p.run forest fuel roots =
    (moves forest fuel roots steps).map fun (roots, fuel) => (roots.filterMap Root.node?, fuel)

theorem shows_self : Shows forest [] (Plan.read false ['.']) := run_self

theorem Shows.after {steps : List Step} {p : Plan} (h : Shows forest steps p) (more : List Step) :
    Shows forest (more ++ steps) (Plan.after more p) := by
  intro fuel roots
  rw [Plan.run_after]
  induction more generalizing fuel roots with
  | nil => exact h fuel roots
  | cons s more ih =>
    show ((s.move forest fuel roots).bind _).bind _ = ((s.move forest fuel roots).bind _).map _
    cases s.move forest fuel roots with
    | error e => rfl
    | ok moved => exact ih moved.2 moved.1

theorem shows_last (distinct : Bool) (segment : Segment) :
    Shows forest [.filter distinct segment] (.last distinct segment) := by
  intro fuel roots
  show _ = Except.ok (((filter forest distinct segment roots).map Root.node).filterMap _, fuel)
  rw [List.filterMap_map]
  exact congrArg (fun nodes => Except.ok (nodes, fuel)) List.filterMap_some.symm

/-- The plan of a filter segment is a filter, perhaps with a step before it. -/
theorem exists_read_isFilter {s : Text} (h : IsFilter s) (distinct : Bool) :
    ∃ steps segment, Plan.read distinct s = Plan.after steps (.last distinct segment) := by
  cases h with
  | children ho hs =>
    exact ⟨[], _, by
      rw [Plan.read_filter distinct ho, Plan.readFilter_last distinct (Segment.read_of_spelled hs)]
      rfl⟩
  | self he hs =>
    exact ⟨[.singleton], _, by
      rw [Plan.read_self distinct he, Plan.readFilter_last distinct (Segment.read_of_spelled hs)]
      rfl⟩

/-- What a bar and another path after a line do to the plan: the steps of the line, with the other
plan after them in place of what shows the nodes. -/
theorem exists_read_append_bar (forest : Forest) {s : Text}
    (h : EndsIn (fun s => IsFilter s ∨ IsOperator s) s) (distinct : Bool) (q : Text)
    (hd : (Plan.read distinct (s ++ '|' :: q)).descends = false) :
    ∃ steps, Plan.read distinct (s ++ '|' :: q) = Plan.after steps (Plan.read false q) ∧
      Shows forest steps (Plan.read distinct s) := by
  induction h generalizing distinct with
  | last hs =>
    rcases hs with hf | ho
    · obtain ⟨steps, segment, hr⟩ := exists_read_isFilter hf distinct
      refine ⟨steps ++ [.filter distinct segment], ?_, ?_⟩
      · rw [Plan.read_isFilter_append_bar hf, hr, Plan.followedBy_after]
      · rw [hr]
        exact (shows_last distinct segment).after steps
    · cases ho with
      | descend =>
        rw [List.cons_append, List.cons_append, List.nil_append, Plan.read_descend_bar] at hd
        cases hd
      | climb =>
        exact ⟨[.climb], Plan.read_climb_bar distinct q,
          Plan.read_climb distinct none ▸ shows_self.after [.climb]⟩
      | @select bounds hn hb =>
        obtain ⟨⟨least, greatest⟩, hb⟩ := Option.ne_none_iff_exists'.1 hb
        refine ⟨[.select least greatest], Plan.read_select_bar distinct hn hb, ?_⟩
        have := Plan.read_select distinct none hn
        rw [hb, tail, List.append_nil] at this
        rw [this]
        exact shows_self.after [.select least greatest]
      | @sort key hn =>
        refine ⟨[Plan.sortStep key], Plan.read_sort_bar distinct hn, ?_⟩
        have := Plan.read_sort distinct none hn
        rw [tail, List.append_nil] at this
        rw [this]
        exact shows_self.after [Plan.sortStep key]
  | @descend rest _ ih =>
    rw [List.cons_append, List.cons_append, List.cons_append, Plan.read_descend_bar] at hd
    cases hd
  | @climb rest _ ih =>
    rw [List.cons_append, List.cons_append, List.cons_append, Plan.read_climb_bar] at hd ⊢
    obtain ⟨steps, hr, hs⟩ := ih false (Plan.descends_step_eq_false_iff.1 hd).2
    refine ⟨.climb :: steps, by rw [hr]; rfl, ?_⟩
    rw [Plan.read_climb_bar]
    exact hs.after [.climb]
  | @select bounds rest hn hb _ ih =>
    obtain ⟨⟨least, greatest⟩, hb⟩ := Option.ne_none_iff_exists'.1 hb
    rw [List.cons_append, List.cons_append, List.append_assoc, List.cons_append,
      Plan.read_select_bar distinct hn hb] at hd ⊢
    obtain ⟨steps, hr, hs⟩ := ih false (Plan.descends_step_eq_false_iff.1 hd).2
    refine ⟨.select least greatest :: steps, by rw [hr]; rfl, ?_⟩
    rw [Plan.read_select_bar distinct hn hb]
    exact hs.after [.select least greatest]
  | @sort key rest hn _ ih =>
    rw [List.cons_append, List.cons_append, List.append_assoc, List.cons_append,
      Plan.read_sort_bar distinct hn] at hd ⊢
    obtain ⟨steps, hr, hs⟩ := ih false (Plan.descends_step_eq_false_iff.1 hd).2
    refine ⟨Plan.sortStep key :: steps, by rw [hr]; rfl, ?_⟩
    rw [Plan.read_sort_bar distinct hn]
    exact hs.after [Plan.sortStep key]
  | @filter s rest hf _ ih =>
    obtain ⟨before, segment, hb⟩ := exists_read_isFilter hf distinct
    rw [List.append_assoc, List.cons_append, Plan.read_isFilter_append_bar hf, hb,
      Plan.followedBy_after] at hd ⊢
    obtain ⟨steps, hr, hs⟩ := ih false (Plan.descends_after_eq_false_iff.1 hd).2
    refine ⟨before ++ [.filter distinct segment] ++ steps, ?_, ?_⟩
    · rw [hr, ← Plan.after_append]
    · rw [Plan.read_isFilter_append_bar hf, hb, Plan.followedBy_after]
      exact hs.after _

/-- **A line that finds one node leads on from that node.** -/
theorem run_append_bar_of_found {s q : Text} {root : Root} {node : Node} {fuel fuel' : Fuel}
    (hd : (Plan.read false (s ++ '|' :: q)).descends = false)
    (h : (Plan.read false s).run forest fuel [root] = .ok ([node], fuel')) :
    (Plan.read false q).descends = false ∧
      (Plan.read false (s ++ '|' :: q)).run forest fuel [root] =
        (Plan.read false q).run forest fuel [.node node] := by
  obtain ⟨steps, hr, hs⟩ :=
    exists_read_append_bar forest (Plan.endsIn_of_run h) false q hd
  rw [hr] at hd ⊢
  obtain ⟨hsteps, hq⟩ := Plan.descends_after_eq_false_iff.1 hd
  rw [hs] at h
  obtain ⟨⟨roots, fuel₁⟩, hm, he⟩ := Pattern.map_eq_ok_iff.1 h
  obtain ⟨hnode, -⟩ := Prod.mk.inj he
  -- the steps start from one root and do not descend, so no detached root stays beside the node
  obtain ⟨ha, rfl⟩ := Alike.moves hsteps (alike_singleton root) hm
  refine ⟨hq, ?_⟩
  rw [Plan.run_after, hm, ha.eq_of_filterMap hnode]
  rfl

end TreeQuery.Path
