import TreeQuery.Proofs.Path.OperatorEnd

/-!
# Searching below the roots

A filter right after a descent is a search of everything below the roots: it finds the children of
the roots and of all nodes that links lead to, as far as they pass, and each of them once
(`evaluate_descent_filter`). Two different records of what was seen work together here. The descent
keeps each node from being met twice; but a node is a child of each node that links to it and of
each detached root that lists it, so the filter has to pass over repetitions on its own.

What is found stands in the order in which the children of the frontier show it for the first time
(`pairwise_idxOf_eraseDups_filter`).
-/

namespace TreeQuery.Path

open Segment (Spelled)

variable {forest : Forest}

/-! ## First occurrences -/

/-- Where repetitions are dropped from a filtered list, the items that are left stand in the order
of their first places in the whole list. -/
theorem pairwise_idxOf_eraseDups_filter {α : Type} [DecidableEq α] (l : List α) (p : α → Bool) :
    (l.filter p).eraseDups.Pairwise fun a b => l.idxOf a < l.idxOf b := by
  induction l generalizing p with
  | nil => exact List.Pairwise.nil
  | cons a l ih =>
    -- behind `a`, other items stand one place further on than in the list without `a`
    have hrest (q : α → Bool) (hq : q a = false) :
        (l.filter q).eraseDups.Pairwise fun b c => (a :: l).idxOf b < (a :: l).idxOf c := by
      refine (ih q).imp_of_mem fun {b c} hb hc hlt => ?_
      have hne {d : α} (hd : d ∈ (l.filter q).eraseDups) : (a :: l).idxOf d = l.idxOf d + 1 := by
        have hqd : q d = true := (List.mem_filter.1 (List.mem_eraseDups.1 hd)).2
        have had : (a == d) = false := by
          rw [beq_eq_false_iff_ne]
          rintro rfl
          rw [hq] at hqd
          cases hqd
        rw [List.idxOf_cons, had]
        rfl
      rw [hne hb, hne hc]
      exact Nat.succ_lt_succ hlt
    cases hp : p a with
    | false =>
      rw [List.filter_cons_of_neg (by rw [hp]; decide)]
      exact hrest p hp
    | true =>
      rw [List.filter_cons_of_pos hp, List.eraseDups_cons, List.filter_filter]
      refine List.pairwise_cons.2 ⟨fun b hb => ?_, hrest _ (by simp)⟩
      have hne : b ≠ a := by
        have := (List.mem_filter.1 (List.mem_eraseDups.1 hb)).2
        simp only [Bool.and_eq_true, Bool.not_eq_true', beq_eq_false_iff_ne] at this
        exact this.1
      rw [List.idxOf_cons_self, List.idxOf_cons, beq_eq_false_iff_ne.2 hne.symm]
      exact Nat.succ_pos _

theorem mem_filter_iff {distinct : Bool} {segment : Segment} {roots : List Root} {node : Node} :
    node ∈ filter forest distinct segment roots ↔
      node ∈ roots.flatMap (·.children forest) ∧ segment.accepts forest node = true := by
  cases distinct with
  | false => exact List.mem_filter
  | true => exact List.mem_eraseDups.trans List.mem_filter

theorem pairwise_idxOf_filter (segment : Segment) (roots : List Root) :
    (filter forest true segment roots).Pairwise fun a b =>
      (roots.flatMap (·.children forest)).idxOf a < (roots.flatMap (·.children forest)).idxOf b :=
  pairwise_idxOf_eraseDups_filter _ _

theorem nodup_filter (segment : Segment) (roots : List Root) :
    (filter forest true segment roots).Nodup := by
  refine (pairwise_idxOf_filter segment roots).imp ?_
  rintro a b hlt rfl
  exact Nat.lt_irrefl _ hlt

/-! ## Reading -/

/-- Segments that are read as operators, whatever they would spell as filters. -/
def IsOperatorForm (s : Text) : Prop :=
  s = ['.'] ∨ s = ['*', '*'] ∨ s = ['.', '.'] ∨
    ['.', '&'] <+: s ∨ ['.', '#'] <+: s ∨ ['.', '!'] <+: s

instance (s : Text) : Decidable (IsOperatorForm s) := inferInstanceAs (Decidable (_ ∨ _))

theorem Segment.spelled_stars : ∃ segment, Spelled ['*', '*'] segment :=
  ⟨⟨⟨['*', '*'], Pattern.wholeExpr [.star, .star], []⟩, []⟩,
    ['*', '*'], [], rfl, ⟨[.star, .star], .star (.star .nil), Pattern.exprOfItems_eq rfl, rfl⟩, .nil⟩

/-- A segment that takes the whole text is not followed by anything. -/
theorem eq_none_of_read_append_tail {s : Text} {segment segment' : Segment} {rest : Option Text}
    (hs : Spelled s segment) (h : Segment.read (s ++ tail rest) = .ok (segment', none)) :
    rest = none := by
  rw [Segment.read_append_tail hs rest] at h
  exact (Prod.mk.inj (Except.ok.inj h)).2

/-- A segment that is not of the form of an operator is read as a filter. -/
theorem opening_eq_filter {s : Text} {segment : Segment} (ho : ¬IsOperatorForm s)
    (hs : Segment.read s = .ok (segment, none)) : Plan.opening s = .filter := by
  rcases Plan.opening_cases s with
    ⟨rest, rfl⟩ | ⟨rest, rfl⟩ | ⟨bounds, rest, rfl, -⟩ | ⟨key, rest, rfl, -⟩ | ⟨rest, rfl, he⟩ | hf
  · obtain ⟨stars, hstars⟩ := Segment.spelled_stars
    obtain rfl := eq_none_of_read_append_tail (s := ['*', '*']) hstars hs
    exact absurd (.inr (.inl rfl)) ho
  · have hdots := Segment.spelled_quote ['.', '.']
    obtain rfl := eq_none_of_read_append_tail (s := ['.', '.']) hdots hs
    exact absurd (.inr (.inr (.inl rfl))) ho
  · exact absurd (.inr (.inr (.inr (.inr (.inl ⟨_, rfl⟩))))) ho
  · exact absurd (.inr (.inr (.inr (.inr (.inr ⟨_, rfl⟩))))) ho
  · revert he
    fun_cases Plan.endsName rest with
    | case1 => exact absurd (.inl rfl) ho
    | case2 rest =>
      have hnone : some rest = none :=
        eq_none_of_read_append_tail (s := ['.']) (Segment.spelled_quote ['.']) hs
      cases hnone
    | case3 rest => exact absurd (.inr (.inr (.inr (.inl ⟨_, rfl⟩)))) ho
    | case4 => simp
  · exact hf

theorem read_descent_filter {s : Text} {segment : Segment} (ho : ¬IsOperatorForm s)
    (hs : Segment.read s = .ok (segment, none)) :
    Plan.read false ('*' :: '*' :: '|' :: s) = .step .descend (.last true segment) := by
  rw [Plan.read_descend_bar, Plan.read_filter true (opening_eq_filter ho hs),
    Plan.readFilter_last true hs]

theorem read_descent :
    Plan.read false ['*', '*'] =
      .step .descend (.step .singleton (.last true { name := Pattern.lone })) := by
  have hd : Plan.read false ['*', '*'] = .step .descend (Plan.read true ['.']) :=
    Plan.read_descend false none
  rw [hd, Plan.read_self true rfl,
    Plan.readFilter_last true (Segment.read_of_spelled Segment.spelled_star)]

/-! ## Carrying out -/

/-- A line that begins with its only descent demands fuel for what is reached from the roots. -/
theorem demand_of_descend {line : Text} {next : Plan} (hl : OneLine line)
    (hr : Plan.read false line = .step .descend next)
    (hn : ∀ frontier, next.descents forest frontier = []) (roots : List Root) :
    demand forest line roots = {node | forest.Reaches roots node}.ncard := by
  have hd : descents forest line roots = [roots] := by
    rw [descents, lines_of_oneLine hl, descentsOfLines, hr, Plan.descents, hn]
    show [roots] ++ [] ++ (if _ then [] else []) = [roots]
    split <;> rfl
  rw [demand, hd]
  exact Nat.add_zero _

theorem evaluate_of_outcome {line : Text} {roots : List Root} {found : List Node}
    (hl : OneLine line) (h : (Plan.read false line).outcome forest roots = .ok found) :
    evaluate forest none line roots = .ok found := by
  rw [evaluate_none, lines_of_oneLine hl, outcomeOfLines, h]
  exact congrArg Except.ok (List.append_nil found)

/-- The descent alone finds what is reached from the roots. -/
theorem mem_filter_singleton_expand_iff {roots : List Root} {node : Node} :
    node ∈ filter forest true { name := Pattern.lone } ((expand forest roots).map Root.singleton) ↔
      forest.Reaches roots node := by
  rw [mem_filter_iff, flatMap_children_singleton, filterMap_expand, mem_reached_iff,
    and_iff_left (Segment.accepts_lone node)]

/-- Below detached roots, everything that is reached is a child of a root or of a node reached
before. -/
theorem reaches_iff_of_detached {roots : List Root} (hd : ∀ root ∈ roots, root.node? = none)
    {node : Node} :
    forest.Reaches roots node ↔
      (∃ root ∈ roots, node ∈ root.children forest) ∨
        ∃ above, forest.Reaches roots above ∧ node ∈ forest.children above := by
  constructor
  · rintro ⟨start, hs, hr⟩
    rcases hr.cases_tail with rfl | ⟨above, ha, hc⟩
    · obtain ⟨root, hroot, he⟩ := List.mem_flatMap.1 hs
      cases root with
      | node n => cases hd _ hroot
      | detached ns => exact .inl ⟨_, hroot, he⟩
    · exact .inr ⟨above, ⟨start, hs, ha⟩, hc⟩
  · rintro (⟨root, hroot, hc⟩ | ⟨above, ⟨start, hs, ha⟩, hc⟩)
    · cases root with
      | node n => cases hd _ hroot
      | detached ns => exact ⟨node, List.mem_flatMap.2 ⟨_, hroot, hc⟩, .refl⟩
    · exact ⟨start, hs, ha.tail hc⟩

/-- **A filter after a descent is a search of everything below the roots.** With fuel for what is
reached, it finds the children of the roots and of everything that is reached, as far as they pass,
none of them twice and in the order in which the frontier of the descent shows them first. Where all
roots are detached, these are the nodes among those of the descent alone that pass. -/
theorem evaluate_descent_filter {s : Text} {segment : Segment} (hl : OneLine s)
    (ho : ¬IsOperatorForm s) (hs : Segment.read s = .ok (segment, none)) (forest : Forest)
    (roots : List Root) :
    ∃ frontier found all,
      descend forest none roots = .ok (frontier, none) ∧
      (∀ fuel : Fuel, fuel.Covers {node | forest.Reaches roots node}.ncard →
        evaluate forest fuel ('*' :: '*' :: '|' :: s) roots = .ok found ∧
        evaluate forest fuel ['*', '*'] roots = .ok all) ∧
      found.Nodup ∧
      (∀ node, node ∈ found ↔ segment.accepts forest node = true ∧
        ((∃ root ∈ roots, node ∈ root.children forest) ∨
          ∃ above, forest.Reaches roots above ∧ node ∈ forest.children above)) ∧
      (found.Pairwise fun a b => (frontier.flatMap (·.children forest)).idxOf a <
        (frontier.flatMap (·.children forest)).idxOf b) ∧
      ((∀ root ∈ roots, root.node? = none) →
        ∀ node, node ∈ found ↔ node ∈ all ∧ segment.accepts forest node = true) := by
  have hline : OneLine ('*' :: '*' :: '|' :: s) := by
    rw [oneLine_cons_iff, oneLine_cons_iff, oneLine_cons_iff]
    exact ⟨by decide, by decide, by decide, hl⟩
  have hstars : OneLine ['*', '*'] := by decide
  have hfound : ∀ node, node ∈ filter forest true segment (expand forest roots) ↔
      segment.accepts forest node = true ∧ ((∃ root ∈ roots, node ∈ root.children forest) ∨
        ∃ above, forest.Reaches roots above ∧ node ∈ forest.children above) := by
    intro node
    rw [mem_filter_iff, mem_children_expand_iff, and_comm]
  refine ⟨expand forest roots, filter forest true segment (expand forest roots),
    filter forest true { name := Pattern.lone } ((expand forest roots).map Root.singleton),
    ?_, fun fuel hfuel => ⟨?_, ?_⟩, nodup_filter segment _, hfound, pairwise_idxOf_filter segment _,
    fun hd node => ?_⟩
  · rw [descend_eq]
    rfl
  · have hread := read_descent_filter ho hs
    rw [evaluate_of_covers ((demand_of_descend hline hread (fun _ => rfl) roots).symm ▸ hfuel)]
    exact evaluate_of_outcome hline (by rw [hread]; rfl)
  · rw [evaluate_of_covers
      ((demand_of_descend hstars read_descent (fun _ => rfl) roots).symm ▸ hfuel)]
    exact evaluate_of_outcome hstars (by rw [read_descent]; rfl)
  · rw [hfound, mem_filter_singleton_expand_iff, reaches_iff_of_detached hd, and_comm]

/-- A node below two others, and all of them below it again. -/
def diamond : Forest :=
  [Tree.build [.node ['t'], .node ['l'], .node ['r'], .node ['s'], .child 0 1, .child 0 2,
    .child 1 3, .child 2 3, .child 3 0]]

/-- From two roots that list the same node, the node that lies below two others is found once. -/
theorem evaluate_descent_filter_diamond :
    OneLine ['s'] ∧ ¬IsOperatorForm ['s'] ∧
      Segment.read ['s'] = .ok ({ name := Pattern.literal ['s'] }, none) ∧
      ∃ found,
        evaluate diamond (some 4) ['*', '*', '|', 's'] [.detached [⟨0, 0⟩], .detached [⟨0, 0⟩]] =
          .ok found ∧ found.Nodup ∧ ⟨0, 3⟩ ∈ found := by
  have hl : OneLine ['s'] := by decide
  have ho : ¬IsOperatorForm ['s'] := by decide
  have hs : Segment.read ['s'] = .ok ({ name := Pattern.literal ['s'] }, none) :=
    Segment.read_of_spelled (Segment.spelled_quote ['s'])
  obtain ⟨_, found, _, _, hfound, hnodup, hmem, -⟩ := evaluate_descent_filter hl ho hs diamond
    [.detached [⟨0, 0⟩], .detached [⟨0, 0⟩]]
  have hreached : reached diamond [.detached [⟨0, 0⟩], .detached [⟨0, 0⟩]] =
      [⟨0, 0⟩, ⟨0, 1⟩, ⟨0, 3⟩, ⟨0, 2⟩] := by cbv
  refine ⟨hl, ho, hs, found, (hfound (some 4) ?_).1, hnodup,
    (hmem ⟨0, 3⟩).2 ⟨?_, .inr ⟨⟨0, 1⟩, ?_⟩⟩⟩
  · intro limit h
    rw [ncard_reaches, hreached]
    exact Nat.le_of_eq (Option.some.inj h)
  · show ((Pattern.literal ['s']).isMatch ['s'] && true) = true
    rw [Pattern.isMatch_literal]
    rfl
  · rw [← mem_reached_iff, hreached]
    decide

end TreeQuery.Path
