import TreeQuery.Proofs.Path.Parts
import TreeQuery.Proofs.Path.Search

/-!
# Testing what was found

A dot with clauses after a filter segment tests the nodes that the segment found. The clauses might as
well stand behind the segment itself (`evaluate_fusion`), although the two lines are followed in different
ways. The dot puts each node into a root of its own and filters the children, with a star for the name, so
that only the clauses decide (`filter_singleton`). And right after a descent, the one line drops repetitions
before it tests the clauses, the other one after (`filter_eraseDups`).

The line before the segment does the same to both: it ends in a bar, so it leads to a frontier and hands on
whether repetitions are to be dropped, or else it cannot be followed at all (`exists_read_leads`).
-/

namespace TreeQuery.Path

open Pattern (map_eq_ok_iff)
open Plan (after endsName opening)
open Segment (ClausesText IsClause Spelled clausesText exists_clausesText)

variable {forest : Forest}

/-! ## Segments with further clauses -/

namespace Segment

/-- A segment with further clauses. -/
def refine (segment : Segment) (tests : List (Text × Pattern)) : Segment :=
  { segment with clauses := segment.clauses ++ tests }

/-- A segment that takes any name. -/
def anyName (tests : List (Text × Pattern)) : Segment := { name := Pattern.lone, clauses := tests }

/-- What passes the segment with further clauses passes the segment and the clauses. -/
theorem accepts_refine (segment : Segment) (tests : List (Text × Pattern)) (node : Node) :
    (segment.refine tests).accepts forest node =
      ((anyName tests).accepts forest node && segment.accepts forest node) := by
  rw [accepts, accepts, accepts, refine, anyName, Pattern.isMatch_lone, Bool.true_and, List.all_append,
    ← Bool.and_assoc, Bool.and_comm]

theorem ClausesText.append {s t : Text} {tests more : List (Text × Pattern)}
    (hs : ClausesText s tests) (ht : ClausesText t more) : ClausesText (s ++ t) (tests ++ more) := by
  induction hs with
  | nil => exact ht
  | cons hk hv _ ih =>
    rw [List.cons_append, List.append_assoc, List.cons_append, List.append_assoc]
    exact .cons hk hv ih

theorem Spelled.refine {s t : Text} {segment : Segment} {tests : List (Text × Pattern)}
    (hs : Spelled s segment) (ht : ClausesText t tests) : Spelled (s ++ t) (segment.refine tests) := by
  obtain ⟨n, rest, rfl, hn, hrest⟩ := hs
  exact ⟨n, rest ++ t, List.append_assoc n rest t, hn, hrest.append ht⟩

theorem spelled_anyName {t : Text} {tests : List (Text × Pattern)} (ht : ClausesText t tests) :
    Spelled ('*' :: t) (anyName tests) :=
  spelled_star.refine ht

end Segment

/-! ## Filters -/

/-- Dropping repetitions before a test is the same as after it. -/
theorem filter_eraseDups {α : Type} [DecidableEq α] (l : List α) (p : α → Bool) :
    l.eraseDups.filter p = (l.filter p).eraseDups := by
  -- behind an item, what is left of the list is what differs from it
  suffices h : ∀ q : α → Bool, (l.filter q).eraseDups.filter p = ((l.filter q).filter p).eraseDups by
    have := h fun _ => true
    rwa [List.filter_true] at this
  induction l with
  | nil => exact fun _ => rfl
  | cons a l ih =>
    intro q
    cases hq : q a with
    | false => rw [List.filter_cons_of_neg (by rw [hq]; decide), ih]
    | true =>
      rw [List.filter_cons_of_pos hq, List.eraseDups_cons, List.filter_filter]
      cases hp : p a with
      | false =>
        have hne : ∀ b ∈ l.filter q, p b = (p b && !b == a) := by
          intro b _
          cases hb : p b with
          | false => rfl
          | true =>
            have : b ≠ a := by
              rintro rfl
              rw [hp] at hb
              cases hb
            rw [beq_eq_false_iff_ne.2 this]
            rfl
        rw [List.filter_cons_of_neg (by rw [hp]; decide), List.filter_cons_of_neg (by rw [hp]; decide),
          ih, ← List.filter_filter, List.filter_filter, ← List.filter_congr hne]
      | true =>
        rw [List.filter_cons_of_pos hp, List.filter_cons_of_pos hp, List.eraseDups_cons, ih,
          ← List.filter_filter, List.filter_comm]

/-- A filter with further clauses keeps what the filter finds and the clauses let pass. -/
theorem filter_refine (distinct : Bool) (segment : Segment) (tests : List (Text × Pattern))
    (roots : List Root) :
    filter forest distinct (segment.refine tests) roots =
      (filter forest distinct segment roots).filter ((Segment.anyName tests).accepts forest) := by
  have h : (segment.refine tests).accepts forest = fun node =>
      (Segment.anyName tests).accepts forest node && segment.accepts forest node :=
    funext fun node => Segment.accepts_refine segment tests node
  rw [filter, filter, h, ← List.filter_filter]
  cases distinct with
  | false => rfl
  | true => exact (filter_eraseDups _ _).symm

/-- Nodes in roots of their own are filtered themselves. -/
theorem filter_singleton (segment : Segment) (nodes : List Node) :
    filter forest false segment ((nodes.map Root.node).map Root.singleton) =
      nodes.filter (segment.accepts forest) := by
  rw [filter, flatMap_children_singleton, List.filterMap_map]
  exact congrArg (List.filter (segment.accepts forest)) List.filterMap_some

/-! ## Plans -/

namespace Plan

/-- What a line does from a filter segment on. -/
def fromFilter (distinct : Bool) (segment : Segment) : Option Text → Plan
  | none => last distinct segment
  | some next => step (.filter distinct segment) (read false next)

theorem readFilter_append_tail (distinct : Bool) {s : Text} {segment : Segment}
    (hs : Spelled s segment) (rest : Option Text) :
    readFilter distinct (s ++ tail rest) = fromFilter distinct segment rest := by
  have hr := Segment.read_append_tail hs rest
  cases rest with
  | none => exact readFilter_last distinct hr
  | some next => exact readFilter_step distinct hr

/-- Filtering the nodes that a filter found is one filter. -/
theorem run_fromFilter (distinct : Bool) (segment : Segment) (tests : List (Text × Pattern))
    (rest : Option Text) (fuel : Fuel) (roots : List Root) :
    (step (.filter distinct segment)
        (step .singleton (fromFilter false (.anyName tests) rest))).run forest fuel roots =
      (fromFilter distinct (segment.refine tests) rest).run forest fuel roots := by
  cases rest with
  | none =>
    show Except.ok (filter forest false (.anyName tests)
      (((filter forest distinct segment roots).map Root.node).map Root.singleton), fuel) = Except.ok _
    rw [filter_singleton, ← filter_refine]
  | some next =>
    show (read false next).run forest fuel ((filter forest false (.anyName tests)
      (((filter forest distinct segment roots).map Root.node).map Root.singleton)).map Root.node) = _
    rw [filter_singleton, ← filter_refine]
    rfl

/-! ## Reading -/

theorem endsName_clausesText (clauses : List (Text × Text)) (rest : Option Text) :
    endsName (clausesText clauses ++ tail rest) = true := by
  cases clauses with
  | nil => cases rest <;> rfl
  | cons clause clauses => rfl

/-- Clauses and what follows them do not make an operator out of a filter. -/
theorem opening_append_clausesText {s : Text} (ho : opening s = .filter)
    (clauses : List (Text × Text)) (rest : Option Text) :
    opening (s ++ (clausesText clauses ++ tail rest)) = .filter := by
  cases clauses with
  | nil =>
    cases rest with
    | none => rwa [Segment.clausesText_nil, List.nil_append, tail, List.append_nil]
    | some next => exact opening_append ho (by decide) next
  | cons clause clauses => exact opening_append ho (by decide) _

variable {s : Text} {segment : Segment} {clauses : List (Text × Text)} {tests : List (Text × Pattern)}

/-- The segment with its clauses is one filter. -/
theorem read_refined (ho : opening s = .filter) (hs : Spelled s segment)
    (hc : ClausesText (clausesText clauses) tests) (distinct : Bool) (rest : Option Text) :
    read distinct (s ++ (clausesText clauses ++ tail rest)) =
      fromFilter distinct (segment.refine tests) rest := by
  rw [read_filter distinct (opening_append_clausesText ho clauses rest), ← List.append_assoc,
    readFilter_append_tail distinct (hs.refine hc)]

/-- The segment, a bar and a dot with the clauses are two filters. -/
theorem read_dotted (ho : opening s = .filter) (hs : Spelled s segment)
    (hc : ClausesText (clausesText clauses) tests) (distinct : Bool) (rest : Option Text) :
    read distinct (s ++ '|' :: '.' :: (clausesText clauses ++ tail rest)) =
      step (.filter distinct segment) (step .singleton (fromFilter false (.anyName tests) rest)) := by
  rw [read_filter distinct (opening_append ho (by decide) _),
    readFilter_step distinct (Segment.read_append_bar_of_spelled hs _),
    read_self false (endsName_clausesText clauses rest), ← List.cons_append,
    readFilter_append_tail false (Segment.spelled_anyName hc)]

theorem fault?_after (steps : List Step) (p : Plan) : (after steps p).fault? = p.fault? := by
  induction steps with
  | nil => rfl
  | cons s steps ih => exact ih

/-- A plan with a fault gives no nodes. -/
theorem run_ne_ok_of_fault {p : Plan} (h : p.fault? ≠ none) (fuel : Fuel) (roots : List Root)
    (found : List Node × Fuel) : p.run forest fuel roots ≠ .ok found := by
  obtain ⟨e, he⟩ := Option.ne_none_iff_exists'.1 h
  rw [run_eq, outcome_eq_error_iff.2 he]
  cases fuel.pay _ <;> exact fun h => by cases h

end Plan

/-! ## Lines that lead on -/

/-- A text that is not followed, whatever comes after a bar. -/
def Refused (s : Text) : Prop := ∀ distinct q, (Plan.read distinct (s ++ '|' :: q)).fault? ≠ none

/-- Complete segments with a bar after each. -/
inductive Leads : Text → Prop
  | nil : Leads []
  | bar {s p : Text} : IsFilter s ∨ IsOperator s ∨ Refused s → Leads p → Leads (s ++ '|' :: p)

/-- A segment with a bar after it is some steps before what follows, which may have to drop repetitions. -/
theorem exists_read_bar {s : Text} (h : IsFilter s ∨ IsOperator s) (distinct : Bool) :
    ∃ steps distinct', ∀ q,
      Plan.read distinct (s ++ '|' :: q) = after steps (Plan.read distinct' q) := by
  rcases h with hf | ho
  · obtain ⟨steps, segment, hr⟩ := exists_read_isFilter hf distinct
    refine ⟨steps ++ [.filter distinct segment], false, fun q => ?_⟩
    rw [Plan.read_isFilter_append_bar hf, hr, Plan.followedBy_after]
  · cases ho with
    | descend => exact ⟨[.descend], true, Plan.read_descend_bar distinct⟩
    | climb => exact ⟨[.climb], false, Plan.read_climb_bar distinct⟩
    | select hn hb =>
      obtain ⟨⟨least, greatest⟩, hb⟩ := Option.ne_none_iff_exists'.1 hb
      exact ⟨[.select least greatest], false, fun _ => Plan.read_select_bar distinct hn hb⟩
    | sort hn => exact ⟨[Plan.sortStep _], false, fun _ => Plan.read_sort_bar distinct hn⟩

/-- Segments with bars after them are some steps before what follows, or nothing can follow. -/
theorem exists_read_leads {p : Text} (h : Leads p) (distinct : Bool) :
    (∃ steps distinct', ∀ q, Plan.read distinct (p ++ q) = after steps (Plan.read distinct' q)) ∨
      ∀ q, (Plan.read distinct (p ++ q)).fault? ≠ none := by
  induction h generalizing distinct with
  | nil => exact .inl ⟨[], distinct, fun _ => rfl⟩
  | @bar s p hs _ ih =>
    have hassoc (q : Text) : (s ++ '|' :: p) ++ q = s ++ '|' :: (p ++ q) := by
      rw [List.append_assoc, List.cons_append]
    simp only [hassoc]
    rcases or_assoc.2 hs with hs | hs
    · obtain ⟨steps, distinct', hr⟩ := exists_read_bar hs distinct
      rcases ih distinct' with ⟨more, distinct'', hp⟩ | hp
      · exact .inl ⟨steps ++ more, distinct'', fun q => by rw [hr, hp, Plan.after_append]⟩
      · refine .inr fun q => ?_
        rw [hr, Plan.fault?_after]
        exact hp q
    · exact .inr fun q => hs distinct (p ++ q)

/-! ## Fusion -/

/-- **A test of what a filter found may stand in the filter itself.** Behind any complete segments and
before any continuation, a filter segment with a bar and a dot with clauses finds what the segment with
these clauses finds, and with the same fuel. -/
theorem evaluate_fusion {p s : Text} {segment : Segment} {clauses : List (Text × Text)}
    {rest : Option Text} (hl : OneLine (p ++ (s ++ (clausesText clauses ++ tail rest))))
    (hp : Leads p) (ho : ¬IsOperatorForm s) (hs : Segment.read s = .ok (segment, none))
    (hc : ∀ clause ∈ clauses, IsClause clause) (forest : Forest) (fuel : Fuel) (roots : List Root)
    (found : List Node) :
    evaluate forest fuel (p ++ (s ++ '|' :: '.' :: (clausesText clauses ++ tail rest))) roots =
        .ok found ↔
      evaluate forest fuel (p ++ (s ++ (clausesText clauses ++ tail rest))) roots = .ok found := by
  have hl' : OneLine (p ++ (s ++ '|' :: '.' :: (clausesText clauses ++ tail rest))) := by
    simp only [oneLine_append_iff, oneLine_cons_iff] at hl ⊢
    exact ⟨hl.1, hl.2.1, by decide, by decide, hl.2.2⟩
  have hopen : opening s = .filter := opening_eq_filter ho hs
  have hspelled : Spelled s segment := by
    obtain ⟨t, rfl, ht⟩ := Segment.read_eq_ok_iff.1 hs
    rwa [tail, List.append_nil]
  obtain ⟨tests, htests, -⟩ := exists_clausesText hc
  rw [evaluate_of_oneLine forest fuel hl', evaluate_of_oneLine forest fuel hl]
  rcases exists_read_leads hp false with ⟨steps, distinct, hr⟩ | hf
  · rw [hr, hr, Plan.run_after, Plan.run_after, Plan.read_dotted hopen hspelled htests,
      Plan.read_refined hopen hspelled htests]
    simp only [Plan.run_fromFilter]
  -- neither line can be followed
  · have hno (q : Text) :
        ((Plan.read false (p ++ q)).run forest fuel roots).map Prod.fst ≠ .ok found := by
      intro h
      obtain ⟨_, h, -⟩ := map_eq_ok_iff.1 h
      exact Plan.run_ne_ok_of_fault (hf q) fuel roots _ h
    exact iff_of_false (hno _) (hno _)

/-- Two nodes of one name, one of which is linked twice and has a parameter. -/
def marked : Forest :=
  [Tree.build [.node ['t'], .node ['s'], .node ['s'], .param 1 ['k'] ['v'], .child 0 1, .child 0 2,
    .child 0 1]]

/-- After a descent, the node with the parameter is found once either way. -/
theorem evaluate_fusion_marked :
    OneLine "**|s&k=v".toList ∧ Leads ['*', '*', '|'] ∧ ¬IsOperatorForm ['s'] ∧
      Segment.read ['s'] = .ok ({ name := Pattern.literal ['s'] }, none) ∧
      (∀ clause ∈ [(['k'], ['v'])], IsClause clause) ∧
      evaluate marked none "**|s|.&k=v".toList [.node ⟨0, 0⟩] = .ok [⟨0, 1⟩] := by
  have hl : OneLine "**|s&k=v".toList := by decide
  have hp : Leads ['*', '*', '|'] := .bar (.inr (.inl .descend)) .nil
  have ho : ¬IsOperatorForm ['s'] := by decide
  have hs : Segment.read ['s'] = .ok ({ name := Pattern.literal ['s'] }, none) :=
    Segment.read_of_spelled (Segment.spelled_quote ['s'])
  have hkey : Pattern.Spells true ['k'] (Pattern.literal ['k']) :=
    ⟨[.char 'k'], .plain rfl rfl .nil, rfl, rfl⟩
  have hc : ∀ clause ∈ [(['k'], ['v'])], IsClause clause :=
    List.forall_mem_singleton.2 ⟨⟨_, Pattern.isWhole_iff_spells.2 hkey⟩, _,
      Pattern.isWhole_iff_spells.2 (Pattern.spells_quote ['v'])⟩
  -- the line with one filter is followed: its segment accepts the first of the two nodes only
  have hread : Segment.read "s&k=v".toList =
      .ok (⟨Pattern.literal ['s'], [(['k'], Pattern.literal ['v'])]⟩, none) :=
    Segment.read_of_spelled ⟨['s'], "&k=v".toList, rfl, Pattern.spells_quote ['s'],
      .cons hkey (Pattern.spells_quote ['v']) .nil⟩
  have haccepts : (Segment.mk (Pattern.literal ['s']) [(['k'], Pattern.literal ['v'])]).accepts marked =
      fun node => decide (marked.name node = ['s']) && decide (marked.parameter node ['k'] = ['v']) := by
    funext node
    simp only [Segment.accepts, Pattern.isMatch_literal, List.all_cons, List.all_nil, Bool.and_true]
  have hexpand : expand marked [.node ⟨0, 0⟩] = [.node ⟨0, 0⟩, .node ⟨0, 1⟩, .node ⟨0, 2⟩] := by cbv
  have hfused : evaluate marked none "**|s&k=v".toList [.node ⟨0, 0⟩] = .ok [⟨0, 1⟩] := by
    refine evaluate_of_outcome hl ?_
    rw [show "**|s&k=v".toList = '*' :: '*' :: '|' :: "s&k=v".toList from rfl,
      read_descent_filter (by decide) hread]
    show Except.ok (filter marked true _ (expand marked [.node ⟨0, 0⟩])) = _
    rw [hexpand, filter, haccepts]
    decide
  have hline : OneLine (['*', '*', '|'] ++ (['s'] ++ (clausesText [(['k'], ['v'])] ++ tail none))) := hl
  exact ⟨hl, hp, ho, hs, hc, (evaluate_fusion hline hp ho hs hc marked none _ _).2 hfused⟩

end TreeQuery.Path
