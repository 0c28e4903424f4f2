import TreeQuery.Proofs.Path.Composition

/-!
# Stable sorting

A key of the sort operator ranks the roots: it gives each a value and puts the values in order,
smallest first or, after a mark, greatest first. The order of a ranking is total, and values that do
not come after each other are the same.

A list is sorted stably by a ranking if it is a rearrangement in the order of the values that leaves
the roots of each value as they stood (`Ranking.IsStableSort`). There is exactly one such list
(`isStableSort_iff`). A ranking that falls back on another one where its own values agree sorts as
the two do one after the other, the other one first (`IsStableSort.thenBy`).
-/

namespace TreeQuery.Path

/-! ## Rankings -/

/-- A value of each root and an order of the values. -/
structure Ranking (κ : Type) where
  value : Root → κ
  le : κ → κ → Bool
  total : ∀ a b, (le a b || le b a) = true
  trans : ∀ {a b c}, le a b = true → le b c = true → le a c = true
  antisymm : ∀ {a b}, le a b = true → le b a = true → a = b

namespace Ranking

variable {κ ι : Type}

/-- The values in the opposite order. -/
def opposite (r : Ranking κ) : Ranking κ where
  value := r.value
  le a b := r.le b a
  total a b := r.total b a
  trans hab hbc := r.trans hbc hab
  antisymm hab hba := r.antisymm hba hab

/-- By a parameter, or by the name if no parameter is named. -/
def byParam (forest : Forest) (param : Text) : Ranking Text where
  value := sortKey forest param
  le := Text.le
  total := Text.le_total
  trans := Text.le_trans
  antisymm := Text.le_antisymm

/-- By the key of a sort operator, which may begin with a mark for the opposite order. -/
def ofKey (forest : Forest) : Text → Ranking Text
  | '!' :: param => (byParam forest param).opposite
  | param => byParam forest param

/-- Whether a root may stand before another one. -/
def before (r : Ranking κ) (a b : Root) : Bool := r.le (r.value a) (r.value b)

theorem before_trans (r : Ranking κ) (a b c : Root) (hab : r.before a b) (hbc : r.before b c) :
    r.before a c :=
  r.trans hab hbc

theorem before_total (r : Ranking κ) (a b : Root) : r.before a b || r.before b a :=
  r.total (r.value a) (r.value b)

/-- Roots of the same value may stand either way. -/
theorem before_of_value_eq (r : Ranking κ) {a b : Root} (h : r.value a = r.value b) :
    r.before a b := by
  simpa [before, h] using r.total (r.value b) (r.value b)

section thenBy

variable [DecidableEq κ]

/-- By one ranking and, where its values agree, by another. -/
def thenBy (r : Ranking κ) (s : Ranking ι) : Ranking (κ × ι) where
  value root := (r.value root, s.value root)
  le a b := if a.1 = b.1 then s.le a.2 b.2 else r.le a.1 b.1
  total a b := by
    by_cases h : a.1 = b.1
    · simpa [h] using s.total a.2 b.2
    · simpa [h, Ne.symm h] using r.total a.1 b.1
  trans {a b c} hab hbc := by
    by_cases h : a.1 = b.1
    · by_cases h' : b.1 = c.1
      · simp only [h, h', if_true] at hab hbc ⊢
        exact s.trans hab hbc
      · simpa [h, h'] using hbc
    · by_cases h' : b.1 = c.1
      · simpa [h', h' ▸ h] using hab
      · simp only [h, h', if_false] at hab hbc
        -- equal values at the ends would make the one in the middle equal too
        have hac : a.1 ≠ c.1 := fun he => h (r.antisymm hab (he ▸ hbc))
        simpa only [hac, if_false] using r.trans hab hbc
  antisymm {a b} hab hba := by
    by_cases h : a.1 = b.1
    · simp only [h, if_true] at hab hba
      exact Prod.ext h (s.antisymm hab hba)
    · simp only [h, Ne.symm h, if_false] at hab hba
      exact absurd (r.antisymm hab hba) h

end thenBy

/-! ## What it means to be sorted stably -/

/-- `sorted` is `roots` in the order of their values, where roots of the same value keep their
order. -/
structure IsStableSort [DecidableEq κ] (r : Ranking κ) (roots sorted : List Root) : Prop where
  perm : sorted.Perm roots
  ordered : sorted.Pairwise fun a b => r.before a b
  stable : ∀ k, (sorted.filter fun root => r.value root = k) = roots.filter fun root => r.value root = k

variable [DecidableEq κ] [DecidableEq ι] {r : Ranking κ} {s : Ranking ι}

/-- Only the values that come up need to be looked at. -/
theorem isStableSort_iff_forall_mem {roots sorted : List Root} :
    r.IsStableSort roots sorted ↔
      sorted.Perm roots ∧ (sorted.Pairwise fun a b => r.before a b) ∧
        ∀ a ∈ roots, (sorted.filter fun root => r.value root = r.value a) =
          roots.filter fun root => r.value root = r.value a := by
  constructor
  · rintro ⟨hp, ho, hs⟩
    exact ⟨hp, ho, fun a _ => hs _⟩
  · rintro ⟨hp, ho, hs⟩
    refine ⟨hp, ho, fun k => ?_⟩
    by_cases hk : ∃ a ∈ roots, r.value a = k
    · obtain ⟨a, ha, rfl⟩ := hk
      exact hs a ha
    · push Not at hk
      have hroots : (roots.filter fun root => r.value root = k) = [] := by simpa using hk
      have hsorted : (sorted.filter fun root => r.value root = k) = [] := by
        simpa [hp.mem_iff] using hk
      rw [hroots, hsorted]

instance (roots sorted : List Root) : Decidable (r.IsStableSort roots sorted) :=
  decidable_of_iff _ isStableSort_iff_forall_mem.symm

/-- Two lists in order are the same if they have the same roots of each value, in the same order. -/
theorem eq_of_ordered {as bs : List Root}
    (ha : as.Pairwise fun a b => r.before a b) (hb : bs.Pairwise fun a b => r.before a b)
    (h : ∀ k, (as.filter fun root => r.value root = k) = bs.filter fun root => r.value root = k) :
    as = bs := by
  -- what one list holds, the other holds among the roots of the same value
  have hmem (root : Root) : root ∈ as ↔ root ∈ bs := by
    simpa using congrArg (root ∈ ·) (h (r.value root))
  induction as generalizing bs with
  | nil => exact (List.eq_nil_iff_forall_not_mem.2 fun b hm => by simpa using (hmem b).2 hm).symm
  | cons a as ih =>
    cases bs with
    | nil => simpa using (hmem a).1 List.mem_cons_self
    | cons b bs =>
      have hab : r.before a b := by
        rcases List.mem_cons.1 ((hmem b).2 List.mem_cons_self) with rfl | hm
        · exact r.before_of_value_eq rfl
        · exact List.rel_of_pairwise_cons ha hm
      have hba : r.before b a := by
        rcases List.mem_cons.1 ((hmem a).1 List.mem_cons_self) with rfl | hm
        · exact r.before_of_value_eq rfl
        · exact List.rel_of_pairwise_cons hb hm
      have hvalue : r.value a = r.value b := r.antisymm hab hba
      obtain rfl : a = b := by simpa [hvalue] using congrArg List.head? (h (r.value b))
      have htail (k : κ) :
          (as.filter fun root => r.value root = k) = bs.filter fun root => r.value root = k := by
        have := h k
        by_cases hk : r.value a = k <;> simpa [List.filter_cons, hk] using this
      have hrest := ih ha.tail hb.tail htail fun root => by
        simpa using congrArg (root ∈ ·) (htail (r.value root))
      exact congrArg (a :: ·) hrest

/-- There is no second way to sort stably. -/
theorem IsStableSort.unique {roots as bs : List Root} (ha : r.IsStableSort roots as)
    (hb : r.IsStableSort roots bs) : as = bs :=
  eq_of_ordered ha.ordered hb.ordered fun k => (ha.stable k).trans (hb.stable k).symm

/-- **To sort by one ranking and then by another is to sort by the second and fall back on the
first.** -/
theorem IsStableSort.thenBy {roots middle sorted : List Root} (hs : s.IsStableSort roots middle)
    (hr : r.IsStableSort middle sorted) : (r.thenBy s).IsStableSort roots sorted where
  perm := hr.perm.trans hs.perm
  ordered := by
    rw [List.pairwise_iff_forall_sublist]
    intro a b hab
    have hle := List.pairwise_iff_forall_sublist.1 hr.ordered hab
    by_cases h : r.value a = r.value b
    · -- roots of one value stand as they stood before the second sorting
      have hclass : [a, b].Sublist (middle.filter fun root => r.value root = r.value b) := by
        rw [← hr.stable]
        simpa [h] using hab.filter fun root => decide (r.value root = r.value b)
      have hmiddle : [a, b].Sublist middle := hclass.trans List.filter_sublist
      simpa [before, Ranking.thenBy, h] using List.pairwise_iff_forall_sublist.1 hs.ordered hmiddle
    · simpa [before, Ranking.thenBy, h] using hle
  stable k := by
    have hsplit (l : List Root) : (l.filter fun root => (r.thenBy s).value root = k) =
        (l.filter fun root => r.value root = k.1).filter fun root => s.value root = k.2 := by
      rw [List.filter_filter]
      refine List.filter_congr fun root _ => ?_
      simp [Ranking.thenBy, Prod.ext_iff, Bool.and_comm]
    calc sorted.filter (fun root => (r.thenBy s).value root = k)
      _ = (middle.filter fun root => r.value root = k.1).filter fun root => s.value root = k.2 := by
        rw [hsplit, hr.stable]
      _ = (middle.filter fun root => s.value root = k.2).filter fun root => r.value root = k.1 :=
        List.filter_comm ..
      _ = (roots.filter fun root => r.value root = k.1).filter fun root => s.value root = k.2 := by
        rw [hs.stable, List.filter_comm]
      _ = roots.filter fun root => (r.thenBy s).value root = k := (hsplit roots).symm

/-! ## Merge sort -/

/-- The roots in the order of a ranking. -/
def arrange (r : Ranking κ) (roots : List Root) : List Root :=
  roots.mergeSort r.before

theorem isStableSort_arrange (r : Ranking κ) (roots : List Root) :
    r.IsStableSort roots (r.arrange roots) where
  perm := List.mergeSort_perm ..
  ordered := List.pairwise_mergeSort r.before_trans r.before_total roots
  stable k := by
    let isK (root : Root) : Bool := r.value root = k
    show (r.arrange roots).filter isK = roots.filter isK
    have hordered : (roots.filter isK).Pairwise fun a b => r.before a b := by
      refine List.pairwise_of_forall_mem_list fun a ha b hb => r.before_of_value_eq ?_
      have hva : r.value a = k := by simpa [isK] using (List.mem_filter.1 ha).2
      have hvb : r.value b = k := by simpa [isK] using (List.mem_filter.1 hb).2
      rw [hva, hvb]
    -- what is in order already is not torn apart, and no more roots of this value come up
    have hsub : (roots.filter isK).Sublist ((r.arrange roots).filter isK) := by
      have := List.sublist_mergeSort r.before_trans r.before_total hordered List.filter_sublist
      simpa [arrange] using this.filter isK
    have hlength : (roots.filter isK).length = ((r.arrange roots).filter isK).length :=
      ((List.mergeSort_perm ..).filter isK).length_eq.symm
    exact (hsub.eq_of_length hlength).symm

theorem isStableSort_iff {roots other : List Root} :
    r.IsStableSort roots other ↔ other = r.arrange roots := by
  constructor
  · intro h
    exact h.unique (isStableSort_arrange r roots)
  · rintro rfl
    exact isStableSort_arrange r roots

end Ranking

/-! ## The sort operator -/

open Plan (restOf sortStep)

variable {forest : Forest}

theorem move_sortStep (key : Text) (fuel : Fuel) (roots : List Root) :
    (sortStep key).move forest fuel roots = .ok ((Ranking.ofKey forest key).arrange roots, fuel) := by
  fun_cases sortStep key with
  | case1 param => rfl
  | case2 _ h =>
    rw [Ranking.ofKey.eq_2 _ _ h]
    rfl

/-- Two sort operators, one after the other, move the roots to where a stable sorting by the second
key puts them that falls back on the first key. -/
theorem move_sortStep_arrange (first second : Text) (fuel : Fuel) (roots : List Root) :
    (sortStep second).move forest fuel ((Ranking.ofKey forest first).arrange roots) =
      .ok (((Ranking.ofKey forest second).thenBy (Ranking.ofKey forest first)).arrange roots,
        fuel) := by
  have htwice := (Ranking.isStableSort_arrange (Ranking.ofKey forest first) roots).thenBy
    (Ranking.isStableSort_arrange (Ranking.ofKey forest second) _)
  rw [move_sortStep, Ranking.isStableSort_iff.1 htwice]

/-- The line that sorts by two keys, one after the other, and goes on. -/
def sortTwice (first second : Text) (rest : Option Text) : Text :=
  '.' :: '!' :: (first ++ '|' :: '.' :: '!' :: (second ++ tail rest))

theorem run_sortTwice {first second : Text} (rest : Option Text) (hfirst : '|' ∉ first)
    (hsecond : '|' ∉ second) (distinct : Bool) (fuel : Fuel) (roots : List Root) :
    (Plan.read distinct (sortTwice first second rest)).run forest fuel roots =
      (Plan.read false (restOf rest)).run forest fuel
        (((Ranking.ofKey forest second).thenBy (Ranking.ofKey forest first)).arrange roots) := by
  rw [sortTwice, Plan.read_sort_bar distinct hfirst, Plan.read_sort false rest hsecond,
    Plan.run_step_of_ok (move_sortStep ..), Plan.run_step_of_ok (move_sortStep_arrange ..)]

theorem oneLine_restOf_of_sortTwice {first second : Text} {rest : Option Text}
    (h : OneLine (sortTwice first second rest)) : OneLine (restOf rest) := by
  cases rest with
  | none => decide
  | some rest =>
    intro c hc
    refine h c ?_
    simp [sortTwice, tail, show c ∈ rest from hc]

/-- **Sorting is stable in both directions, and of two sortings the second falls back on the first.**
A key moves any roots to the one list that is sorted stably by it. Two keys, one after the other, move
them to the one list that is sorted stably by the second key and, where that agrees, by the first; this
is where a line with both goes on from. -/
theorem sort_steps_stable (forest : Forest) :
    (∀ key fuel roots, ∃ sorted,
      (sortStep key).move forest fuel roots = .ok (sorted, fuel) ∧
        ∀ other, (Ranking.ofKey forest key).IsStableSort roots other ↔ other = sorted) ∧
    ∀ first second fuel roots, ∃ middle sorted,
      (sortStep first).move forest fuel roots = .ok (middle, fuel) ∧
      (sortStep second).move forest fuel middle = .ok (sorted, fuel) ∧
      (∀ other,
        ((Ranking.ofKey forest second).thenBy (Ranking.ofKey forest first)).IsStableSort roots other ↔
          other = sorted) ∧
      ∀ rest, '|' ∉ first → '|' ∉ second →
        (∀ distinct, (Plan.read distinct (sortTwice first second rest)).run forest fuel roots =
          (Plan.read false (restOf rest)).run forest fuel sorted) ∧
        (OneLine (sortTwice first second rest) →
          evaluate forest fuel (sortTwice first second rest) roots =
            evaluate forest fuel (restOf rest) sorted) := by
  constructor
  · intro key fuel roots
    exact ⟨_, move_sortStep key fuel roots, fun _ => Ranking.isStableSort_iff⟩
  · intro first second fuel roots
    refine ⟨_, _, move_sortStep first fuel roots, move_sortStep_arrange first second fuel roots,
      fun _ => Ranking.isStableSort_iff, fun rest hfirst hsecond => ⟨fun distinct => ?_, fun hline => ?_⟩⟩
    · exact run_sortTwice rest hfirst hsecond distinct fuel roots
    · rw [evaluate_of_oneLine forest fuel hline,
        evaluate_of_oneLine forest fuel (oneLine_restOf_of_sortTwice hline),
        run_sortTwice rest hfirst hsecond false fuel roots]

/-- Two nodes with the same parameter and one without. -/
def priced : Forest :=
  [Tree.build [.node ['b'], .node ['a'], .node ['a'], .param 0 ['k'] ['1'], .param 1 ['k'] ['1']]]

/-- By name and then by the parameter in the opposite order: those without it come last, and each
group is in the order of the names. -/
theorem sort_steps_stable_priced :
    '|' ∉ ([] : Text) ∧ '|' ∉ ['!', 'k'] ∧ OneLine ".!|.!!k".toList ∧
      ∃ sorted, sorted = [.node ⟨0, 1⟩, .node ⟨0, 0⟩, .detached [⟨0, 0⟩], .node ⟨0, 2⟩] ∧
        evaluate priced none ".!|.!!k".toList
          [.node ⟨0, 2⟩, .node ⟨0, 0⟩, .detached [⟨0, 0⟩], .node ⟨0, 1⟩] =
        evaluate priced none ['.'] sorted := by
  have hfirst : '|' ∉ ([] : Text) := List.not_mem_nil
  have hsecond : '|' ∉ ['!', 'k'] := by decide
  have hl : OneLine ".!|.!!k".toList := by decide
  obtain ⟨-, sorted, -, -, hsorted, hline⟩ := (sort_steps_stable priced).2 [] ['!', 'k'] none
    [.node ⟨0, 2⟩, .node ⟨0, 0⟩, .detached [⟨0, 0⟩], .node ⟨0, 1⟩]
  exact ⟨hfirst, hsecond, hl, sorted, ((hsorted _).1 (by decide)).symm,
    (hline none hfirst hsecond).2 hl⟩

end TreeQuery.Path
