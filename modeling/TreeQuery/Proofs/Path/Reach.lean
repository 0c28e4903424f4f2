import Mathlib.Data.Set.Card
import Mathlib.Logic.Relation
import TreeQuery.Path.Descent

/-!
# What a descent reaches

A descent without limit is a function of the forest and the roots: `reached` lists the nodes that it
meets, and `expand` is the frontier that it leads to. With limited fuel it pays one unit for each of
these nodes and leads to the same frontier, or it fails for want of fuel (`descend_eq`).

The nodes are those that links lead to from the roots, each of them once (`mem_reached_iff`,
`nodup_reached`). The argument is the usual one: a descent never leaves a visited node with a child
that is neither visited nor on the stack, so at the end the visited nodes are closed under links.

## Termination

* `Descent.met` — as for `Descent.visit`: each step takes a node off the stack, and the nodes that
  it puts there come from links that are not used again
-/

namespace TreeQuery

/-! ## Fuel -/

namespace Fuel

/-- What is left after some units are used up. -/
def pay : Fuel → Nat → Except Error Fuel
  | none, _ => .ok none
  | some limit, units => if units ≤ limit then .ok (some (limit - units)) else .error .fuelExhausted

@[simp] theorem pay_none (units : Nat) : pay none units = .ok none := rfl

@[simp] theorem pay_zero (fuel : Fuel) : fuel.pay 0 = .ok fuel := by
  cases fuel <;> rfl

theorem pay_add (fuel : Fuel) (m n : Nat) : fuel.pay (m + n) = (fuel.pay m).bind (·.pay n) := by
  cases fuel with
  | none => rfl
  | some limit =>
    rw [pay, pay]
    by_cases hm : m ≤ limit
    · rw [if_pos hm]
      show _ = pay (some (limit - m)) n
      rw [pay, Nat.sub_sub]
      by_cases hn : m + n ≤ limit
      · rw [if_pos hn, if_pos (by omega)]
      · rw [if_neg hn, if_neg (by omega)]
    · rw [if_neg hm, if_neg (by omega)]
      rfl

/-- Whether there are at least some units. -/
def Covers (fuel : Fuel) (units : Nat) : Prop := ∀ limit, fuel = some limit → units ≤ limit

theorem exists_pay_eq_ok {fuel : Fuel} {units : Nat} (h : fuel.Covers units) :
    ∃ left, fuel.pay units = .ok left := by
  cases fuel with
  | none => exact ⟨none, rfl⟩
  | some limit => exact ⟨some (limit - units), if_pos (h limit rfl)⟩

theorem pay_one_of_spend? {fuel left : Fuel} (h : fuel.spend? = some left) :
    fuel.pay 1 = .ok left := by
  match fuel, h with
  | none, rfl => rfl
  | some (n + 1), rfl => rfl

theorem pay_succ_of_spend? {fuel : Fuel} (h : fuel.spend? = none) (n : Nat) :
    fuel.pay (n + 1) = .error .fuelExhausted := by
  match fuel, h with
  | some 0, _ => rfl

end Fuel

/-! ## Links -/

namespace Root

/-- The nodes at which a descent from a root begins. -/
def entries : Root → List Node
  | .node n => [n]
  | .detached ns => ns

/-- What a descent keeps of a root besides the nodes that it meets. -/
def kept : Root → List Root
  | .node _ => []
  | .detached ns => [.detached ns]

end Root

namespace Forest

variable (forest : Forest)

/-- Whether a link leads from one node to another. -/
def Linked (node child : Node) : Prop := child ∈ forest.children node

/-- Whether links lead to a node from one of some others. -/
def ReachesFrom (starts : List Node) (node : Node) : Prop :=
  ∃ start ∈ starts, Relation.ReflTransGen forest.Linked start node

/-- Whether links lead to a node from the roots. A node that is a root or is listed in a detached
root is reached without any link. -/
def Reaches (roots : List Root) (node : Node) : Prop :=
  forest.ReachesFrom (roots.flatMap Root.entries) node

end Forest

namespace Path

variable {forest : Forest}

namespace Descent

/-- The nodes that a descent without limit meets. -/
def met (forest : Forest) (visited stack : List Node) : List Node :=
  match stack with
  | [] => []
  | node :: stack =>
    if node ∈ visited then met forest visited stack
    else node :: met forest (node :: visited) (forest.children node ++ stack)
termination_by forest.links visited + stack.length
decreasing_by
  · exact Nat.lt_succ_self _
  · have := forest.links_cons_add_le ‹node ∉ visited›
    simp only [List.length_append, List.length_cons]
    omega

@[simp] theorem met_nil (visited : List Node) : met forest visited [] = [] := by
  rw [met]

theorem met_cons_of_mem {visited stack : List Node} {node : Node} (h : node ∈ visited) :
    met forest visited (node :: stack) = met forest visited stack := by
  rw [met, if_pos h]

theorem met_cons_of_not_mem {visited stack : List Node} {node : Node} (h : node ∉ visited) :
    met forest visited (node :: stack) =
      node :: met forest (node :: visited) (forest.children node ++ stack) := by
  rw [met, if_neg h]

/-- A stack is gone through from the top: what is met below one part counts as visited for the
next. -/
theorem met_append (visited s t : List Node) :
    met forest visited (s ++ t) =
      met forest visited s ++ met forest ((met forest visited s).reverse ++ visited) t := by
  fun_induction met forest visited s with
  | case1 visited => rfl
  | case2 visited node s hv ih => rw [List.cons_append, met_cons_of_mem hv, ih]
  | case3 visited node s hv ih =>
    rw [List.cons_append, met_cons_of_not_mem hv, ← List.append_assoc, ih, List.reverse_cons,
      List.append_assoc]
    rfl

/-! ### Fuel -/

/-- A descent pays for each node that it meets. -/
theorem visit_eq (visited stack : List Node) (fuel : Fuel) :
    visit forest ⟨visited, fuel⟩ stack =
      (fuel.pay (met forest visited stack).length).map fun fuel =>
        (met forest visited stack, ⟨(met forest visited stack).reverse ++ visited, fuel⟩) := by
  fun_induction met forest visited stack generalizing fuel with
  | case1 visited =>
    rw [visit, List.length_nil, Fuel.pay_zero]
    rfl
  | case2 visited node stack hv ih => rw [visit, if_pos hv, ih]
  | case3 visited node stack hv ih =>
    rw [visit, if_neg hv, List.length_cons]
    cases hs : fuel.spend? with
    | none => rw [Fuel.pay_succ_of_spend? hs]; rfl
    | some left =>
      simp only [ih, Nat.add_comm _ 1, Fuel.pay_add, Fuel.pay_one_of_spend? hs, Except.bind,
        List.reverse_cons, List.append_assoc, List.singleton_append]
      cases left.pay _ <;> rfl

/-- The frontier that a descent without limit leads to. -/
def expandFrom (forest : Forest) (visited : List Node) : List Root → List Root
  | [] => []
  | root :: roots =>
    let found := met forest visited root.entries
    root.kept ++ found.map Root.node ++ expandFrom forest (found.reverse ++ visited) roots

theorem met_flatMap_cons (visited : List Node) (root : Root) (roots : List Root) :
    met forest visited ((root :: roots).flatMap Root.entries) =
      met forest visited root.entries ++ met forest
        ((met forest visited root.entries).reverse ++ visited) (roots.flatMap Root.entries) := by
  rw [List.flatMap_cons, met_append]

theorem visitRoots_eq (visited : List Node) (fuel : Fuel) (roots : List Root) :
    visitRoots forest ⟨visited, fuel⟩ roots =
      (fuel.pay (met forest visited (roots.flatMap Root.entries)).length).map fun fuel =>
        (expandFrom forest visited roots,
          ⟨(met forest visited (roots.flatMap Root.entries)).reverse ++ visited, fuel⟩) := by
  induction roots generalizing visited fuel with
  | nil =>
    rw [visitRoots, List.flatMap_nil, met_nil, List.length_nil, Fuel.pay_zero]
    rfl
  | cons root roots ih =>
    rw [met_flatMap_cons, List.length_append, Fuel.pay_add, List.reverse_append, List.append_assoc]
    cases root with
    | node n | detached ns =>
      rw [visitRoots, visit_eq]
      simp only [Root.entries]
      cases fuel.pay _ with
      | error e => rfl
      | ok left =>
        simp only [Except.map, bind, Except.bind, ih]
        cases left.pay _ <;> rfl

/-! ### Which nodes are met -/

theorem not_mem_of_mem_met {visited stack : List Node} {node : Node}
    (h : node ∈ met forest visited stack) : node ∉ visited := by
  fun_induction met forest visited stack with
  | case1 => cases h
  | case2 _ _ _ _ ih => exact ih h
  | case3 _ _ _ hv ih =>
    rcases List.mem_cons.1 h with rfl | h
    · exact hv
    · exact fun hm => ih h (List.mem_cons_of_mem _ hm)

theorem nodup_met (visited stack : List Node) : (met forest visited stack).Nodup := by
  fun_induction met forest visited stack with
  | case1 => exact List.nodup_nil
  | case2 _ _ _ _ ih => exact ih
  | case3 _ _ _ _ ih =>
    exact List.nodup_cons.2 ⟨fun hm => not_mem_of_mem_met hm List.mem_cons_self, ih⟩

/-- What is met is reached from the stack. -/
theorem reachesFrom_of_mem_met {visited stack : List Node} {node : Node}
    (h : node ∈ met forest visited stack) : forest.ReachesFrom stack node := by
  fun_induction met forest visited stack with
  | case1 => cases h
  | case2 _ _ _ _ ih =>
    obtain ⟨start, hs, hr⟩ := ih h
    exact ⟨start, List.mem_cons_of_mem _ hs, hr⟩
  | case3 visited first stack hv ih =>
    rcases List.mem_cons.1 h with rfl | h
    · exact ⟨node, List.mem_cons_self, .refl⟩
    · obtain ⟨start, hs, hr⟩ := ih h
      rcases List.mem_append.1 hs with hc | hs
      · exact ⟨first, List.mem_cons_self, .head hc hr⟩
      · exact ⟨start, List.mem_cons_of_mem _ hs, hr⟩

/-- Nothing on the stack is passed over. -/
theorem mem_met_of_mem_stack {visited stack : List Node} {node : Node} (h : node ∈ stack) :
    node ∈ visited ∨ node ∈ met forest visited stack := by
  fun_induction met forest visited stack with
  | case1 => cases h
  | case2 _ _ _ hv ih =>
    rcases List.mem_cons.1 h with rfl | h
    · exact .inl hv
    · exact ih h
  | case3 visited first stack hv ih =>
    rcases List.mem_cons.1 h with rfl | h
    · exact .inr List.mem_cons_self
    · rcases ih (List.mem_append_right _ h) with hm | hm
      · rcases List.mem_cons.1 hm with rfl | hm
        · exact .inr List.mem_cons_self
        · exact .inl hm
      · exact .inr (List.mem_cons_of_mem _ hm)

/-- The children of what is met are visited at the end. -/
theorem mem_met_of_linked {visited stack : List Node} {node child : Node}
    (h : node ∈ met forest visited stack) (hc : forest.Linked node child) :
    child ∈ visited ∨ child ∈ met forest visited stack := by
  fun_induction met forest visited stack with
  | case1 => cases h
  | case2 _ _ _ _ ih => exact ih h
  | case3 visited first stack hv ih =>
    have hmet : child ∈ first :: visited ∨
        child ∈ met forest (first :: visited) (forest.children first ++ stack) := by
      rcases List.mem_cons.1 h with rfl | h
      · exact mem_met_of_mem_stack (List.mem_append_left _ hc)
      · exact ih h
    rcases hmet with hm | hm
    · rcases List.mem_cons.1 hm with rfl | hm
      · exact .inr List.mem_cons_self
      · exact .inl hm
    · exact .inr (List.mem_cons_of_mem _ hm)

/-- With nothing visited before, exactly what is reached from the stack is met. -/
theorem mem_met_iff {stack : List Node} {node : Node} :
    node ∈ met forest [] stack ↔ forest.ReachesFrom stack node := by
  constructor
  · exact reachesFrom_of_mem_met
  · rintro ⟨start, hs, hr⟩
    induction hr with
    | refl => exact (mem_met_of_mem_stack hs).resolve_left List.not_mem_nil
    | tail _ hc ih => exact (mem_met_of_linked ih hc).resolve_left List.not_mem_nil

theorem filterMap_expandFrom (visited : List Node) (roots : List Root) :
    (expandFrom forest visited roots).filterMap Root.node? =
      met forest visited (roots.flatMap Root.entries) := by
  induction roots generalizing visited with
  | nil => rw [List.flatMap_nil, met_nil]; rfl
  | cons root roots ih =>
    have hkept : root.kept.filterMap Root.node? = [] := by
      cases root <;> rfl
    have hfound (nodes : List Node) : (nodes.map Root.node).filterMap Root.node? = nodes := by
      rw [List.filterMap_map]
      exact List.filterMap_some
    rw [expandFrom, met_flatMap_cons, List.filterMap_append, List.filterMap_append, hkept, hfound,
      ih]
    rfl

theorem detached_mem_expandFrom_iff {visited ns : List Node} {roots : List Root} :
    .detached ns ∈ expandFrom forest visited roots ↔ .detached ns ∈ roots := by
  induction roots generalizing visited with
  | nil => exact Iff.rfl
  | cons root roots ih =>
    rw [expandFrom, List.mem_append, List.mem_append, ih, List.mem_cons]
    cases root <;> simp [Root.kept]

end Descent

/-! ## Descents -/

/-- The nodes that a descent without limit meets, in order. -/
def reached (forest : Forest) (roots : List Root) : List Node :=
  Descent.met forest [] (roots.flatMap Root.entries)

/-- The frontier that a descent without limit leads to. -/
def expand (forest : Forest) (roots : List Root) : List Root := Descent.expandFrom forest [] roots

/-- **A descent pays for each node that it meets, and leads to the same frontier with any fuel.** -/
theorem descend_eq (fuel : Fuel) (roots : List Root) :
    descend forest fuel roots =
      (fuel.pay (reached forest roots).length).map fun fuel => (expand forest roots, fuel) := by
  show (Descent.visitRoots forest ⟨[], fuel⟩ roots).map _ = _
  rw [Descent.visitRoots_eq, reached]
  cases fuel.pay _ <;> rfl

/-- **A descent meets what links lead to.** -/
theorem mem_reached_iff {roots : List Root} {node : Node} :
    node ∈ reached forest roots ↔ forest.Reaches roots node :=
  Descent.mem_met_iff

/-- **No node is met twice.** -/
theorem nodup_reached (roots : List Root) : (reached forest roots).Nodup := Descent.nodup_met _ _

/-- The number of nodes met is the number of nodes that links lead to. -/
theorem ncard_reaches (roots : List Root) :
    {node | forest.Reaches roots node}.ncard = (reached forest roots).length := by
  have hset : {node | forest.Reaches roots node} =
      ((reached forest roots).toFinset : Set Node) := by
    ext node
    rw [Finset.mem_coe, List.mem_toFinset]
    exact mem_reached_iff.symm
  rw [hset, Set.ncard_coe_finset, List.toFinset_card_of_nodup (nodup_reached roots)]

theorem filterMap_expand (roots : List Root) :
    (expand forest roots).filterMap Root.node? = reached forest roots :=
  Descent.filterMap_expandFrom [] roots

theorem node_mem_expand_iff {roots : List Root} {node : Node} :
    .node node ∈ expand forest roots ↔ forest.Reaches roots node := by
  rw [← mem_reached_iff, ← filterMap_expand, List.mem_filterMap]
  constructor
  · exact fun h => ⟨_, h, rfl⟩
  · rintro ⟨root, h, he⟩
    cases root with
    | node n => exact Option.some.inj he ▸ h
    | detached ns => cases he

theorem detached_mem_expand_iff {roots : List Root} {ns : List Node} :
    .detached ns ∈ expand forest roots ↔ .detached ns ∈ roots :=
  Descent.detached_mem_expandFrom_iff

/-- A root is one of those that are reached by no link. -/
theorem reaches_of_node_mem {roots : List Root} {node : Node} (h : .node node ∈ roots) :
    forest.Reaches roots node :=
  ⟨node, List.mem_flatMap.2 ⟨_, h, List.mem_singleton_self node⟩, .refl⟩

/-- The children of what a descent leads to are the children of the roots and of everything that
links lead to from them. -/
theorem mem_children_expand_iff {roots : List Root} {node : Node} :
    node ∈ (expand forest roots).flatMap (·.children forest) ↔
      (∃ root ∈ roots, node ∈ root.children forest) ∨
        ∃ above, forest.Reaches roots above ∧ node ∈ forest.children above := by
  rw [List.mem_flatMap]
  constructor
  · rintro ⟨root, hr, hc⟩
    cases root with
    | node n => exact .inr ⟨n, node_mem_expand_iff.1 hr, hc⟩
    | detached ns => exact .inl ⟨_, detached_mem_expand_iff.1 hr, hc⟩
  · rintro (⟨root, hr, hc⟩ | ⟨above, ha, hc⟩)
    · cases root with
      | node n => exact ⟨_, node_mem_expand_iff.2 (reaches_of_node_mem hr), hc⟩
      | detached ns => exact ⟨_, detached_mem_expand_iff.2 hr, hc⟩
    · exact ⟨_, node_mem_expand_iff.2 ha, hc⟩

end Path

end TreeQuery
