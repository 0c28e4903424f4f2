import TreeQuery.Proofs.Path.Search

/-!
# Descents as recursive searches

A descent keeps a stack of nodes to look at. A recursive search keeps none: it meets a node, then goes
through its children from left to right and searches below each of them before it turns to the next. Both
pass over what was visited before.

The two agree (`met_eq_searchAll`). What is on the stack below the present node waits until everything below
that node has been met, and counts what was met there as visited (`Descent.met_append`); so the stack can be
cut behind its top, and the part above the cut is the recursive call.

From the roots, one after the other, this gives the whole frontier of a descent (`expandFrom_eq_searchRoots`).
Each node that links lead to stands in it once, and each detached root as often as among the roots.

## Termination

* `searchNode`, `searchAll` — a node that is visited takes its links with it, as in `Descent.met`
-/

namespace TreeQuery

/-- What is visited more takes links away at most. -/
theorem Forest.links_append_le (forest : Forest) (more visited : List Node) :
    forest.links (more ++ visited) ≤ forest.links visited := by
  induction more with
  | nil => exact Nat.le_refl _
  | cons node more ih =>
    exact Nat.le_trans (forest.linksFrom_cons_le node (more ++ visited) forest.nodes) ih

namespace Path

/-! ## Recursive searches -/

mutual

/-- A node that was not visited, with everything below it that was not. -/
def searchNode (forest : Forest) (visited : List Node) (node : Node) : List Node :=
  if node ∈ visited then []
  else node :: searchAll forest (node :: visited) (forest.children node)
termination_by 2 * forest.links visited + 1
decreasing_by
  have := forest.links_cons_add_le ‹node ∉ visited›
  omega

/-- Searches from one node after the other. What one search finds is visited for the next. -/
def searchAll (forest : Forest) (visited : List Node) : List Node → List Node
  | [] => []
  | node :: nodes =>
    let found := searchNode forest visited node
    found ++ searchAll forest (found.reverse ++ visited) nodes
termination_by nodes => 2 * (forest.links visited + nodes.length)
decreasing_by
  · simp only [List.length_cons]
    omega
  · exact Nat.mul_lt_mul_of_pos_left
      (Nat.add_lt_add_of_le_of_lt (forest.links_append_le _ visited) (Nat.lt_succ_self _))
      Nat.two_pos

end

/-- Searches from one root after the other. A detached root is kept, ahead of what is below it. -/
def searchRoots (forest : Forest) (visited : List Node) : List Root → List Root
  | [] => []
  | .node n :: roots =>
    let found := searchNode forest visited n
    found.map .node ++ searchRoots forest (found.reverse ++ visited) roots
  | .detached ns :: roots =>
    let found := searchAll forest visited ns
    .detached ns :: (found.map .node ++ searchRoots forest (found.reverse ++ visited) roots)

variable {forest : Forest}

theorem searchAll_nil (visited : List Node) : searchAll forest visited [] = [] := by
  rw [searchAll]

theorem searchAll_cons (visited : List Node) (node : Node) (nodes : List Node) :
    searchAll forest visited (node :: nodes) =
      searchNode forest visited node ++
        searchAll forest ((searchNode forest visited node).reverse ++ visited) nodes := by
  rw [searchAll]

open Descent (met met_nil met_append met_cons_of_mem met_cons_of_not_mem expandFrom)

/-- **A stack is worked off by searching from one entry after the other.** -/
theorem met_eq_searchAll (visited stack : List Node) :
    met forest visited stack = searchAll forest visited stack := by
  induction visited, stack using searchAll.induct forest
    (fun visited node => met forest visited [node] = searchNode forest visited node) with
  | case1 visited node hv => rw [searchNode, if_pos hv, met_cons_of_mem hv, met_nil]
  | case2 visited node hv ih =>
    rw [searchNode, if_neg hv, met_cons_of_not_mem hv, List.append_nil, ih]
  | case3 visited => rw [met_nil, searchAll_nil]
  | case4 visited node nodes found ihNode ihNodes =>
    have hcut : met forest visited (node :: nodes) = _ := met_append visited [node] nodes
    rw [hcut, ihNode, ihNodes, searchAll_cons]

theorem met_singleton_eq_searchNode (visited : List Node) (node : Node) :
    met forest visited [node] = searchNode forest visited node := by
  rw [met_eq_searchAll, searchAll_cons, searchAll_nil, List.append_nil]

/-- **A descent searches from one root after the other.** -/
theorem expandFrom_eq_searchRoots (visited : List Node) (roots : List Root) :
    expandFrom forest visited roots = searchRoots forest visited roots := by
  induction roots generalizing visited with
  | nil => rfl
  | cons root roots ih =>
    cases root with
    | node n =>
      rw [expandFrom, searchRoots, ih, Root.entries, met_singleton_eq_searchNode]
      rfl
    | detached ns =>
      rw [expandFrom, searchRoots, ih, Root.entries, met_eq_searchAll]
      rfl

/-! ## How often roots occur -/

/-- A frontier has a node among its roots as often as it shows it. -/
theorem count_node (roots : List Root) (node : Node) :
    roots.count (.node node) = (roots.filterMap Root.node?).count node := by
  induction roots with
  | nil => rfl
  | cons root roots ih =>
    cases root with
    | node n =>
      rw [List.filterMap_cons_some (by rfl), List.count_cons, List.count_cons, ih]
      simp
    | detached ns =>
      rw [List.filterMap_cons_none (by rfl), List.count_cons, ih]
      simp

theorem count_node_expand {roots : List Root} {node : Node} (h : forest.Reaches roots node) :
    (expand forest roots).count (.node node) = 1 := by
  rw [count_node, filterMap_expand]
  exact List.count_eq_one_of_mem (nodup_reached roots) (mem_reached_iff.2 h)

theorem count_detached_expandFrom (visited ns : List Node) (roots : List Root) :
    (expandFrom forest visited roots).count (.detached ns) = roots.count (.detached ns) := by
  induction roots generalizing visited with
  | nil => rfl
  | cons root roots ih =>
    have hfound (nodes : List Node) : (nodes.map Root.node).count (.detached ns) = 0 :=
      List.count_eq_zero.2 (by simp)
    rw [expandFrom, List.count_append, List.count_append, hfound, ih, List.count_cons, Nat.add_comm]
    cases root <;> simp [Root.kept, List.count_singleton]

/-- **A descent is a recursive search in pre-order.** With fuel for what links lead to, it gives what the
search from one root after the other gives, with one record of what was visited. In this frontier each
node that links lead to from the roots stands once, each detached root as often as among the roots, and
nothing else does. -/
theorem descend_eq_search {fuel : Fuel} {roots : List Root}
    (h : fuel.Covers {node | forest.Reaches roots node}.ncard) :
    (∃ left, descend forest fuel roots = .ok (searchRoots forest [] roots, left)) ∧
      (∀ node, forest.Reaches roots node → (searchRoots forest [] roots).count (.node node) = 1) ∧
      (∀ node, ¬forest.Reaches roots node → .node node ∉ searchRoots forest [] roots) ∧
      ∀ ns, (searchRoots forest [] roots).count (.detached ns) = roots.count (.detached ns) := by
  have hsearch : searchRoots forest [] roots = expand forest roots :=
    (expandFrom_eq_searchRoots [] roots).symm
  rw [hsearch]
  refine ⟨?_, fun node => count_node_expand, fun node hn => mt node_mem_expand_iff.1 hn,
    fun ns => count_detached_expandFrom [] ns roots⟩
  rw [ncard_reaches] at h
  obtain ⟨left, hp⟩ := Fuel.exists_pay_eq_ok h
  exact ⟨left, by rw [descend_eq, hp]; rfl⟩

/-- From the node on the left down to the node below both, from there back to the top, and so to the node
on the right; the detached root behind it lists nothing new. -/
theorem descend_eq_search_diamond :
    Fuel.Covers (some 4)
        {node | Forest.Reaches diamond [.node ⟨0, 1⟩, .detached [⟨0, 0⟩, ⟨0, 3⟩]] node}.ncard ∧
      ∃ left, descend diamond (some 4) [.node ⟨0, 1⟩, .detached [⟨0, 0⟩, ⟨0, 3⟩]] =
        .ok ([.node ⟨0, 1⟩, .node ⟨0, 3⟩, .node ⟨0, 0⟩, .node ⟨0, 2⟩, .detached [⟨0, 0⟩, ⟨0, 3⟩]],
          left) := by
  have hreached : reached diamond [.node ⟨0, 1⟩, .detached [⟨0, 0⟩, ⟨0, 3⟩]] =
      [⟨0, 1⟩, ⟨0, 3⟩, ⟨0, 0⟩, ⟨0, 2⟩] := by cbv
  have hsearch : searchRoots diamond [] [.node ⟨0, 1⟩, .detached [⟨0, 0⟩, ⟨0, 3⟩]] =
      [.node ⟨0, 1⟩, .node ⟨0, 3⟩, .node ⟨0, 0⟩, .node ⟨0, 2⟩, .detached [⟨0, 0⟩, ⟨0, 3⟩]] := by cbv
  have hcovers : Fuel.Covers (some 4)
      {node | Forest.Reaches diamond [.node ⟨0, 1⟩, .detached [⟨0, 0⟩, ⟨0, 3⟩]] node}.ncard := by
    intro limit hlimit
    rw [ncard_reaches, hreached]
    exact Nat.le_of_eq (Option.some.inj hlimit)
  exact ⟨hcovers, hsearch ▸ (descend_eq_search hcovers).1⟩

end Path

end TreeQuery
