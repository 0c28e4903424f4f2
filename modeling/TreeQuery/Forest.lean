import TreeQuery.Tree

/-!
# Nodes and roots

A query may start from nodes of several trees, so a node is a tree's place in a *forest* together
with a slot of that tree: two nodes are the same exactly when both agree, whatever they hold. A node
whose slot is not in use has an empty name and no parameters, children or parent.

A query starts from *roots*. A root is a node or a detached list of nodes, such as the top-level
nodes of a tree.
-/

namespace TreeQuery

/-- Trees that are queried together. -/
abbrev Forest := List Tree

/-- A node: the place of its tree in the forest and its slot there. -/
structure Node where
  tree : Nat
  slot : Nat
  deriving DecidableEq, Repr, Inhabited

/-- A starting point of a query. -/
inductive Root where
  | node (node : Node)
  /-- A nameless container with fixed children. -/
  | detached (children : List Node)
  deriving DecidableEq, Repr, Inhabited

namespace Forest

variable (forest : Forest)

/-- What the forest stores for a node. -/
def record? (node : Node) : Option Record := forest[node.tree]?.bind (·.record? node.slot)

/-- The nodes whose slots are in use. -/
def nodes : List Node :=
  (List.range forest.length).flatMap fun i =>
    (List.range ((forest[i]?.map Tree.size).getD 0)).map (Node.mk i)

/-- The nodes of a forest are those that it stores something for. -/
theorem mem_nodes_iff {node : Node} : node ∈ forest.nodes ↔ (forest.record? node).isSome := by
  obtain ⟨i, s⟩ := node
  simp only [nodes, record?, List.mem_flatMap, List.mem_range, List.mem_map, Node.mk.injEq]
  constructor
  · rintro ⟨j, hj, t, ht, rfl, rfl⟩
    simp_all [Tree.size, Tree.record?]
  · intro h
    cases hi : forest[i]? with
    | none => simp [hi] at h
    | some tree =>
      have hs : s < tree.size := by simpa [hi, Tree.record?, Tree.size] using h
      exact ⟨i, (List.getElem?_eq_some_iff.1 hi).1, s, by simpa [hi] using hs, rfl, rfl⟩

/-- The name of a node. -/
def name (node : Node) : Text := ((forest.record? node).map Record.name).getD []

/-- The parameters of a node, as stored. -/
def params (node : Node) : Params := ((forest.record? node).map Record.params).getD []

/-- The value of a parameter of a node. -/
def parameter (node : Node) (name : Text) : Text := (forest.params node).get name

/-- The children of a node, in order. -/
def children (node : Node) : List Node :=
  (((forest.record? node).map Record.children).getD []).map (Node.mk node.tree)

/-- The parent that a node reports. -/
def parent? (node : Node) : Option Node :=
  ((forest.record? node).bind Record.parent).map (Node.mk node.tree)

/-- A node that is not stored has no children. -/
theorem children_eq_nil {node : Node} (h : node ∉ forest.nodes) : forest.children node = [] := by
  have : forest.record? node = none := by simpa [mem_nodes_iff] using h
  simp [children, this]

/-- A node that has a parent is stored. -/
theorem mem_nodes_of_parent? {node parent : Node} (h : forest.parent? node = some parent) :
    node ∈ forest.nodes := by
  rw [mem_nodes_iff]
  cases hr : forest.record? node with
  | none => simp [parent?, hr] at h
  | some r => rfl

/-- The detached root of the top-level nodes of one tree. -/
def desktop (tree : Nat) : Root :=
  .detached (((forest[tree]?.map Tree.roots).getD []).map (Node.mk tree))

/-! ## Unvisited nodes

Searches that must not run in circles keep a list of the nodes they have visited. They end because
the number of stored nodes outside that list shrinks, and with it the number of links that lead away
from such nodes.
-/

/-- How many stored nodes are not in `visited`. -/
def unvisited (visited : List Node) : Nat := forest.nodes.countP fun n => decide (n ∉ visited)

theorem unvisited_cons_le (node : Node) (visited : List Node) :
    forest.unvisited (node :: visited) ≤ forest.unvisited visited := by
  apply List.countP_mono_left
  intro n _ h
  simp_all

/-- Visiting one more stored node leaves fewer. -/
theorem unvisited_cons_lt {node : Node} {visited : List Node} (hn : node ∈ forest.nodes)
    (hv : node ∉ visited) : forest.unvisited (node :: visited) < forest.unvisited visited := by
  unfold unvisited
  generalize forest.nodes = nodes at hn
  induction nodes with
  | nil => simp at hn
  | cons m nodes ih =>
    have hle : nodes.countP (fun n => decide (n ∉ node :: visited)) ≤
        nodes.countP (fun n => decide (n ∉ visited)) :=
      List.countP_mono_left (by intro n _ h; simp_all)
    simp only [List.countP_cons]
    by_cases hm : m = node
    · subst hm
      simp [hv] at hle ⊢
      omega
    · have := ih (by simpa [Ne.symm hm] using hn)
      simp [hm] at this ⊢
      omega

/-- How many links lead from the given nodes, those in `visited` left out. -/
def linksFrom (visited : List Node) : List Node → Nat
  | [] => 0
  | n :: ns => (if n ∈ visited then 0 else (forest.children n).length) + linksFrom visited ns

/-- How many links lead from stored nodes that are not in `visited`. -/
def links (visited : List Node) : Nat := forest.linksFrom visited forest.nodes

theorem linksFrom_cons_le (node : Node) (visited ns : List Node) :
    forest.linksFrom (node :: visited) ns ≤ forest.linksFrom visited ns := by
  induction ns with
  | nil => exact Nat.le_refl _
  | cons n ns ih =>
    simp only [linksFrom, List.mem_cons]
    by_cases h : n ∈ visited
    · simpa only [h, or_true, if_true] using Nat.add_le_add_left ih 0
    · split <;> omega

theorem linksFrom_cons_add_le {node : Node} {visited ns : List Node} (hn : node ∈ ns)
    (hv : node ∉ visited) :
    forest.linksFrom (node :: visited) ns + (forest.children node).length ≤
      forest.linksFrom visited ns := by
  induction ns with
  | nil => cases hn
  | cons n ns ih =>
    by_cases h : n = node
    · subst h
      have := forest.linksFrom_cons_le n visited ns
      simp only [linksFrom, List.mem_cons, true_or, if_true, hv, if_false]
      omega
    · have := ih ((List.mem_cons.1 hn).resolve_left (Ne.symm h))
      simp only [linksFrom, List.mem_cons, h, false_or]
      omega

/-- A node that is visited takes its links with it. -/
theorem links_cons_add_le {node : Node} {visited : List Node} (hv : node ∉ visited) :
    forest.links (node :: visited) + (forest.children node).length ≤ forest.links visited := by
  by_cases hn : node ∈ forest.nodes
  · exact forest.linksFrom_cons_add_le hn hv
  · rw [forest.children_eq_nil hn]
    exact forest.linksFrom_cons_le node visited forest.nodes

/-- No node has more links than there are. -/
theorem length_children_le (node : Node) : (forest.children node).length ≤ forest.links [] :=
  Nat.le_trans (Nat.le_add_left ..) (forest.links_cons_add_le List.not_mem_nil)

end Forest

namespace Root

/-- The node, if the root is one. -/
def node? : Root → Option Node
  | .node n => some n
  | .detached _ => none

/-- The children of a root, in order. -/
def children (forest : Forest) : Root → List Node
  | .node n => forest.children n
  | .detached ns => ns

/-- The parent of a root; a detached list has none. -/
def parent? (forest : Forest) : Root → Option Node
  | .node n => forest.parent? n
  | .detached _ => none

/-- The detached root whose only child is the node itself. A detached list has no node to show and
becomes empty. -/
def singleton : Root → Root
  | .node n => .detached [n]
  | .detached _ => .detached []

end Root

end TreeQuery
