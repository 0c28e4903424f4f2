import TreeQuery.Proofs.Access.Parameters
import TreeQuery.Proofs.Tree.History

/-!
# Looking into slots

What is asked of a node is looked up in the slot of the node, and a slot that is not in use has nothing
to look at (`Forest.nameAt`, `parameterAt`, `childrenAt` and `parentAt`). So a node that is stored can be
asked, and the question is whether the nodes that it leads to are stored again.

In a tree that was made by steps they are: each step leaves all links within the tree (`Tree.Closed`).
-/

namespace TreeQuery

/-! ## Links within a tree -/

namespace Tree

variable {tree : Tree}

/-- All links from a slot that is in use lead to slots that are in use. -/
def Closed (tree : Tree) : Prop :=
  ∀ s r, tree.record? s = some r →
    (∀ child ∈ r.children, child < tree.size) ∧ ∀ parent, r.parent = some parent → parent < tree.size

theorem closed_empty : empty.Closed := by
  intro s r h
  cases h

theorem lt_of_record? {s : Nat} {r : Record} (h : tree.record? s = some r) : s < tree.size := by
  by_contra hle
  rw [record?_eq_none_iff.2 (Nat.le_of_not_lt hle)] at h
  cases h

/-- A link between slots that are in use keeps all links within the tree. -/
theorem Closed.link (h : tree.Closed) (p c : Nat) : (tree.link p c).Closed := by
  by_cases hpc : p < tree.size ∧ c < tree.size
  · obtain ⟨hp, hc⟩ := hpc
    intro s r hr
    have hs : s < tree.size := by
      rw [← size_link tree p c]
      exact lt_of_record? hr
    obtain ⟨hchildren, hparent⟩ := h s _ (record?_of_lt hs)
    have he : r = (tree.link p c).recordAt s := by
      rw [recordAt, hr]
      rfl
    rw [he, recordAt_link hp hc, size_link]
    constructor
    · intro child hchild
      rcases List.mem_append.1 hchild with hchild | hchild
      · exact hchildren child hchild
      · split at hchild
        · rwa [List.mem_singleton.1 hchild]
        · cases hchild
    · intro parent hor
      rcases Option.or_eq_some_iff.1 hor with hor | ⟨-, hor⟩
      · exact hparent parent hor
      · split at hor
        · cases hor
          exact hp
        · cases hor
  · rw [Tree.link, if_neg hpc]
    exact h

/-- No step makes a link that leads out of the tree. -/
theorem Closed.edit (h : tree.Closed) (e : Edit) : (tree.edit e).Closed := by
  cases e with
  | node name =>
    intro s r hr
    rw [Tree.edit, record?_addNode] at hr
    rw [Tree.edit, size_addNode]
    split at hr
    · cases hr
      refine ⟨fun _ hchild => absurd hchild List.not_mem_nil, fun _ hparent => ?_⟩
      cases hparent
    · obtain ⟨hchildren, hparent⟩ := h s r hr
      exact ⟨fun child hchild => Nat.lt_succ_of_lt (hchildren child hchild),
        fun parent hp => Nat.lt_succ_of_lt (hparent parent hp)⟩
  | param slot key value =>
    intro s r hr
    rw [Tree.edit, record?_setParam] at hr
    rw [Tree.edit, size_setParam]
    split at hr
    · obtain ⟨r', hr', rfl⟩ := Option.map_eq_some_iff.1 hr
      exact h s r' hr'
    · exact h s r hr
  | child p c => exact h.link p c

/-- **In a tree that was made by steps, all links lead to slots that are in use.** -/
theorem IsBuilt.closed (h : tree.IsBuilt) : tree.Closed :=
  h.induction closed_empty fun _ e ht => ht.edit e

end Tree

/-! ## Stored nodes -/

namespace Forest

variable {forest : Forest}

theorem mem_nodes_of_lt {i s : Nat} {tree : Tree} (ht : forest[i]? = some tree) (h : s < tree.size) :
    ⟨i, s⟩ ∈ forest.nodes := by
  rw [mem_nodes_iff, record?, ht, Option.bind_some, Tree.record?_of_lt h]
  rfl

/-- The children of a node are stored. -/
theorem mem_nodes_of_mem_children (hf : ∀ tree ∈ forest, tree.IsBuilt) {node child : Node}
    (h : child ∈ forest.children node) : child ∈ forest.nodes := by
  obtain ⟨s, hs, rfl⟩ := List.mem_map.1 h
  cases hr : forest.record? node with
  | none =>
    rw [hr] at hs
    cases hs
  | some r =>
    rw [hr] at hs
    obtain ⟨tree, htree, hrecord⟩ := Option.bind_eq_some_iff.1 hr
    have hclosed := (hf tree (List.mem_of_getElem? htree)).closed
    exact mem_nodes_of_lt htree ((hclosed _ r hrecord).1 s hs)

/-- The parent that a node reports is stored. -/
theorem parent_mem_nodes (hf : ∀ tree ∈ forest, tree.IsBuilt) {node parent : Node}
    (h : forest.parent? node = some parent) : parent ∈ forest.nodes := by
  obtain ⟨s, hs, rfl⟩ := Option.map_eq_some_iff.1 h
  obtain ⟨r, hr, hparent⟩ := Option.bind_eq_some_iff.1 hs
  obtain ⟨tree, htree, hrecord⟩ := Option.bind_eq_some_iff.1 hr
  have hclosed := (hf tree (List.mem_of_getElem? htree)).closed
  exact mem_nodes_of_lt htree ((hclosed _ r hrecord).2 s hparent)

/-! ## Looks -/

variable (forest) in
/-- The name in the slot of a node. -/
def nameAt (node : Node) : Option Text := (forest.record? node).map Record.name

variable (forest) in
/-- The value of a parameter in the slot of a node. -/
def parameterAt (node : Node) (name : Text) : Option Text :=
  (forest.record? node).bind fun r => r.params.getAt name

variable (forest) in
/-- The children in the slot of a node. -/
def childrenAt (node : Node) : Option (List Node) :=
  (forest.record? node).map fun r => r.children.map (Node.mk node.tree)

variable (forest) in
/-- The parent in the slot of a node, if it has one. -/
def parentAt (node : Node) : Option (Option Node) :=
  (forest.record? node).map fun r => r.parent.map (Node.mk node.tree)

variable {node : Node}

theorem nameAt_eq_some (h : node ∈ forest.nodes) : forest.nameAt node = some (forest.name node) := by
  obtain ⟨r, hr⟩ := Option.isSome_iff_exists.1 (forest.mem_nodes_iff.1 h)
  rw [nameAt, name, hr]
  rfl

theorem parameterAt_eq_some (h : node ∈ forest.nodes) (name : Text) :
    forest.parameterAt node name = some (forest.parameter node name) := by
  obtain ⟨r, hr⟩ := Option.isSome_iff_exists.1 (forest.mem_nodes_iff.1 h)
  rw [parameterAt, parameter, params, hr]
  exact Params.getAt_eq_some r.params name

theorem childrenAt_eq_some (h : node ∈ forest.nodes) :
    forest.childrenAt node = some (forest.children node) := by
  obtain ⟨r, hr⟩ := Option.isSome_iff_exists.1 (forest.mem_nodes_iff.1 h)
  rw [childrenAt, children, hr]
  rfl

theorem parentAt_eq_some (h : node ∈ forest.nodes) :
    forest.parentAt node = some (forest.parent? node) := by
  obtain ⟨r, hr⟩ := Option.isSome_iff_exists.1 (forest.mem_nodes_iff.1 h)
  rw [parentAt, parent?, hr]
  rfl

/-- A look at the children finds them. -/
theorem eq_children_of_childrenAt {children : List Node} (h : forest.childrenAt node = some children) :
    children = forest.children node := by
  obtain ⟨r, hr, rfl⟩ := Option.map_eq_some_iff.1 h
  rw [Forest.children, hr]
  rfl

/-- Only the slots of stored nodes can be looked into. -/
theorem mem_nodes_of_parentAt {parent : Option Node} (h : forest.parentAt node = some parent) :
    node ∈ forest.nodes := by
  obtain ⟨r, hr, -⟩ := Option.map_eq_some_iff.1 h
  rw [mem_nodes_iff, hr]
  rfl

end Forest

/-! ## Roots -/

namespace Root

variable {forest : Forest}

/-- A root that is a stored node or has stored nodes for children. -/
def Stored (forest : Forest) : Root → Prop
  | .node n => n ∈ forest.nodes
  | .detached ns => ∀ n ∈ ns, n ∈ forest.nodes

/-- The children of a root, those of a node being looked up. -/
def childrenAt (forest : Forest) : Root → Option (List Node)
  | .node n => forest.childrenAt n
  | .detached ns => some ns

/-- The parent of a root, that of a node being looked up. -/
def parentAt (forest : Forest) : Root → Option (Option Node)
  | .node n => forest.parentAt n
  | .detached _ => some none

theorem childrenAt_eq_some {root : Root} (h : root.Stored forest) :
    root.childrenAt forest = some (root.children forest) := by
  cases root with
  | node n => exact Forest.childrenAt_eq_some h
  | detached ns => rfl

theorem parentAt_eq_some {root : Root} (h : root.Stored forest) :
    root.parentAt forest = some (root.parent? forest) := by
  cases root with
  | node n => exact Forest.parentAt_eq_some h
  | detached ns => rfl

theorem Stored.mem_nodes (hf : ∀ tree ∈ forest, tree.IsBuilt) {root : Root} (h : root.Stored forest)
    {node : Node} (hn : node ∈ root.children forest) : node ∈ forest.nodes := by
  cases root with
  | node n => exact Forest.mem_nodes_of_mem_children hf hn
  | detached ns => exact h node hn

theorem Stored.mem_nodes_of_parent? (hf : ∀ tree ∈ forest, tree.IsBuilt) {root : Root}
    (h : root.Stored forest) {parent : Node} (hp : root.parent? forest = some parent) :
    parent ∈ forest.nodes := by
  cases root with
  | node n => exact Forest.parent_mem_nodes hf hp
  | detached ns => cases hp

theorem Stored.singleton {root : Root} (h : root.Stored forest) : root.singleton.Stored forest := by
  cases root with
  | node n => exact List.forall_mem_singleton.2 h
  | detached ns => exact fun _ hn => absurd hn List.not_mem_nil

/-- The top-level nodes of a tree are stored. -/
theorem stored_desktop (i : Nat) : (forest.desktop i).Stored forest := by
  intro n hn
  obtain ⟨s, hs, rfl⟩ := List.mem_map.1 hn
  cases ht : forest[i]? with
  | none =>
    rw [ht] at hs
    cases hs
  | some tree =>
    rw [ht] at hs
    exact Forest.mem_nodes_of_lt ht (Tree.mem_roots_iff.1 hs).1

end Root

end TreeQuery
