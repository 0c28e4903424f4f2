import TreeQuery.Params

/-!
# Trees

A tree stores its nodes in *slots*, numbered from zero in the order in which they were made. A node
has a name, parameters, a list of children and at most one parent. The same node may be linked under
several parents, more than once, and even below itself: links are only recorded. The first link
decides which parent a node reports, and the nodes that were never linked are the top-level ones.
-/

namespace TreeQuery

/-- What is stored in one slot. -/
structure Record where
  name : Text
  params : Params := []
  children : List Nat := []
  parent : Option Nat := none
  deriving DecidableEq, Repr, Inhabited

/-- Nodes in their slots. -/
structure Tree where
  records : Array Record := #[]
  deriving DecidableEq, Repr, Inhabited

/-- One step in making a tree. -/
inductive Edit where
  /-- Makes the node of the next slot. -/
  | node (name : Text)
  /-- Sets a parameter of a node. -/
  | param (slot : Nat) (key value : Text)
  /-- Appends a node to the children of another. -/
  | child (parent child : Nat)
  deriving DecidableEq, Repr

namespace Tree

/-- The tree without nodes. -/
def empty : Tree := {}

/-- The number of nodes. -/
def size (tree : Tree) : Nat := tree.records.size

/-- What a slot holds, if it is in use. -/
def record? (tree : Tree) (slot : Nat) : Option Record := tree.records[slot]?

/-- The nodes without a parent, in the order of their slots. -/
def roots (tree : Tree) : List Nat :=
  (List.range tree.size).filter fun slot => ((tree.record? slot).bind Record.parent).isNone

/-- Appends a node without parameters and links. -/
def addNode (tree : Tree) (name : Text) : Tree := ⟨tree.records.push { name }⟩

/-- Sets a parameter of a node. -/
def setParam (tree : Tree) (slot : Nat) (key value : Text) : Tree :=
  ⟨tree.records.modify slot fun r => { r with params := r.params.insert key value }⟩

/-- Appends `child` to the children of `parent`, which becomes its parent unless it has one. A link
from or to an unused slot is not made. -/
def link (tree : Tree) (parent child : Nat) : Tree :=
  if parent < tree.size ∧ child < tree.size then
    let linked := tree.records.modify parent fun r => { r with children := r.children ++ [child] }
    ⟨linked.modify child fun r => { r with parent := r.parent.or (some parent) }⟩
  else tree

/-- Carries out one step. -/
def edit (tree : Tree) : Edit → Tree
  | .node name => tree.addNode name
  | .param slot key value => tree.setParam slot key value
  | .child parent child => tree.link parent child

/-- The tree that a sequence of steps makes. -/
def build (edits : List Edit) : Tree := edits.foldl edit empty

@[simp] theorem size_addNode (tree : Tree) (name : Text) :
    (tree.addNode name).size = tree.size + 1 := by simp [size, addNode]

@[simp] theorem size_setParam (tree : Tree) (slot : Nat) (key value : Text) :
    (tree.setParam slot key value).size = tree.size := by simp [size, setParam]

@[simp] theorem size_link (tree : Tree) (parent child : Nat) :
    (tree.link parent child).size = tree.size := by
  unfold link
  split <;> simp [size]

end Tree

end TreeQuery
