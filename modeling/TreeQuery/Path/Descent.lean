import TreeQuery.Error
import TreeQuery.Forest

/-!
# Descent

The descent from a list of roots goes depth first through everything below them. It meets each node
once, before its children, even if the node is linked several times or lies below itself. Detached
roots stay where they are, ahead of what is below them.

Each node that is met uses up one unit of fuel. When there is none left, the descent fails.

## Termination

* `Descent.visit` — each step takes a node off the stack, and the nodes that it puts there come from
  links that are not used again
-/

namespace TreeQuery

/-- The number of nodes that may still be met; `none` sets no limit. -/
abbrev Fuel := Option Nat

namespace Fuel

/-- The fuel of a query unless something else is said. -/
def standard : Fuel := some 1000000

/-- What is left after one unit is used up. -/
def spend? : Fuel → Option Fuel
  | none => some none
  | some 0 => none
  | some (n + 1) => some (some n)

end Fuel

namespace Path

/-- How far a descent has come. -/
structure Descent where
  /-- The nodes that were met. -/
  visited : List Node := []
  fuel : Fuel
  deriving DecidableEq, Repr

namespace Descent

/-- Meets the nodes of a stack and everything below them, from the top. -/
def visit (forest : Forest) (d : Descent) (stack : List Node) :
    Except Error (List Node × Descent) :=
  match stack with
  | [] => .ok ([], d)
  | node :: stack =>
    if node ∈ d.visited then visit forest d stack
    else
      match d.fuel.spend? with
      | none => .error .fuelExhausted
      | some fuel =>
        (visit forest ⟨node :: d.visited, fuel⟩ (forest.children node ++ stack)).map
          fun (found, d) => (node :: found, d)
termination_by forest.links d.visited + stack.length
decreasing_by
  · exact Nat.lt_succ_self _
  · have := forest.links_cons_add_le ‹node ∉ d.visited›
    simp only [List.length_append, List.length_cons]
    omega

/-- Goes through the roots and everything below them. -/
def visitRoots (forest : Forest) (d : Descent) : List Root → Except Error (List Root × Descent)
  | [] => .ok ([], d)
  | .node n :: roots => do
    let (found, d) ← visit forest d [n]
    let (more, d) ← visitRoots forest d roots
    return (found.map Root.node ++ more, d)
  | .detached ns :: roots => do
    let (found, d) ← visit forest d ns
    let (more, d) ← visitRoots forest d roots
    return (.detached ns :: (found.map Root.node ++ more), d)

end Descent

/-- The roots and everything below them, each node once, with the fuel that is left. -/
def descend (forest : Forest) (fuel : Fuel) (roots : List Root) :
    Except Error (List Root × Fuel) :=
  (Descent.visitRoots forest { fuel } roots).map fun (found, d) => (found, d.fuel)

end Path

end TreeQuery
