import TreeQuery.Path

/-!
# Locators

A locator is a path that finds one given node and nothing else. Below its parent a node is told from
its siblings by its name, and if that is not enough, by the values of parameters, which are added in
the given order until the node is found alone. Empty values are passed over. Each attempt is judged by
following it.

A node deeper down is located step by step: from the root to an ancestor among its children, and from
each ancestor to the next.

## Termination

* `Locator.chain?` — a node that was not seen before and has a parent is stored, so fewer nodes are
  left to be seen
-/

namespace TreeQuery.Locator

variable (forest : Forest)

/-- Whether an expression finds the target alone. -/
def selectsOnly (root : Root) (target : Node) (expr : Text) : Except Error Bool :=
  (Path.evaluate forest .standard expr [root]).map fun found => decide (found = [target])

/-- The clause that asks a parameter for a value. The name of the parameter stands as it is given. -/
def clause (param value : Text) : Text := ['&'] ++ param ++ ['='] ++ Pattern.quote value

/-- The clauses that describe the target, one for each parameter with a value. -/
def clauses (target : Node) (params : List Text) : List Text :=
  (params.filter (forest.parameter target · ≠ [])).map fun param =>
    clause param (forest.parameter target param)

/-- The expression, with as many of the clauses as it takes to find the target alone. -/
def lengthen (root : Root) (target : Node) (expr : Text) : List Text → Except Error Text
  | [] => do if ← selectsOnly forest root target expr then return expr else throw .indistinct
  | clause :: clauses => do
    if ← selectsOnly forest root target expr then return expr
    else lengthen root target (expr ++ clause) clauses

/-- The shortest expression that finds the target alone among the children of a root. -/
def expression (params : List Text) (root : Root) (target : Node) : Except Error Text :=
  if target ∈ root.children forest then
    lengthen forest root target (Pattern.quote (forest.name target)) (clauses forest target params)
  else .error (.notAChild (forest.name target))

/-- The nodes from one of `top` down to the given one, by the parents that the nodes report. Coming
to a node again means that there is no way up. -/
def chain? (top seen : List Node) (node : Node) : Option (List Node) :=
  if node ∈ seen then none
  else if node ∈ top then some [node]
  else
    match h : forest.parent? node with
    | none => none
    | some parent =>
      have := forest.mem_nodes_of_parent? h
      (chain? top (node :: seen) parent).map (· ++ [node])
termination_by forest.unvisited seen
decreasing_by exact forest.unvisited_cons_lt ‹_› ‹_›

/-- The expressions that lead from a root through a chain of nodes. -/
def expressions (params : List Text) (root : Root) : List Node → Except Error (List Text)
  | [] => .ok []
  | node :: nodes => do
    let expr ← expression forest params root node
    let exprs ← expressions params (.node node) nodes
    return expr :: exprs

/-- The path from a root down to the target. -/
def path (params : List Text) (root : Root) (target : Node) : Except Error Text :=
  match chain? forest (root.children forest) [] target with
  | none => .error (.notAChild (forest.name target))
  | some chain => (expressions forest params root chain).map (['|'].intercalate ·)

end TreeQuery.Locator
