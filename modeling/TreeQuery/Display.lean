import TreeQuery.Forest
import TreeQuery.Json.Printer

/-!
# Display

Nodes are shown as lines of text, with or without colors, or as JSON. A line shows the name and the
stored parameters. The long form shows one line a name that the node answers to, flags included.

A listing shows everything below some nodes, a node before its children, indented by its depth. What
is linked below several nodes is shown below each of them, but a node is not shown below itself. In the
tree of a snapshot no node is below itself, so there nothing is left out.

## Termination

* `Display.listBelow` — the ancestors grow, and a node that is not stored has no children; any other
  step takes a node off the list
-/

namespace TreeQuery

/-- Character sequences that switch colors on a terminal. -/
structure Palette where
  name : Text
  key : Text
  value : Text
  reset : Text
  deriving DecidableEq, Repr

namespace Palette

/-- Blue names, dim keys and green values. -/
def colored : Palette where
  name := "\x1b[34m".toList
  key := "\x1b[2m".toList
  value := "\x1b[32m".toList
  reset := "\x1b[0m".toList

/-- No colors. -/
def plain : Palette := ⟨[], [], [], []⟩

/-- Colors if they are wanted. -/
def ofBool (wanted : Bool) : Palette := if wanted then colored else plain

/-- A name in its color. -/
def paintName (palette : Palette) (name : Text) : Text := palette.name ++ name ++ palette.reset

/-- A parameter, the key and the value in their colors. -/
def paintParam (palette : Palette) (key value : Text) : Text :=
  palette.key ++ key ++ ['='] ++ palette.reset ++ palette.value ++ value ++ palette.reset

end Palette

namespace Display

variable (forest : Forest) (palette : Palette)

/-! ## Lines -/

/-- The name and the stored parameters of a node on one line. -/
def nodeLine (node : Node) : Text :=
  let params := forest.params node
  palette.paintName (forest.name node) ++ (if params = [] then [] else [' ']) ++
    params.flatMap fun (key, value) => ' ' :: palette.paintParam key value

/-- Nodes, one a line. -/
def nodes (ns : List Node) : Text := ns.flatMap fun n => nodeLine forest palette n ++ ['\n']

/-- The name of a node and below it each name it answers to, one a line. -/
def params (node : Node) : Text :=
  palette.paintName (forest.name node) ++ ['\n'] ++
    (forest.params node).allNames.flatMap fun name =>
      "  ".toList ++ palette.paintParam name (forest.parameter node name) ++ ['\n']

/-! ## Listings -/

/-- Nodes and what is below them, each with its depth. -/
def listBelow (ancestors : List Node) : List Node → List (Nat × Node)
  | [] => []
  | node :: rest =>
    if node ∈ ancestors then listBelow ancestors rest
    else
      (ancestors.length, node) ::
        (listBelow (node :: ancestors) (forest.children node) ++ listBelow ancestors rest)
termination_by ns => forest.unvisited ancestors * (forest.links [] + 1) + ns.length
decreasing_by
  · exact Nat.lt_succ_self _
  · by_cases hn : node ∈ forest.nodes
    · have hlt := forest.unvisited_cons_lt hn ‹node ∉ ancestors›
      have hle := Nat.mul_le_mul_right (forest.links [] + 1) hlt
      have hch := forest.length_children_le node
      rw [Nat.succ_mul] at hle
      simp only [List.length_cons]
      omega
    · have hle := Nat.mul_le_mul_right (forest.links [] + 1)
        (forest.unvisited_cons_le node ancestors)
      rw [forest.children_eq_nil hn]
      simp only [List.length_cons, List.length_nil]
      omega
  · exact Nat.lt_succ_self _

/-- Some nodes and what is below them, indented by two spaces a level. -/
def listing (ns : List Node) : Text :=
  (listBelow forest [] ns).flatMap fun (depth, node) =>
    List.replicate (2 * depth) ' ' ++ nodeLine forest palette node ++ ['\n']

/-! ## JSON -/

open Json (Value)

/-- A node as JSON, with some of its parameters. -/
def nodeValue (name : Text) (params : Params) : Value :=
  .object [("name".toList, .string name),
    ("params".toList, .object (params.map fun (key, value) => (key, .string value)))]

/-- A node as JSON, with its stored parameters. -/
def storedValue (node : Node) : Value := nodeValue (forest.name node) (forest.params node)

/-- A node as JSON, with all names it answers to. -/
def expandedValue (node : Node) : Value :=
  nodeValue (forest.name node) <| Params.ofList <|
    (forest.params node).allNames.map fun name => (name, forest.parameter node name)

/-- Nodes as a JSON text, with their stored parameters. -/
def storedJson (ns : List Node) : Text := (Value.array (ns.map (storedValue forest))).print 0

/-- Nodes as a JSON text, with all names they answer to. -/
def expandedJson (ns : List Node) : Text := (Value.array (ns.map (expandedValue forest))).print 0

end Display

end TreeQuery
