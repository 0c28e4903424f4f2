import TreeQuery.Json.Reader
import TreeQuery.Tree

/-!
# Snapshots

A snapshot is a JSON text that holds a tree: one node or a list of top-level nodes. A node is an
object with a `name`, and `params` and `children` where there are any. It may also be written as an
array of these three in that order. Other members of the object are ignored, but none of these three
may occur twice.

An `Outline` is a node with everything below it, as a snapshot describes it. Planting outlines makes
the tree that they describe: a node takes the next slot, then come its children, one after the other.

The first thing that is wrong decides: a fault in the JSON text of the value, then a value that
describes no tree, then text after the value.
-/

namespace TreeQuery

/-- A node with everything below it. -/
structure Outline where
  name : Text
  params : Params := []
  children : List Outline := []
  deriving Repr, Inhabited

namespace Outline

open Json (Value)

/-! ## Outlines in JSON values -/

/-- The text that a value is. -/
def text? : Value → Option Text
  | .string t => some t
  | _ => none

/-- The parameters that the members of an object set. -/
def settings? : List (Text × Value) → Option (List (Text × Text))
  | [] => some []
  | (key, v) :: rest => do
    let value ← text? v
    return (key, value) :: (← settings? rest)

/-- The parameters that a value describes. -/
def params? : Value → Option Params
  | .object members => (settings? members).map Params.ofList
  | _ => none

/-- What is known of a node after some members of its object. -/
structure Fields where
  name : Option Text := none
  params : Option Params := none
  children : Option (List Outline) := none

/-- The node of an object with these members. -/
def Fields.outline? (fields : Fields) : Option Outline :=
  fields.name.map fun name =>
    { name, params := fields.params.getD [], children := fields.children.getD [] }

mutual

/-- The node that a value describes. -/
def ofValue? : Value → Option Outline
  | .object members => (fields? members).bind Fields.outline?
  | .array elements => ofElements? elements
  | _ => none

/-- The node that the elements of an array describe. -/
def ofElements? : List Value → Option Outline
  | [name] => return { name := ← text? name }
  | [name, params] => return { name := ← text? name, params := ← params? params }
  | [name, params, children] =>
    return { name := ← text? name, params := ← params? params, children := ← children? children }
  | _ => none

/-- The nodes that a value describes as children. -/
def children? : Value → Option (List Outline)
  | .array elements => ofValues? elements
  | _ => none

/-- The nodes that some values describe. -/
def ofValues? : List Value → Option (List Outline)
  | [] => some []
  | v :: rest => return (← ofValue? v) :: (← ofValues? rest)

/-- What the members of an object tell of its node. -/
def fields? : List (Text × Value) → Option Fields
  | [] => some {}
  | (key, v) :: rest => do
    let fields ← fields? rest
    if key = "name".toList then
      if fields.name.isSome then none else return { fields with name := some (← text? v) }
    else if key = "params".toList then
      if fields.params.isSome then none else return { fields with params := some (← params? v) }
    else if key = "children".toList then
      if fields.children.isSome then none
      else return { fields with children := some (← children? v) }
    else return fields

end

/-- The top-level nodes that a value describes: a list of nodes, or else one node. -/
def allOfValue? (v : Value) : Option (List Outline) :=
  (children? v).or ((ofValue? v).map ([·]))

/-! ## Planting -/

mutual

/-- Adds the nodes of an outline to a tree. -/
def plant (tree : Tree) : Outline → Tree
  | ⟨name, params, children⟩ =>
    let slot := tree.size
    let tree := params.foldl (fun tree (key, value) => tree.setParam slot key value)
      (tree.addNode name)
    plantBelow slot tree children

/-- Adds the nodes of some outlines to a tree, as children of the node in `slot`. -/
def plantBelow (slot : Nat) (tree : Tree) : List Outline → Tree
  | [] => tree
  | child :: rest => plantBelow slot ((plant tree child).link slot tree.size) rest

end

/-- The tree with the given top-level nodes. -/
def plantAll (outlines : List Outline) : Tree := outlines.foldl plant Tree.empty

end Outline

namespace Snapshot

/-- Why a text is no snapshot. -/
inductive Fault where
  | json (fault : Json.Fault)
  /-- The value describes no tree. -/
  | shape
  deriving DecidableEq, Repr

namespace Fault

/-- The wording of what is wrong. -/
def detail : Fault → Text
  | json fault => fault.cause.message
  | shape => "data did not match any variant of untagged enum RawSnapshot".toList

/-- The wording of a fault, without its place. -/
def message (fault : Fault) : Text := "invalid tree snapshot: ".toList ++ fault.detail

/-- The wording of a fault in a text, with its place if it has one. -/
def messageIn (t : Text) (fault : Fault) : Text :=
  match fault with
  | json inner =>
    let (line, column) := inner.position t
    fault.message ++ " at line ".toList ++ Text.ofNat line ++ " column ".toList ++
      Text.ofNat column
  | shape => fault.message

end Fault

/-- Reads the outlines of a snapshot. -/
def outlines (t : Text) : Except Fault (List Outline) :=
  match Json.value Json.depthLimit t with
  | .error fault => .error (.json fault)
  | .ok reading =>
    match Outline.allOfValue? reading.value with
    | none => .error .shape
    | some outlines =>
      match Json.skipBlanks reading.rest with
      | [] => .ok outlines
      | rest => .error (.json (.past .trailingCharacters rest))

/-- Reads the tree of a snapshot. -/
def tree (t : Text) : Except Fault Tree := (outlines t).map Outline.plantAll

end Snapshot

end TreeQuery
