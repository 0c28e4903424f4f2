import TreeQuery.Path.Segment

/-!
# Frontiers

A query moves a *frontier*, the list of roots reached so far. Apart from the descent, each move looks
at the frontier alone: it goes up, keeps a slice, sorts, or passes the children through a filter. No
move reorders what it does not sort, and none removes repetitions unless it is told to.
-/

namespace TreeQuery.Path

/-- The parents of the roots that have one. -/
def climb (forest : Forest) (roots : List Root) : List Root :=
  (roots.filterMap (·.parent? forest)).map .node

/-! ## Slices -/

/-- The place, counted from zero, of an item that is counted from one or, with a negative number,
from the end. Zero stands for the item at `open`. -/
def place (count openEnd : Int) (bound : Int) : Int :=
  if bound < 0 then bound + count else if bound = 0 then openEnd else bound - 1

/-- The place nearest to `i` among `count` places. -/
def clamp (count : Nat) (i : Int) : Nat := (max 0 (min i (count - 1))).toNat

/-- The items between two bounds, both included, in whichever order the bounds are given. A bound
outside the list stands for the end of the list that is nearest. -/
def select {α : Type} (least greatest : Int) (items : List α) : List α :=
  let count := items.length
  let first := place count 0 least
  let last := place count (count - 1) greatest
  let lo := clamp count (min first last)
  let hi := clamp count (max first last)
  (items.drop lo).take (hi - lo + 1)

/-! ## Sorting -/

/-- What a root is sorted by: the value of a parameter, or its name if no parameter is named. A
detached root counts as empty. -/
def sortKey (forest : Forest) (param : Text) (root : Root) : Text :=
  match root.node? with
  | some node => if param = [] then forest.name node else forest.parameter node param
  | none => []

/-- The roots in the order of their keys, or in the opposite order. Roots with the same key keep
their order either way. -/
def sort (forest : Forest) (descending : Bool) (param : Text) (roots : List Root) : List Root :=
  let key := sortKey forest param
  if descending then roots.mergeSort fun a b => (key b).le (key a)
  else roots.mergeSort fun a b => (key a).le (key b)

/-! ## Filters -/

/-- The children of the roots that a segment accepts, root after root; each node only once if
`distinct`. -/
def filter (forest : Forest) (distinct : Bool) (segment : Segment) (roots : List Root) :
    List Node :=
  let found := (roots.flatMap (·.children forest)).filter (segment.accepts forest)
  if distinct then found.eraseDups else found

end TreeQuery.Path
