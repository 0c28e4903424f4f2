import TreeQuery.Path
import TreeQuery.Proofs.Access.Lines
import TreeQuery.Proofs.Access.Matching
import TreeQuery.Proofs.Access.Slots
import TreeQuery.Proofs.Path.Search
import TreeQuery.Proofs.Path.Slices

/-!
# Following paths by looks

A query looks names, parameters, children and parents up in slots, matches by cutting, and reads its lines
by offsets. Here each move of the frontier is written with these looks, as is the evaluation of a whole
path (`evaluateAt`), which aborts with the first look that finds nothing.

From stored roots none does: each move goes through with the result that it has without looks
(`Step.moveAt_eq_done`), and it leads to stored roots again (`Step.stored_move`). By induction along the
plan of a line and over the lines, evaluation goes through as a whole (`evaluateAt_eq_done`).
-/

namespace TreeQuery.Path

open Pattern (bind_eq_ok_iff map_eq_ok_iff)
open Regex (Report)

variable (report : Report) (forest : Forest)

/-! ## Filters -/

/-- Whether a node passes a segment. A clause is looked at only if all before it are met. -/
def Segment.acceptsAt (segment : Segment) (node : Node) : Option Bool := do
  let name ← forest.nameAt node
  if ← segment.name.isMatchAt report name then
    segment.clauses.allM fun (param, pattern) => do
      let value ← forest.parameterAt node param
      pattern.isMatchAt report value
  else return false

/-- The children of the roots that a segment accepts. -/
def filterAt (distinct : Bool) (segment : Segment) (roots : List Root) : Option (List Node) := do
  let children ← roots.mapM (·.childrenAt forest)
  let found ← children.flatten.filterM (segment.acceptsAt report forest)
  return if distinct then found.eraseDups else found

/-! ## Slices -/

/-- The place nearest to `i` among `count` places, if there are any. -/
def clampAt (count : Nat) (i : Int) : Option Nat := if count = 0 then none else some (clamp count i)

/-- The number of places from one to another that does not come before it. -/
def countAt (first last : Nat) : Option Nat := if first ≤ last then some (last - first + 1) else none

/-- The items between two bounds. -/
def selectAt {α : Type} (least greatest : Int) (items : List α) : Option (List α) :=
  let count := items.length
  if count = 0 then some items
  else do
    let first := place count 0 least
    let last := place count (count - 1) greatest
    let lo ← clampAt count (min first last)
    let hi ← clampAt count (max first last)
    let size ← countAt lo hi
    return (items.drop lo).take size

/-! ## Sorting -/

/-- What a root is sorted by. -/
def sortKeyAt (param : Text) (root : Root) : Option Text :=
  match root.node? with
  | some node => if param = [] then forest.nameAt node else forest.parameterAt node param
  | none => some []

/-- The roots in the order of their keys, which are looked up once. -/
def sortAt (descending : Bool) (param : Text) (roots : List Root) : Option (List Root) := do
  let keyed ← roots.mapM fun root => (sortKeyAt forest param root).map fun key => (key, root)
  let sorted :=
    if descending then keyed.mergeSort fun a b => b.1.le a.1
    else keyed.mergeSort fun a b => a.1.le b.1
  return sorted.map Prod.snd

/-! ## Climbing and descending -/

/-- The parents of the roots that have one. -/
def climbAt (roots : List Root) : Option (List Root) := do
  let parents ← roots.mapM (·.parentAt forest)
  return (parents.filterMap id).map .node

namespace Descent

/-- Meets the nodes of a stack and everything below them, from the top. -/
def visitAt (d : Descent) (stack : List Node) : Checked (List Node × Descent) :=
  match stack with
  | [] => return ([], d)
  | node :: stack =>
    if node ∈ d.visited then visitAt d stack
    else
      match d.fuel.spend? with
      | none => throw .fuelExhausted
      | some fuel =>
        match h : forest.childrenAt node with
        | none => .abort
        | some children =>
          have := forest.eq_children_of_childrenAt h
          (fun (found, d) => (node :: found, d)) <$>
            visitAt ⟨node :: d.visited, fuel⟩ (children ++ stack)
termination_by forest.links d.visited + stack.length
decreasing_by
  · exact Nat.lt_succ_self _
  · have := forest.links_cons_add_le ‹node ∉ d.visited›
    simp only [List.length_append, List.length_cons, *]
    omega

/-- Goes through the roots and everything below them. -/
def visitRootsAt (d : Descent) : List Root → Checked (List Root × Descent)
  | [] => return ([], d)
  | .node n :: roots => do
    let (found, d) ← visitAt forest d [n]
    let (more, d) ← visitRootsAt d roots
    return (found.map Root.node ++ more, d)
  | .detached ns :: roots => do
    let (found, d) ← visitAt forest d ns
    let (more, d) ← visitRootsAt d roots
    return (.detached ns :: (found.map Root.node ++ more), d)

end Descent

/-- The roots and everything below them, with the fuel that is left. -/
def descendAt (fuel : Fuel) (roots : List Root) : Checked (List Root × Fuel) :=
  (fun (found, d) => (found, d.fuel)) <$> Descent.visitRootsAt forest { fuel } roots

/-! ## Paths -/

/-- Moves a frontier. -/
def Step.moveAt (fuel : Fuel) (roots : List Root) : Step → Checked (List Root × Fuel)
  | descend => descendAt forest fuel roots
  | climb => do
    let roots ← climbAt forest roots
    return (roots, fuel)
  | select least greatest => do
    let roots ← selectAt least greatest roots
    return (roots, fuel)
  | sort descending param => do
    let roots ← sortAt forest descending param roots
    return (roots, fuel)
  | singleton => return (roots.map Root.singleton, fuel)
  | filter distinct segment => do
    let found ← filterAt report forest distinct segment roots
    return (found.map .node, fuel)

/-- Carries out a plan. -/
def Plan.runAt (fuel : Fuel) (roots : List Root) : Plan → Checked (List Node × Fuel)
  | stop e => throw e
  | last distinct segment => do
    let found ← filterAt report forest distinct segment roots
    return (found, fuel)
  | step s next => do
    let (roots, fuel) ← s.moveAt report forest fuel roots
    next.runAt fuel roots

/-- Reads lines and follows them, each from the same roots. -/
def followLinesAt (fuel : Fuel) (roots : List Root) : List Text → Checked (List Node × Fuel)
  | [] => return ([], fuel)
  | line :: lines => do
    let plan ← Plan.readAt false line
    let (found, fuel) ← plan.runAt report forest fuel roots
    let (more, fuel) ← followLinesAt fuel roots lines
    return (found ++ more, fuel)

/-- Follows a path from some roots. -/
def evaluateAt (fuel : Fuel) (path : Text) (roots : List Root) : Checked (List Node) :=
  Prod.fst <$> followLinesAt report forest fuel roots (lines path)

/-! ## Every look finds something -/

variable {report forest}

section Moves

variable {roots : List Root}

theorem Segment.acceptsAt_eq_some (hreport : report.Faithful) (segment : Segment) {node : Node}
    (h : node ∈ forest.nodes) :
    segment.acceptsAt report forest node = some (segment.accepts forest node) := by
  have hclauses : segment.clauses.allM (fun (param, pattern) => do
      let value ← forest.parameterAt node param
      pattern.isMatchAt report value) =
      some (segment.clauses.all fun (param, pattern) =>
        pattern.isMatch (forest.parameter node param)) := by
    refine Checked.allM_eq_some fun (param, pattern) _ => ?_
    dsimp only
    rw [Forest.parameterAt_eq_some h]
    exact Pattern.isMatchAt_eq_some hreport _ _
  unfold acceptsAt accepts
  rw [Forest.nameAt_eq_some h, hclauses, Option.bind_eq_bind, Option.bind_some,
    Pattern.isMatchAt_eq_some hreport]
  cases segment.name.isMatch (forest.name node) <;> rfl

theorem childrenAt_eq_some (hroots : ∀ root ∈ roots, root.Stored forest) :
    roots.mapM (·.childrenAt forest) = some (roots.map (·.children forest)) :=
  Checked.mapM_eq_some fun root h => Root.childrenAt_eq_some (hroots root h)

theorem filterAt_eq_some (hf : ∀ tree ∈ forest, tree.IsBuilt) (hreport : report.Faithful)
    (distinct : Bool) (segment : Segment) (hroots : ∀ root ∈ roots, root.Stored forest) :
    filterAt report forest distinct segment roots = some (filter forest distinct segment roots) := by
  have hfound : (roots.map (·.children forest)).flatten.filterM (segment.acceptsAt report forest) =
      some ((roots.map (·.children forest)).flatten.filter (segment.accepts forest)) := by
    refine Checked.filterM_eq_some fun node hnode => ?_
    obtain ⟨children, hc, hnode⟩ := List.mem_flatten.1 hnode
    obtain ⟨root, hroot, rfl⟩ := List.mem_map.1 hc
    exact Segment.acceptsAt_eq_some hreport segment ((hroots root hroot).mem_nodes hf hnode)
  unfold filterAt filter
  rw [childrenAt_eq_some hroots, Option.bind_eq_bind, Option.bind_some, hfound]
  rfl

theorem selectAt_eq_some {α : Type} (least greatest : Int) (items : List α) :
    selectAt least greatest items = some (select least greatest items) := by
  unfold selectAt select
  by_cases hcount : items.length = 0
  · obtain rfl := List.length_eq_zero_iff.1 hcount
    rw [if_pos hcount]
    simp
  · have hclamp (i : Int) : clampAt items.length i = some (clamp items.length i) := if_neg hcount
    have hsize {first last : Int} :
        countAt (clamp items.length (min first last)) (clamp items.length (max first last)) =
          some (clamp items.length (max first last) - clamp items.length (min first last) + 1) :=
      if_pos (clamp_mono _ (by omega))
    rw [if_neg hcount]
    simp only [hclamp, hsize, Option.bind_eq_bind, Option.bind_some]
    rfl

theorem sortKeyAt_eq_some (param : Text) {root : Root} (h : root.Stored forest) :
    sortKeyAt forest param root = some (sortKey forest param root) := by
  cases root with
  | node n =>
    show (if param = [] then forest.nameAt n else forest.parameterAt n param) =
      some (if param = [] then forest.name n else forest.parameter n param)
    rw [Forest.nameAt_eq_some h, Forest.parameterAt_eq_some h]
    split <;> rfl
  | detached ns => rfl

theorem sortAt_eq_some (descending : Bool) (param : Text)
    (hroots : ∀ root ∈ roots, root.Stored forest) :
    sortAt forest descending param roots = some (sort forest descending param roots) := by
  have hkeyed : (roots.mapM fun root => (sortKeyAt forest param root).map fun key => (key, root)) =
      some (roots.map fun root => (sortKey forest param root, root)) := by
    refine Checked.mapM_eq_some fun root h => ?_
    rw [sortKeyAt_eq_some param (hroots root h)]
    rfl
  unfold sortAt sort
  rw [hkeyed, Option.bind_eq_bind, Option.bind_some]
  have hsorted (le : Text → Text → Bool) :
      ((roots.map fun root => (sortKey forest param root, root)).mergeSort fun a b => le a.1 b.1).map
        Prod.snd = roots.mergeSort fun a b => le (sortKey forest param a) (sortKey forest param b) := by
    have hmap := List.map_mergeSort (l := roots) (f := fun root => (sortKey forest param root, root))
      (r := fun a b => le (sortKey forest param a) (sortKey forest param b))
      (s := fun a b => le a.1 b.1) fun _ _ _ _ => rfl
    rw [← hmap, List.map_map]
    exact List.map_id _
  cases descending with
  | true => exact congrArg some (hsorted fun a b => b.le a)
  | false => exact congrArg some (hsorted fun a b => a.le b)

theorem climbAt_eq_some (hroots : ∀ root ∈ roots, root.Stored forest) :
    climbAt forest roots = some (climb forest roots) := by
  have hparents : roots.mapM (·.parentAt forest) = some (roots.map (·.parent? forest)) :=
    Checked.mapM_eq_some fun root h => Root.parentAt_eq_some (hroots root h)
  unfold climbAt climb
  rw [hparents, Option.bind_eq_bind, Option.bind_some, List.filterMap_map]
  rfl

/-- With its children in its place, a stack of stored nodes stays one. -/
theorem Descent.mem_nodes_of_expanded (hf : ∀ tree ∈ forest, tree.IsBuilt) {node : Node}
    {stack : List Node} (hstack : ∀ n ∈ node :: stack, n ∈ forest.nodes) :
    ∀ n ∈ forest.children node ++ stack, n ∈ forest.nodes := by
  intro n hn
  rcases List.mem_append.1 hn with hn | hn
  · exact Forest.mem_nodes_of_mem_children hf hn
  · exact hstack n (List.mem_cons_of_mem _ hn)

theorem Descent.visitAt_eq_done (hf : ∀ tree ∈ forest, tree.IsBuilt) {d : Descent} {stack : List Node}
    (hstack : ∀ node ∈ stack, node ∈ forest.nodes) :
    visitAt forest d stack = .done (visit forest d stack) := by
  fun_induction visit forest d stack with
  | case1 d => rw [visitAt]; rfl
  | case2 d node stack hv ih =>
    rw [visitAt, if_pos hv, ih fun n hn => hstack n (List.mem_cons_of_mem _ hn)]
  | case3 d node stack hv hfuel =>
    rw [visitAt, if_neg hv, hfuel]
    rfl
  | case4 d node stack hv fuel hfuel ih =>
    have hlook := Forest.childrenAt_eq_some (hstack node List.mem_cons_self)
    rw [visitAt, if_neg hv, hfuel]
    dsimp only
    split
    · next h => cases h.symm.trans hlook
    · next h =>
      cases h.symm.trans hlook
      rw [ih (mem_nodes_of_expanded hf hstack), Checked.done_map]

/-- A descent meets stored nodes only. -/
theorem Descent.mem_nodes_of_visit (hf : ∀ tree ∈ forest, tree.IsBuilt) {d d' : Descent}
    {stack found : List Node} (hstack : ∀ node ∈ stack, node ∈ forest.nodes)
    (h : visit forest d stack = .ok (found, d')) : ∀ node ∈ found, node ∈ forest.nodes := by
  fun_induction visit forest d stack generalizing found d' with
  | case1 d =>
    cases h
    exact fun _ hn => absurd hn List.not_mem_nil
  | case2 d node stack hv ih => exact ih (fun n hn => hstack n (List.mem_cons_of_mem _ hn)) h
  | case3 => cases h
  | case4 d node stack hv fuel hfuel ih =>
    obtain ⟨⟨found', d''⟩, hvisit, he⟩ := map_eq_ok_iff.1 h
    obtain ⟨rfl, -⟩ := Prod.mk.inj he
    exact List.forall_mem_cons.2
      ⟨hstack node List.mem_cons_self, ih (mem_nodes_of_expanded hf hstack) hvisit⟩

theorem Descent.visitRootsAt_eq_done (hf : ∀ tree ∈ forest, tree.IsBuilt) {d : Descent}
    (hroots : ∀ root ∈ roots, root.Stored forest) :
    visitRootsAt forest d roots = .done (visitRoots forest d roots) := by
  induction roots generalizing d with
  | nil => rfl
  | cons root roots ih =>
    obtain ⟨hroot, hrest⟩ := List.forall_mem_cons.1 hroots
    cases root with
    | node n =>
      rw [visitRootsAt, visitRoots, visitAt_eq_done hf (List.forall_mem_singleton.2 hroot)]
      refine Checked.done_bind ?_
      rintro ⟨found, d⟩ -
      dsimp only
      rw [ih hrest]
      exact Checked.done_bind fun _ _ => rfl
    | detached ns =>
      rw [visitRootsAt, visitRoots, visitAt_eq_done hf hroot]
      refine Checked.done_bind ?_
      rintro ⟨found, d⟩ -
      dsimp only
      rw [ih hrest]
      exact Checked.done_bind fun _ _ => rfl

theorem Descent.stored_of_visitRoots (hf : ∀ tree ∈ forest, tree.IsBuilt) {d d' : Descent}
    {found : List Root} (hroots : ∀ root ∈ roots, root.Stored forest)
    (h : visitRoots forest d roots = .ok (found, d')) : ∀ root ∈ found, root.Stored forest := by
  induction roots generalizing d d' found with
  | nil =>
    cases h
    exact fun _ hn => absurd hn List.not_mem_nil
  | cons root roots ih =>
    obtain ⟨hroot, hrest⟩ := List.forall_mem_cons.1 hroots
    have hnodes {nodes : List Node} (h : ∀ node ∈ nodes, node ∈ forest.nodes) :
        ∀ root ∈ nodes.map Root.node, root.Stored forest := by
      intro root hmem
      obtain ⟨n, hn, rfl⟩ := List.mem_map.1 hmem
      exact h n hn
    cases root with
    | node n =>
      obtain ⟨⟨met, d₁⟩, hvisit, h⟩ := bind_eq_ok_iff.1 h
      obtain ⟨⟨more, d₂⟩, hmore, h⟩ := bind_eq_ok_iff.1 h
      cases h
      have hmet := mem_nodes_of_visit hf (List.forall_mem_singleton.2 hroot) hvisit
      exact List.forall_mem_append.2 ⟨hnodes hmet, ih hrest hmore⟩
    | detached ns =>
      obtain ⟨⟨met, d₁⟩, hvisit, h⟩ := bind_eq_ok_iff.1 h
      obtain ⟨⟨more, d₂⟩, hmore, h⟩ := bind_eq_ok_iff.1 h
      cases h
      have hmet := mem_nodes_of_visit hf hroot hvisit
      exact List.forall_mem_cons.2 ⟨hroot,
        List.forall_mem_append.2 ⟨hnodes hmet, ih hrest hmore⟩⟩

theorem descendAt_eq_done (hf : ∀ tree ∈ forest, tree.IsBuilt) (fuel : Fuel)
    (hroots : ∀ root ∈ roots, root.Stored forest) :
    descendAt forest fuel roots = .done (descend forest fuel roots) := by
  rw [descendAt, Descent.visitRootsAt_eq_done hf hroots, Checked.done_map, descend]

/-! ## Whole paths -/

/-- **A move of stored roots goes through.** -/
theorem Step.moveAt_eq_done (hf : ∀ tree ∈ forest, tree.IsBuilt) (hreport : report.Faithful) (s : Step)
    (fuel : Fuel) (hroots : ∀ root ∈ roots, root.Stored forest) :
    s.moveAt report forest fuel roots = .done (s.move forest fuel roots) := by
  cases s with
  | descend => exact descendAt_eq_done hf fuel hroots
  | climb =>
    rw [moveAt, climbAt_eq_some hroots]
    rfl
  | select least greatest =>
    rw [moveAt, selectAt_eq_some]
    rfl
  | sort descending param =>
    rw [moveAt, sortAt_eq_some descending param hroots]
    rfl
  | singleton => rfl
  | filter distinct segment =>
    rw [moveAt, filterAt_eq_some hf hreport distinct segment hroots]
    rfl

theorem mem_sort_iff {descending : Bool} {param : Text} {root : Root} :
    root ∈ sort forest descending param roots ↔ root ∈ roots := by
  unfold sort
  cases descending <;> exact List.mem_mergeSort

/-- **A move of stored roots leads to stored roots.** -/
theorem Step.stored_move (hf : ∀ tree ∈ forest, tree.IsBuilt) {s : Step} {fuel fuel' : Fuel}
    {found : List Root} (hroots : ∀ root ∈ roots, root.Stored forest)
    (h : s.move forest fuel roots = .ok (found, fuel')) : ∀ root ∈ found, root.Stored forest := by
  cases s with
  | descend =>
    obtain ⟨⟨found', d⟩, hvisit, he⟩ := map_eq_ok_iff.1 h
    cases he
    exact Descent.stored_of_visitRoots hf hroots hvisit
  | climb =>
    cases h
    intro root hmem
    obtain ⟨parent, hparent, rfl⟩ := List.mem_map.1 hmem
    obtain ⟨child, hchild, hparent⟩ := List.mem_filterMap.1 hparent
    exact (hroots child hchild).mem_nodes_of_parent? hf hparent
  | select least greatest =>
    cases h
    intro root hroot
    exact hroots root (List.mem_of_mem_drop (List.mem_of_mem_take hroot))
  | sort descending param =>
    cases h
    exact fun root hmem => hroots root (mem_sort_iff.1 hmem)
  | singleton =>
    cases h
    intro root hmem
    obtain ⟨root, hroot, rfl⟩ := List.mem_map.1 hmem
    exact (hroots root hroot).singleton
  | filter distinct segment =>
    cases h
    intro root hmem
    obtain ⟨n, hn, rfl⟩ := List.mem_map.1 hmem
    obtain ⟨root, hroot, hchild⟩ := List.mem_flatMap.1 (mem_filter_iff.1 hn).1
    exact (hroots root hroot).mem_nodes hf hchild

/-- **A plan that begins with stored roots goes through.** -/
theorem Plan.runAt_eq_done (hf : ∀ tree ∈ forest, tree.IsBuilt) (hreport : report.Faithful) (p : Plan)
    (fuel : Fuel) (hroots : ∀ root ∈ roots, root.Stored forest) :
    p.runAt report forest fuel roots = .done (p.run forest fuel roots) := by
  induction p generalizing fuel roots with
  | stop e => rfl
  | last distinct segment =>
    rw [runAt, filterAt_eq_some hf hreport distinct segment hroots]
    rfl
  | step s next ih =>
    rw [runAt, run, Step.moveAt_eq_done hf hreport s fuel hroots]
    refine Checked.done_bind ?_
    rintro ⟨found, fuel⟩ hmove
    exact ih fuel (Step.stored_move hf hroots hmove)

theorem followLinesAt_eq_done (hf : ∀ tree ∈ forest, tree.IsBuilt) (hreport : report.Faithful)
    (fuel : Fuel) (hroots : ∀ root ∈ roots, root.Stored forest) (lines : List Text) :
    followLinesAt report forest fuel roots lines = .done (followLines forest fuel roots lines) := by
  induction lines generalizing fuel with
  | nil => rfl
  | cons line lines ih =>
    rw [followLinesAt, followLines, Plan.readAt_eq_some, Checked.lift_some_bind,
      Plan.runAt_eq_done hf hreport _ fuel hroots]
    refine Checked.done_bind ?_
    rintro ⟨found, fuel⟩ -
    dsimp only
    rw [ih fuel]
    exact Checked.done_bind fun _ _ => rfl

/-- **The evaluation of a path from stored roots goes through.** -/
theorem evaluateAt_eq_done (hf : ∀ tree ∈ forest, tree.IsBuilt) (hreport : report.Faithful)
    (fuel : Fuel) (path : Text) (hroots : ∀ root ∈ roots, root.Stored forest) :
    evaluateAt report forest fuel path roots = .done (evaluate forest fuel path roots) := by
  rw [evaluateAt, followLinesAt_eq_done hf hreport fuel hroots, Checked.done_map, evaluate]

end Moves

end TreeQuery.Path
