import TreeQuery.Locator
import TreeQuery.Proofs.Access.Queries

/-!
# Finding locators by looks

To find a locator is to look up the name and the parameters of the target and of its ancestors, to follow
expressions, and to look at the first node that an expression finds if it is the only one. Written with
these looks (`expressionAt`, `pathAt`), the search goes through for stored targets and roots.

`accesses_go_through` puts together what is shown of all looks: on any text and any trees that were made
by steps, nothing that is read, matched, looked up, followed or sought aborts.
-/

namespace TreeQuery

namespace Locator

open Regex (Report)

variable (report : Report) (forest : Forest)

/-- Whether an expression finds the target alone, the first node that it finds being looked at. -/
def selectsOnlyAt (root : Root) (target : Node) (expr : Text) : Checked Bool := do
  let found ← Path.evaluateAt report forest .standard expr [root]
  if found.length = 1 then
    let node ← (found[0]? : Option Node)
    return decide (node = target)
  else return false

/-- The clauses that describe the target. -/
def clausesAt (target : Node) (params : List Text) : Option (List Text) := do
  let values ← params.mapM fun param =>
    (forest.parameterAt target param).map fun value => (param, value)
  return (values.filter fun (_, value) => value ≠ []).map fun (param, value) => clause param value

/-- The expression, with as many of the clauses as it takes to find the target alone. -/
def lengthenAt (root : Root) (target : Node) (expr : Text) : List Text → Checked Text
  | [] => do
    if ← selectsOnlyAt report forest root target expr then return expr else throw .indistinct
  | clause :: clauses => do
    if ← selectsOnlyAt report forest root target expr then return expr
    else lengthenAt root target (expr ++ clause) clauses

/-- The shortest expression that finds the target alone among the children of a root. -/
def expressionAt (params : List Text) (root : Root) (target : Node) : Checked Text := do
  let children ← root.childrenAt forest
  let name ← forest.nameAt target
  if target ∈ children then
    let clauses ← clausesAt forest target params
    lengthenAt report forest root target (Pattern.quote name) clauses
  else throw (.notAChild name)

/-- The nodes from one of `top` down to the given one. -/
def chainAt (top seen : List Node) (node : Node) : Option (Option (List Node)) :=
  if node ∈ seen then some none
  else if node ∈ top then some (some [node])
  else
    match h : forest.parentAt node with
    | none => none
    | some none => some none
    | some (some parent) =>
      have := forest.mem_nodes_of_parentAt h
      (chainAt top (node :: seen) parent).map (·.map (· ++ [node]))
termination_by forest.unvisited seen
decreasing_by exact forest.unvisited_cons_lt ‹_› ‹_›

/-- The expressions that lead from a root through a chain of nodes. -/
def expressionsAt (params : List Text) (root : Root) : List Node → Checked (List Text)
  | [] => return []
  | node :: nodes => do
    let expr ← expressionAt report forest params root node
    let exprs ← expressionsAt params (.node node) nodes
    return expr :: exprs

/-- The path from a root down to the target. -/
def pathAt (params : List Text) (root : Root) (target : Node) : Checked Text := do
  let top ← root.childrenAt forest
  let chain ← chainAt forest top [] target
  match chain with
  | none =>
    let name ← forest.nameAt target
    throw (.notAChild name)
  | some chain =>
    (['|'].intercalate ·) <$> expressionsAt report forest params root chain

/-! ## Every look finds something -/

variable {report forest} {root : Root} {target : Node}

theorem selectsOnlyAt_eq_done (hf : ∀ tree ∈ forest, tree.IsBuilt) (hreport : report.Faithful)
    (hroot : root.Stored forest) (target : Node) (expr : Text) :
    selectsOnlyAt report forest root target expr = .done (selectsOnly forest root target expr) := by
  rw [selectsOnlyAt, selectsOnly,
    Path.evaluateAt_eq_done hf hreport _ expr (List.forall_mem_singleton.2 hroot)]
  cases Path.evaluate forest .standard expr [root] with
  | error e => rfl
  | ok found =>
    match found with
    | [] => rfl
    | [node] =>
      have hsame : decide (node = target) = decide ([node] = [target]) :=
        decide_eq_decide.2 List.singleton_inj.symm
      exact congrArg (fun b => Checked.done (.ok b)) hsame
    | _ :: _ :: _ => simp [Except.map, Checked.pure_eq_done]

theorem clausesAt_eq_some (h : target ∈ forest.nodes) (params : List Text) :
    clausesAt forest target params = some (clauses forest target params) := by
  have hvalues : params.mapM (fun param =>
      (forest.parameterAt target param).map fun value => (param, value)) =
      some (params.map fun param => (param, forest.parameter target param)) := by
    refine Checked.mapM_eq_some fun param _ => ?_
    rw [Forest.parameterAt_eq_some h]
    rfl
  rw [clausesAt, hvalues, Option.bind_eq_bind, Option.bind_some, List.filter_map, List.map_map]
  rfl

theorem lengthenAt_eq_done (hf : ∀ tree ∈ forest, tree.IsBuilt) (hreport : report.Faithful)
    (hroot : root.Stored forest) (target : Node) (expr : Text) (clauses : List Text) :
    lengthenAt report forest root target expr clauses =
      .done (lengthen forest root target expr clauses) := by
  induction clauses generalizing expr with
  | nil =>
    rw [lengthenAt, lengthen, selectsOnlyAt_eq_done hf hreport hroot]
    refine Checked.done_bind fun found _ => ?_
    cases found <;> rfl
  | cons clause clauses ih =>
    rw [lengthenAt, lengthen, selectsOnlyAt_eq_done hf hreport hroot]
    refine Checked.done_bind fun found _ => ?_
    cases found with
    | true => rfl
    | false => exact ih _

/-- **The search for an expression goes through.** -/
theorem expressionAt_eq_done (hf : ∀ tree ∈ forest, tree.IsBuilt) (hreport : report.Faithful)
    (hroot : root.Stored forest) (h : target ∈ forest.nodes) (params : List Text) :
    expressionAt report forest params root target =
      .done (expression forest params root target) := by
  unfold expressionAt expression
  rw [Root.childrenAt_eq_some hroot, Checked.lift_some_bind, Forest.nameAt_eq_some h,
    Checked.lift_some_bind, clausesAt_eq_some h, Checked.lift_some_bind,
    lengthenAt_eq_done hf hreport hroot]
  split <;> rfl

theorem chainAt_eq_some (hf : ∀ tree ∈ forest, tree.IsBuilt) {top seen : List Node} {node : Node}
    (h : node ∈ forest.nodes) : chainAt forest top seen node = some (chain? forest top seen node) := by
  fun_induction chain? forest top seen node with
  | case1 seen node hseen => rw [chainAt, if_pos hseen]
  | case2 seen node hseen htop => rw [chainAt, if_neg hseen, if_pos htop]
  | case3 seen node hseen htop hparent =>
    have hlook := Forest.parentAt_eq_some h
    rw [hparent] at hlook
    rw [chainAt, if_neg hseen, if_neg htop]
    split
    · next h' => cases h'.symm.trans hlook
    · rfl
    · next h' => cases h'.symm.trans hlook
  | case4 seen node hseen htop parent hparent _ ih =>
    have hlook := Forest.parentAt_eq_some h
    rw [hparent] at hlook
    rw [chainAt, if_neg hseen, if_neg htop]
    split
    · next h' => cases h'.symm.trans hlook
    · next h' => cases h'.symm.trans hlook
    · next h' =>
      cases h'.symm.trans hlook
      rw [ih (Forest.parent_mem_nodes hf hparent)]
      rfl

/-- A chain of nodes up to one of `top` consists of stored nodes. -/
theorem mem_nodes_of_chain? (hf : ∀ tree ∈ forest, tree.IsBuilt) {top seen chain : List Node}
    {node : Node} (h : node ∈ forest.nodes) (hchain : chain? forest top seen node = some chain) :
    ∀ n ∈ chain, n ∈ forest.nodes := by
  fun_induction chain? forest top seen node generalizing chain with
  | case1 => cases hchain
  | case2 =>
    cases hchain
    exact List.forall_mem_singleton.2 h
  | case3 => cases hchain
  | case4 seen node hseen htop parent hparent _ ih =>
    obtain ⟨above, habove, rfl⟩ := Option.map_eq_some_iff.1 hchain
    exact List.forall_mem_append.2 ⟨ih (Forest.parent_mem_nodes hf hparent) habove,
      List.forall_mem_singleton.2 h⟩

theorem expressionsAt_eq_done (hf : ∀ tree ∈ forest, tree.IsBuilt) (hreport : report.Faithful)
    (hroot : root.Stored forest) {chain : List Node} (hchain : ∀ n ∈ chain, n ∈ forest.nodes)
    (params : List Text) :
    expressionsAt report forest params root chain =
      .done (expressions forest params root chain) := by
  induction chain generalizing root with
  | nil => rfl
  | cons node nodes ih =>
    obtain ⟨hnode, hnodes⟩ := List.forall_mem_cons.1 hchain
    rw [expressionsAt, expressions, expressionAt_eq_done hf hreport hroot hnode]
    refine Checked.done_bind fun expr _ => ?_
    rw [@ih (.node node) hnode hnodes]
    exact Checked.done_bind fun _ _ => rfl

/-- **The search for a path goes through.** -/
theorem pathAt_eq_done (hf : ∀ tree ∈ forest, tree.IsBuilt) (hreport : report.Faithful)
    (hroot : root.Stored forest) (h : target ∈ forest.nodes) (params : List Text) :
    pathAt report forest params root target = .done (path forest params root target) := by
  unfold pathAt path
  rw [Root.childrenAt_eq_some hroot, Checked.lift_some_bind, chainAt_eq_some hf h,
    Checked.lift_some_bind]
  cases hchain : chain? forest (root.children forest) [] target with
  | none =>
    rw [Forest.nameAt_eq_some h]
    rfl
  | some chain =>
    have hstored := mem_nodes_of_chain? hf h hchain
    dsimp only
    rw [expressionsAt_eq_done hf hreport hroot hstored, Checked.done_map]

end Locator

/-! ## All looks together -/

open Regex (Report)

/-- **Nothing aborts.** Whatever the texts are, and whichever trees were made by steps: patterns are read
from any place where a text can be cut, texts are read as patterns, patterns are matched, parameters of
stored nodes are looked up, paths are followed from stored roots, and expressions and paths for stored
nodes are sought, without a look or a cut that fails. The results are those of the functions that have no
way to abort. -/
theorem accesses_go_through {forest : Forest} (hf : ∀ tree ∈ forest, tree.IsBuilt) {report : Report}
    (hreport : report.Faithful) :
    (∀ (before part : Text) (stopAtEquals : Bool),
      Pattern.compileAt (before ++ part) before.byteLength stopAtEquals =
        .done ((Pattern.compile (before ++ part) part stopAtEquals).map
          (Pattern.Compiled.placed (before ++ part)))) ∧
    (∀ text, Pattern.ofTextAt text = .done (Pattern.ofText text)) ∧
    (∀ (p : Pattern) (t : Text), p.isMatchAt report t = some (p.isMatch t)) ∧
    (∀ node ∈ forest.nodes, ∀ name,
      forest.parameterAt node name = some (forest.parameter node name)) ∧
    (∀ fuel path (roots : List Root), (∀ root ∈ roots, root.Stored forest) →
      Path.evaluateAt report forest fuel path roots =
        .done (Path.evaluate forest fuel path roots)) ∧
    ∀ params (root : Root), root.Stored forest → ∀ target ∈ forest.nodes,
      Locator.expressionAt report forest params root target =
        .done (Locator.expression forest params root target) ∧
      Locator.pathAt report forest params root target =
        .done (Locator.path forest params root target) := by
  refine ⟨fun before part stopAtEquals => ?_, Pattern.ofTextAt_eq_done,
    Pattern.isMatchAt_eq_some hreport,
    fun node hnode name => Forest.parameterAt_eq_some hnode name,
    fun fuel path roots hroots => Path.evaluateAt_eq_done hf hreport fuel path hroots,
    fun params root hroot target htarget =>
      ⟨Locator.expressionAt_eq_done hf hreport hroot htarget params,
        Locator.pathAt_eq_done hf hreport hroot htarget params⟩⟩
  have hcompile := Pattern.compileAt_place (List.suffix_append before part) stopAtEquals
  rwa [Text.place_append] at hcompile

/-- Paths with characters of several bytes, an integer to cut out and a flag to cut off. -/
theorem accesses_go_through_shop :
    let forest : Forest := [Tree.build [.node "Läden".toList, .node "7 €".toList,
      .param 1 "größe_".toList "klein é".toList, .child 0 1]]
    Path.evaluateAt Report.leftmost forest .standard "L*|\x7b#1..9\x7d €&größe_é=1".toList
        [forest.desktop 0] = .done (.ok [⟨0, 1⟩]) ∧
      Locator.pathAt Report.leftmost forest [] (forest.desktop 0) ⟨0, 1⟩ =
        .done (.ok "Läden|7 €".toList) := by
  intro forest
  have hf : ∀ tree ∈ forest, tree.IsBuilt := fun tree ht => ⟨_, List.mem_singleton.1 ht⟩
  have hroot : (forest.desktop 0).Stored forest := Root.stored_desktop 0
  obtain ⟨-, -, -, -, hevaluate, hseek⟩ := accesses_go_through hf Report.faithful_leftmost
  rw [hevaluate _ _ _ (List.forall_mem_singleton.2 hroot), (hseek _ _ hroot ⟨0, 1⟩ (by decide)).2]
  constructor
  · exact congrArg Checked.done (by decide +kernel)
  · exact congrArg Checked.done (by decide +kernel)

end TreeQuery
