import TreeQuery.Proofs.Invocation.Outcome
import TreeQuery.Proofs.Json.RoundTrip
import TreeQuery.Proofs.Path.Quoting
import TreeQuery.Proofs.Snapshot.Planting

/-!
# Matches as a snapshot

What a path finds is printed as a list of JSON objects, and such a list is a snapshot again: the
matches have become the top-level nodes, with their names and stored parameters, and what was below
them is gone. A star finds all of them, so printing what it finds there gives the same text
(`run_again_of_run_eval`).

The text is followed from the printer to the reader (`outlines_storedJson`), the outlines to the tree
(`plantAll_leaves`) and the tree to the query (`evaluate_star`).
-/

namespace TreeQuery

open Json (Value)

/-! ## From the text to outlines -/

namespace Outline

/-- An outline of a node without children. -/
def leaf (name : Text) (params : Params) : Outline := { name, params }

theorem settings?_map_string (params : Params) :
    settings? (params.map fun (key, value) => (key, Value.string value)) = some params := by
  induction params with
  | nil => rfl
  | cons p params ih =>
    rw [List.map_cons, settings?, ih]
    rfl

/-- A printed node describes a node without children. -/
theorem ofValue?_nodeValue (name : Text) {params : Params} (h : params.keys.Nodup) :
    ofValue? (Display.nodeValue name params) = some (leaf name params) := by
  have hparams : params? (.object (params.map fun (key, value) => (key, Value.string value))) =
      some params := by
    rw [params?, settings?_map_string, Option.map_some, Params.ofList_of_nodup h]
  simp [Display.nodeValue, ofValue?, fields?, hparams, text?, Fields.outline?, leaf]

theorem ofValues?_map_nodeValue {α : Type} {l : List α} {name : α → Text} {params : α → Params}
    (h : ∀ a ∈ l, (params a).keys.Nodup) :
    ofValues? (l.map fun a => Display.nodeValue (name a) (params a)) =
      some (l.map fun a => leaf (name a) (params a)) := by
  induction l with
  | nil => rfl
  | cons a l ih =>
    rw [List.map_cons, ofValues?, ofValue?_nodeValue _ (h a List.mem_cons_self),
      ih fun b hb => h b (List.mem_cons_of_mem a hb)]
    rfl

end Outline

/-- A printed node is read within the bounds of nesting. -/
theorem Display.readable_nodeValue (depth : Nat) (name : Text) (params : Params) :
    (Display.nodeValue name params).Readable (depth + 2) := by
  refine .object fun m hm => ?_
  rcases List.mem_cons.1 hm with rfl | hm
  · exact .string name
  · rw [List.mem_singleton.1 hm]
    refine .object fun m hm => ?_
    obtain ⟨p, -, rfl⟩ := List.mem_map.1 hm
    exact .string p.2

/-- **Printed nodes are the snapshot of these nodes without children.** -/
theorem Snapshot.outlines_storedJson {forest : Forest} {nodes : List Node}
    (h : ∀ n ∈ nodes, (forest.params n).keys.Nodup) :
    outlines (Display.storedJson forest nodes ++ ['\n']) =
      .ok (nodes.map fun n => Outline.leaf (forest.name n) (forest.params n)) := by
  have hreadable : (Value.array (nodes.map (Display.storedValue forest))).Readable
      Json.depthLimit := by
    refine .array fun v hv => ?_
    obtain ⟨n, -, rfl⟩ := List.mem_map.1 hv
    exact Display.readable_nodeValue _ _ _
  have hvalue : Outline.allOfValue? (.array (nodes.map (Display.storedValue forest))) =
      some (nodes.map fun n => Outline.leaf (forest.name n) (forest.params n)) := by
    unfold Outline.allOfValue?
    rw [Outline.children?]
    show (Outline.ofValues? (nodes.map fun n => Display.nodeValue (forest.name n) (forest.params n))).or
      _ = _
    rw [Outline.ofValues?_map_nodeValue h]
    rfl
  obtain ⟨_, hread⟩ := Json.reads_value_print hreadable 0 (Display.storedJson forest nodes ++ ['\n'])
    ['\n'] (hreadable.skipBlanks_print 0 ['\n'])
  unfold outlines
  rw [hread]
  dsimp only
  rw [hvalue]
  rfl

/-! ## From outlines to the tree -/

namespace Tree

/-- Nodes without links. -/
def ofLeaves (leaves : List (Text × Params)) : Tree :=
  ⟨(leaves.map fun (name, params) => { name, params }).toArray⟩

end Tree

namespace Outline

theorem plant_leaf (tree : Tree) (name : Text) {params : Params} (h : params.keys.Nodup) :
    plant tree (leaf name params) = ⟨tree.records.push { name, params }⟩ :=
  tree.addWith_of_nodup name h

/-- **Outlines of nodes without children become nodes without links**, in the same order. -/
theorem plantAll_leaves {leaves : List (Text × Params)} (h : ∀ p ∈ leaves, p.2.keys.Nodup) :
    plantAll (leaves.map fun (name, params) => leaf name params) = Tree.ofLeaves leaves := by
  have hplant : ∀ tree : Tree,
      (leaves.map fun (name, params) => leaf name params).foldl plant tree =
        ⟨tree.records ++ (Tree.ofLeaves leaves).records⟩ := by
    induction leaves with
    | nil =>
      intro tree
      simp [Tree.ofLeaves]
    | cons p leaves ih =>
      intro tree
      obtain ⟨name, params⟩ := p
      rw [List.map_cons, List.foldl_cons, plant_leaf tree name (h _ List.mem_cons_self),
        ih fun q hq => h q (List.mem_cons_of_mem _ hq)]
      simp [Tree.ofLeaves]
  rw [plantAll, hplant]
  simp [Tree.empty]

end Outline

/-! ## From the tree to the query -/

namespace Tree

theorem record?_ofLeaves (leaves : List (Text × Params)) (slot : Nat) :
    (ofLeaves leaves).record? slot =
      leaves[slot]?.map fun (name, params) => { name, params } := by
  simp [ofLeaves, record?]

theorem roots_ofLeaves (leaves : List (Text × Params)) :
    (ofLeaves leaves).roots = List.range leaves.length := by
  have hsize : (ofLeaves leaves).size = leaves.length := by simp [ofLeaves, size]
  rw [roots, hsize, List.filter_eq_self]
  intro slot _
  rw [record?_ofLeaves]
  cases leaves[slot]? <;> rfl

end Tree

namespace Forest

/-- What a node is printed as: its name and its stored parameters. -/
def label (forest : Forest) (node : Node) : Text × Params := (forest.name node, forest.params node)

/-- The top-level nodes of the first tree. -/
def tops (forest : Forest) : List Node := (forest.desktop 0).children forest

theorem tops_ofLeaves (leaves : List (Text × Params)) :
    tops [Tree.ofLeaves leaves] = (List.range leaves.length).map (Node.mk 0) := by
  show ((Tree.ofLeaves leaves).roots).map (Node.mk 0) = _
  rw [Tree.roots_ofLeaves]

theorem map_label_tops_ofLeaves (leaves : List (Text × Params)) :
    (tops [Tree.ofLeaves leaves]).map (label [Tree.ofLeaves leaves]) = leaves := by
  rw [tops_ofLeaves, List.map_map]
  refine List.ext_getElem (by rw [List.length_map, List.length_range]) fun i _ hi => ?_
  rw [List.getElem_map, List.getElem_range]
  have hrecord : record? [Tree.ofLeaves leaves] ⟨0, i⟩ =
      some { name := leaves[i].1, params := leaves[i].2 } := by
    show (Tree.ofLeaves leaves).record? i = _
    rw [Tree.record?_ofLeaves, List.getElem?_eq_getElem hi]
    rfl
  show (name _ _, params _ _) = leaves[i]
  unfold name params
  rw [hrecord]
  rfl

theorem children_ofLeaves (leaves : List (Text × Params)) (slot : Nat) :
    children [Tree.ofLeaves leaves] ⟨0, slot⟩ = [] := by
  show ((((Tree.ofLeaves leaves).record? slot).map Record.children).getD []).map _ = []
  rw [Tree.record?_ofLeaves]
  cases leaves[slot]? <;> rfl

end Forest

/-- A star finds all children. -/
theorem Path.evaluate_star (forest : Forest) (fuel : Fuel) (roots : List Root) :
    evaluate forest fuel ['*'] roots = .ok (roots.flatMap (·.children forest)) := by
  rw [evaluate_of_spelled fuel (by decide) rfl Segment.spelled_star]
  refine congrArg Except.ok (List.filter_eq_self.2 fun n _ => ?_)
  exact Segment.accepts_lone n

/-- Nodes are printed as what they are labelled with. -/
theorem Display.storedJson_eq (forest : Forest) (nodes : List Node) :
    storedJson forest nodes =
      (Value.array ((nodes.map forest.label).map fun (name, params) =>
        nodeValue name params)).print 0 := by
  rw [List.map_map]
  rfl

/-! ## Runs -/

namespace Invocation

open Forest (tops label)

/-- What a run that shows nodes as JSON prints. -/
def jsonOf (forest : Forest) (nodes : List Node) : Text := Display.storedJson forest nodes ++ ['\n']

/-- A source is loaded when there is a text and it is a snapshot. -/
theorem load_eq_ok_iff {source : Text} {input : Input} {tree : Tree} :
    load source input = .ok tree ↔ ∃ t, input = .ok t ∧ Snapshot.tree t = .ok tree := by
  cases input with
  | error message => exact iff_of_false nofun nofun
  | ok t =>
    show (Snapshot.tree t).mapError _ = _ ↔ _
    cases ht : Snapshot.tree t <;> simp [Except.mapError, ht]

/-- What a query finds is what its path leads to from the top-level nodes. -/
theorem found_eq_ok_iff {query : Query} {forest : Forest} {nodes : List Node} :
    found query forest = .ok nodes ↔
      Path.evaluate forest query.fuel query.path [forest.desktop 0] = .ok nodes := by
  unfold found
  cases Path.evaluate forest query.fuel query.path [forest.desktop 0] <;> simp [Except.mapError]

/-- A run that shows what it finds as JSON succeeds when the snapshot can be read and the path can be
followed. -/
theorem run_eval_json {invocation : Invocation} {query : Query} {t : Text}
    (hc : invocation.command = .eval query true) {tree : Tree} {nodes : List Node}
    (ht : Snapshot.tree t = .ok tree)
    (he : Path.evaluate [tree] query.fuel query.path [Forest.desktop [tree] 0] = .ok nodes)
    (onTerminal : Bool) :
    invocation.run onTerminal (.ok t) = .success (jsonOf [tree] nodes) := by
  obtain ⟨command, verbosity, color⟩ := invocation
  obtain rfl : command = .eval query true := hc
  rw [run_eval, followed_of_found (load_eq_ok_iff.2 ⟨t, rfl, ht⟩) (found_eq_ok_iff.2 he)]
  rfl

/-- It succeeds in no other case. -/
theorem exists_of_run_eval_json {invocation : Invocation} {query : Query} {input : Input}
    (hc : invocation.command = .eval query true) {onTerminal : Bool}
    (h : (invocation.run onTerminal input).code = 0) :
    ∃ t tree nodes, input = .ok t ∧ Snapshot.tree t = .ok tree ∧
      Path.evaluate [tree] query.fuel query.path [Forest.desktop [tree] 0] = .ok nodes := by
  obtain ⟨command, verbosity, color⟩ := invocation
  obtain rfl : command = .eval query true := hc
  rw [run_eval] at h
  rcases followed_cases query input with ⟨message, hfail⟩ | ⟨tree, nodes, hl, hf, -⟩
  · rw [hfail] at h
    cases h
  · obtain ⟨t, hi, ht⟩ := load_eq_ok_iff.1 hl
    exact ⟨t, tree, nodes, hi, ht, found_eq_ok_iff.1 hf⟩

/-- What was printed is loaded as nodes without links. -/
theorem tree_jsonOf {forest : Forest} (hf : ∀ tree ∈ forest, tree.IsBuilt) (nodes : List Node) :
    Snapshot.tree (jsonOf forest nodes) = .ok (Tree.ofLeaves (nodes.map forest.label)) := by
  have hkeys : ∀ p ∈ nodes.map forest.label, p.2.keys.Nodup := by
    intro p hp
    obtain ⟨n, -, rfl⟩ := List.mem_map.1 hp
    exact forest.nodup_keys_params hf n
  unfold Snapshot.tree jsonOf
  rw [Snapshot.outlines_storedJson fun n _ => forest.nodup_keys_params hf n,
    ← Outline.plantAll_leaves hkeys, List.map_map]
  rfl

/-- Showing all top-level nodes of what was printed prints it again. -/
theorem run_star_jsonOf {forest : Forest} (hf : ∀ tree ∈ forest, tree.IsBuilt) (nodes : List Node)
    {invocation : Invocation} {query : Query} (hc : invocation.command = .eval query true)
    (hp : query.path = ['*']) (onTerminal : Bool) :
    invocation.run onTerminal (.ok (jsonOf forest nodes)) = .success (jsonOf forest nodes) := by
  have hstar (tree : Tree) :
      Path.evaluate [tree] query.fuel query.path [Forest.desktop [tree] 0] = .ok (tops [tree]) := by
    rw [hp, Path.evaluate_star, List.flatMap_cons, List.flatMap_nil, List.append_nil]
    rfl
  rw [run_eval_json hc (tree_jsonOf hf nodes) (hstar _), jsonOf, jsonOf, Display.storedJson_eq,
    Forest.map_label_tops_ofLeaves, ← Display.storedJson_eq]

/-- **What a path finds is printed as a snapshot of these nodes, and shown again it is printed the same
way.** -/
theorem run_again_of_run_eval {invocation : Invocation} {query : Query} {input : Input}
    (hc : invocation.command = .eval query true) {onTerminal : Bool}
    (h : (invocation.run onTerminal input).code = 0) :
    ∃ t tree nodes loaded again,
      input = .ok t ∧ Snapshot.tree t = .ok tree ∧
      Path.evaluate [tree] query.fuel query.path [Forest.desktop [tree] 0] = .ok nodes ∧
      Snapshot.tree (invocation.run onTerminal input).output = .ok loaded ∧
      (tops [loaded]).map (label [loaded]) = nodes.map (label [tree]) ∧
      (∀ n ∈ tops [loaded], Forest.children [loaded] n = []) ∧
      Usage.read ["eval".toList, "-".toList, "*".toList, "--json".toList] = .ok again ∧
      ∀ onTerminal', again.run onTerminal' (.ok (invocation.run onTerminal input).output) =
        .success (invocation.run onTerminal input).output := by
  obtain ⟨t, tree, nodes, rfl, ht, he⟩ := exists_of_run_eval_json hc h
  have hbuilt : ∀ other ∈ [tree], other.IsBuilt := by
    intro other hother
    rw [List.mem_singleton.1 hother]
    exact Snapshot.isBuilt_of_tree ht
  have hrun := run_eval_json hc ht he onTerminal
  refine ⟨t, tree, nodes, Tree.ofLeaves (nodes.map (label [tree])),
    { command := .eval { source := "-".toList, path := "*".toList } true }, rfl, ht, he, ?_,
    Forest.map_label_tops_ofLeaves _, ?_, rfl, ?_⟩
  · rw [hrun]
    exact tree_jsonOf hbuilt nodes
  · intro n hn
    rw [Forest.tops_ofLeaves] at hn
    obtain ⟨slot, -, rfl⟩ := List.mem_map.1 hn
    exact Forest.children_ofLeaves _ slot
  · intro onTerminal'
    rw [hrun]
    exact run_star_jsonOf hbuilt nodes rfl rfl onTerminal'

/-- A match whose value has a line break in it, out of two nodes. What is below it is gone. -/
theorem run_again_of_run_eval_edit :
    let invocation : Invocation :=
      { command := .eval { source := "-".toList, path := "Edit".toList } true }
    let snapshot : Text :=
      "[\x7b\"name\": \"Edit\", \"params\": \x7b\"text\": \"one\\ntwo\"\x7d, ".toList ++
      "\"children\": [\x7b\"name\": \"Line\"\x7d]\x7d, \x7b\"name\": \"Bar\"\x7d]".toList
    let printed : Text :=
      "[\n  \x7b\n    \"name\": \"Edit\",\n    \"params\": \x7b\n".toList ++
      "      \"text\": \"one\\ntwo\"\n    \x7d\n  \x7d\n]\n".toList
    invocation.run false (.ok snapshot) = .success printed ∧
      (∃ loaded, Snapshot.tree printed = .ok loaded ∧
        (tops [loaded]).map (label [loaded]) =
          [("Edit".toList, [("text".toList, "one\ntwo".toList)])]) ∧
      ∃ again, Usage.read ["eval".toList, "-".toList, "*".toList, "--json".toList] = .ok again ∧
        again.run false (.ok printed) = .success printed := by
  intro invocation snapshot printed
  have hrun : invocation.run false (.ok snapshot) = .success printed := by decide +kernel
  have hcode : (invocation.run false (.ok snapshot)).code = 0 := congrArg Outcome.code hrun
  obtain ⟨t, tree, nodes, loaded, again, hi, ht, he, hl, hlabels, -, hread, hagain⟩ :=
    run_again_of_run_eval rfl hcode
  obtain rfl : snapshot = t := Except.ok.inj hi
  let edit := Tree.build [.node "Edit".toList, .param 0 "text".toList "one\ntwo".toList,
    .node "Line".toList, .child 0 1, .node "Bar".toList]
  have htree : Snapshot.tree snapshot = .ok edit := by decide +kernel
  obtain rfl : edit = tree := Except.ok.inj (htree.symm.trans ht)
  have hnodes : Path.evaluate [edit] .standard "Edit".toList [Forest.desktop [edit] 0] =
      .ok [⟨0, 0⟩] := by decide +kernel
  obtain rfl : [⟨0, 0⟩] = nodes := Except.ok.inj (hnodes.symm.trans he)
  rw [hrun] at hl hagain
  exact ⟨hrun, ⟨loaded, hl, hlabels⟩, again, hread, hagain false⟩

end Invocation

end TreeQuery
