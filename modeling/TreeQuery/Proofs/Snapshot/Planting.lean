import Mathlib.Data.List.Intervals
import Mathlib.Data.List.Nodup
import Mathlib.Data.List.Pairwise
import TreeQuery.Proofs.Tree.History

/-!
# Planting

The tree of some outlines is their image in pre-order: each node has the first slot that is not in
use when its turn comes, and then comes what is below it. While a node is planted its links are made
one by one, each after everything below the child has been planted. So the invariant speaks of
stretches of slots (`Tree.Holds`): what stands from one slot up to another, and which of these slots
are the top ones. What is planted later adds a stretch and leaves those before it as they are, apart
from the links of the nodes above it (`holds_plant`).

That no slot occurs twice among the children follows from the stretches alone
(`Holds.perm_Ico`); that the children of a node are the nodes of which it is the parent holds of
every tree. Planting sets the parameters one by one, so the image is exact where no node has a
parameter twice, as in all that is read from a text (`Snapshot.distinctParams_of_outlines`).
-/

namespace TreeQuery

/-! ## Outlines in order -/

namespace Outline

mutual

/-- A node and everything below it, each node before what is below it. -/
def inOrder : Outline → List Outline
  | ⟨name, params, children⟩ => ⟨name, params, children⟩ :: allInOrder children

/-- Nodes and everything below them, each node before what is below it. -/
def allInOrder : List Outline → List Outline
  | [] => []
  | outline :: rest => inOrder outline ++ allInOrder rest

end

theorem allInOrder_cons (name : Text) (params : Params) (children rest : List Outline) :
    allInOrder (⟨name, params, children⟩ :: rest) =
      ⟨name, params, children⟩ :: (allInOrder children ++ allInOrder rest) :=
  rfl

/-- Whether no node, here or below, has a parameter twice. -/
def DistinctParams (outlines : List Outline) : Prop :=
  ∀ o ∈ allInOrder outlines, o.params.keys.Nodup

instance (outlines : List Outline) : Decidable (DistinctParams outlines) :=
  inferInstanceAs (Decidable (∀ o ∈ allInOrder outlines, o.params.keys.Nodup))

theorem distinctParams_nil : DistinctParams [] := fun _ h => by cases h

theorem distinctParams_cons {outline : Outline} {rest : List Outline} :
    DistinctParams (outline :: rest) ↔
      outline.params.keys.Nodup ∧ DistinctParams outline.children ∧ DistinctParams rest := by
  obtain ⟨name, params, children⟩ := outline
  rw [DistinctParams, allInOrder_cons, List.forall_mem_cons, List.forall_mem_append]
  rfl

/-- The slots of nodes that are planted one after the other, the first of them in `start`. -/
def places : (start : Nat) → List Outline → List Nat
  | _, [] => []
  | start, outline :: rest => start :: places (start + (inOrder outline).length) rest

end Outline

namespace Tree

open Outline (inOrder allInOrder allInOrder_cons places)

variable {tree tree' : Tree} {start mid stop : Nat} {slots : List Nat} {outlines : List Outline}

/-! ## Stretches of slots -/

/-- Whether outlines stand in the slots from `start` up to `stop` in order, those at the top in
`slots`. -/
inductive Holds (tree : Tree) :
    (start stop : Nat) → (slots : List Nat) → List Outline → Prop
  | nil {start : Nat} : Holds tree start start [] []
  | cons {start mid stop : Nat} {slots : List Nat} {name : Text} {params : Params}
    {children rest : List Outline} :
    (tree.recordAt start).name = name →
    (tree.recordAt start).params = Params.ofList params →
    Holds tree (start + 1) mid (tree.recordAt start).children children →
    Holds tree mid stop slots rest →
    Holds tree start stop (start :: slots) (⟨name, params, children⟩ :: rest)

theorem Holds.le (h : tree.Holds start stop slots outlines) : start ≤ stop := by
  induction h with
  | nil => exact Nat.le_refl _
  | cons _ _ _ _ ih ih' => omega

theorem Holds.lt_of_cons {s : Nat} (h : tree.Holds start stop (s :: slots) outlines) :
    start < stop := by
  cases h with
  | cons _ _ hchildren hrest => exact Nat.lt_of_lt_of_le hchildren.le hrest.le

theorem Holds.append {slots' : List Nat} {outlines' : List Outline}
    (h : tree.Holds start mid slots outlines) (h' : tree.Holds mid stop slots' outlines') :
    tree.Holds start stop (slots ++ slots') (outlines ++ outlines') := by
  induction h with
  | nil => exact h'
  | cons hname hparams hchildren _ _ ih => exact .cons hname hparams hchildren (ih h')

/-- What stands in a stretch of slots does not depend on the parents and on other slots. -/
theorem Holds.congr (h : tree.Holds start stop slots outlines)
    (hr : ∀ s, start ≤ s → s < stop →
      { tree'.recordAt s with parent := none } = { tree.recordAt s with parent := none }) :
    tree'.Holds start stop slots outlines := by
  induction h with
  | nil => exact .nil
  | @cons start mid stop slots name params children rest hname hparams hchildren hrest ih ih' =>
    have hmid := hchildren.le
    have hstop := hrest.le
    have hsame := Record.mk.inj (hr start (Nat.le_refl _) (by omega))
    have hchildren' : tree'.Holds (start + 1) mid (tree'.recordAt start).children children := by
      rw [hsame.2.2.1]
      exact ih fun s hs hlt => hr s (by omega) (by omega)
    exact .cons (hsame.1.trans hname) (hsame.2.1.trans hparams) hchildren'
      (ih' fun s hs hlt => hr s (by omega) hlt)

/-! ## A node with its parameters -/

/-- Adds a node and sets its parameters. -/
def addWith (tree : Tree) (name : Text) (settings : Params) : Tree :=
  settings.foldl (fun made (key, value) => made.setParam tree.size key value) (tree.addNode name)

theorem size_foldl_setParam (tree : Tree) (slot : Nat) (settings : Params) :
    (settings.foldl (fun made (key, value) => made.setParam slot key value) tree).size =
      tree.size :=
  List.foldlRecOn (motive := fun made : Tree => made.size = tree.size) settings _ rfl
    fun _ h (key, value) _ => (size_setParam _ slot key value).trans h

theorem recordAt_foldl_setParam {slot : Nat} (h : slot < tree.size) (settings : Params) (s : Nat) :
    (settings.foldl (fun made (key, value) => made.setParam slot key value) tree).recordAt s =
      if slot = s then
        { tree.recordAt s with
          params := settings.foldl (fun params (key, value) => params.insert key value)
            (tree.recordAt s).params }
      else tree.recordAt s := by
  induction settings generalizing tree with
  | nil => exact (ite_self _).symm
  | cons p settings ih =>
    rw [List.foldl_cons, ih (by rwa [size_setParam]), recordAt_setParam h]
    split <;> rfl

theorem size_addWith (tree : Tree) (name : Text) (settings : Params) :
    (tree.addWith name settings).size = tree.size + 1 := by
  rw [addWith, size_foldl_setParam, size_addNode]

theorem recordAt_addWith (tree : Tree) (name : Text) (settings : Params) (s : Nat) :
    (tree.addWith name settings).recordAt s =
      if s = tree.size then { name, params := Params.ofList settings } else tree.recordAt s := by
  rw [addWith, recordAt_foldl_setParam (by rw [size_addNode]; omega), recordAt_addNode]
  by_cases hs : s = tree.size
  · rw [if_pos hs.symm, if_pos hs, if_pos hs]
    rfl
  · rw [if_neg (Ne.symm hs), if_neg hs, if_neg hs]

theorem addWith_of_nodup (tree : Tree) (name : Text) {params : Params} (h : params.keys.Nodup) :
    tree.addWith name params = ⟨tree.records.push { name, params }⟩ := by
  refine eq_of_recordAt ?_ fun s => ?_
  · rw [size_addWith]
    exact (Array.size_push _).symm
  · rw [recordAt_addWith, recordAt_push, Params.ofList_of_nodup h]

end Tree

/-! ## Planting -/

namespace Outline

open TreeQuery.Tree (Holds)

mutual

/-- A node that is planted stands with everything below it behind what was there before, which stays
as it is. -/
theorem holds_plant (tree : Tree) : ∀ outline : Outline,
    (plant tree outline).Holds tree.size (plant tree outline).size [tree.size] [outline] ∧
      ∀ s < tree.size, (plant tree outline).recordAt s = tree.recordAt s
  | ⟨name, params, children⟩ => by
    have hplant : plant tree ⟨name, params, children⟩ =
        plantBelow tree.size (tree.addWith name params) children := by
      rw [plant]
      rfl
    have hsize := tree.size_addWith name params
    have hin : tree.size < (tree.addWith name params).size := by omega
    obtain ⟨slots, hslots, hold⟩ := holds_plantBelow hin children
    rw [hsize] at hslots hold
    have hnew := hold tree.size (Nat.lt_succ_self _)
    rw [Tree.recordAt_addWith, if_pos rfl, if_pos rfl] at hnew
    rw [hplant]
    refine ⟨.cons (by rw [hnew]) (by rw [hnew]) ?_ .nil, fun s hs => ?_⟩
    · rw [hnew]
      exact hslots
    · rw [hold s (by omega), Tree.recordAt_addWith, if_neg (by omega), if_neg (by omega),
        List.append_nil]

/-- Nodes that are planted below another stand behind what was there before, which gets no more than
these children. -/
theorem holds_plantBelow {tree : Tree} {slot : Nat} (h : slot < tree.size) :
    ∀ outlines : List Outline, ∃ slots,
      (plantBelow slot tree outlines).Holds tree.size (plantBelow slot tree outlines).size slots
        outlines ∧
      ∀ s < tree.size, (plantBelow slot tree outlines).recordAt s =
        { tree.recordAt s with
          children := (tree.recordAt s).children ++ if slot = s then slots else [] }
  | [] => ⟨[], .nil, fun s _ => by simp [plantBelow]⟩
  | child :: rest => by
    rw [plantBelow]
    obtain ⟨hchild, hold⟩ := holds_plant tree child
    have hlt : tree.size < (plant tree child).size := hchild.lt_of_cons
    have hlink (s : Nat) := Tree.recordAt_link (Nat.lt_trans h hlt) hlt s
    have hsize := Tree.size_link (plant tree child) slot tree.size
    have hin : slot < ((plant tree child).link slot tree.size).size := by omega
    obtain ⟨slots, hslots, hold'⟩ := holds_plantBelow hin rest
    rw [hsize] at hslots hold'
    refine ⟨tree.size :: slots, ?_, fun s hs => ?_⟩
    · refine Holds.append (hchild.congr fun s hs hlt => ?_) hslots
      have hne : slot ≠ s := by omega
      rw [hold' s hlt, hlink s, if_neg hne, if_neg hne, List.append_nil, List.append_nil]
    · rw [hold' s (by omega), hlink s, hold s hs, if_neg (Nat.ne_of_gt hs)]
      split <;> simp

end

/-- Nodes that are planted one after the other stand in one stretch. -/
theorem holds_foldl_plant (tree : Tree) (outlines : List Outline) :
    ∃ slots, (outlines.foldl plant tree).Holds tree.size (outlines.foldl plant tree).size slots
        outlines ∧
      ∀ s < tree.size, (outlines.foldl plant tree).recordAt s = tree.recordAt s := by
  induction outlines generalizing tree with
  | nil => exact ⟨[], .nil, fun _ _ => rfl⟩
  | cons outline rest ih =>
    obtain ⟨hfirst, hold⟩ := holds_plant tree outline
    have hlt : tree.size < (plant tree outline).size := hfirst.lt_of_cons
    obtain ⟨slots, hslots, hold'⟩ := ih (plant tree outline)
    refine ⟨tree.size :: slots, Holds.append (hfirst.congr fun s _ hs => ?_) hslots, fun s hs => ?_⟩
    · exact congrArg (fun r : Record => { r with parent := none }) (hold' s hs)
    · exact (hold' s (Nat.lt_trans hs hlt)).trans (hold s hs)

theorem holds_plantAll (outlines : List Outline) :
    ∃ slots, (plantAll outlines).Holds 0 (plantAll outlines).size slots outlines :=
  (holds_foldl_plant Tree.empty outlines).imp fun _ h => h.1

end Outline

namespace Tree

open Outline (inOrder allInOrder allInOrder_cons DistinctParams distinctParams_cons places)

variable {tree : Tree} {start stop : Nat} {slots : List Nat} {outlines : List Outline}

/-! ## What stands in a stretch -/

theorem Ico_eq_cons_append {mid : Nat} (h : start < mid) (h' : mid ≤ stop) :
    List.Ico start stop = start :: (List.Ico (start + 1) mid ++ List.Ico mid stop) := by
  rw [List.Ico.eq_cons (by omega), List.Ico.append_consecutive h h']

theorem Holds.stop_eq (h : tree.Holds start stop slots outlines) :
    stop = start + (allInOrder outlines).length := by
  induction h with
  | nil => rfl
  | cons _ _ _ _ ih ih' =>
    rw [allInOrder_cons, List.length_cons, List.length_append]
    omega

theorem Holds.slots_eq (h : tree.Holds start stop slots outlines) :
    slots = places start outlines := by
  induction h with
  | nil => rfl
  | @cons start mid _ _ _ _ _ _ _ _ hchildren _ _ ih' =>
    have hmid := hchildren.stop_eq
    rw [places, ih', inOrder, List.length_cons]
    congr 2
    omega

theorem Holds.map_Ico (h : tree.Holds start stop slots outlines) :
    (List.Ico start stop).map (fun s => ((tree.recordAt s).name, (tree.recordAt s).params)) =
      (allInOrder outlines).map fun o => (o.name, Params.ofList o.params) := by
  induction h with
  | nil => rw [List.Ico.self_empty]; rfl
  | cons hname hparams hchildren hrest ih ih' =>
    rw [Ico_eq_cons_append hchildren.le hrest.le, allInOrder_cons, List.map_cons, List.map_cons,
      List.map_append, List.map_append, ih, ih', hname, hparams]

/-- Each slot of a stretch is at the top or is once a child. -/
theorem Holds.perm_Ico (h : tree.Holds start stop slots outlines) :
    (slots ++ (List.Ico start stop).flatMap fun s => (tree.recordAt s).children).Perm
      (List.Ico start stop) := by
  induction h with
  | nil => rw [List.Ico.self_empty]; exact .nil
  | cons _ _ hchildren hrest ih ih' =>
    rw [Ico_eq_cons_append hchildren.le hrest.le, List.flatMap_cons, List.flatMap_append]
    refine List.perm_iff_count.2 fun s => ?_
    have hcount := List.perm_iff_count.1 ih s
    have hcount' := List.perm_iff_count.1 ih' s
    simp only [List.count_append, List.cons_append, List.count_cons] at hcount hcount' ⊢
    omega

theorem Holds.sublist_Ico (h : tree.Holds start stop slots outlines) :
    slots.Sublist (List.Ico start stop) := by
  induction h with
  | nil => exact List.nil_sublist _
  | cons _ _ hchildren hrest _ ih' =>
    rw [Ico_eq_cons_append hchildren.le hrest.le]
    exact (ih'.trans (List.sublist_append_right _ _)).cons_cons _

/-! ## Unfolding -/

/-- The outline of a slot and of what is below it, down to a depth. -/
def unfold (tree : Tree) : (depth slot : Nat) → Outline
  | 0, slot => { name := (tree.recordAt slot).name, params := (tree.recordAt slot).params }
  | depth + 1, slot =>
    { name := (tree.recordAt slot).name
      params := (tree.recordAt slot).params
      children := (tree.recordAt slot).children.map (tree.unfold depth) }

/-- Unfolding what stands in a stretch gives it back. -/
theorem Holds.map_unfold (h : tree.Holds start stop slots outlines)
    (hkeys : DistinctParams outlines) {depth : Nat} (hd : stop - start ≤ depth) : slots.map (tree.unfold depth) = outlines := by
  induction h generalizing depth with
  | nil => rfl
  | @cons start mid stop slots name params children rest hname hparams hchildren hrest ih ih' =>
    have hmid := hchildren.le
    have hstop := hrest.le
    obtain ⟨hhere, hbelow, hbeside⟩ := distinctParams_cons.1 hkeys
    obtain ⟨depth, rfl⟩ := Nat.exists_eq_add_one.2 (by omega : 0 < depth)
    rw [List.map_cons, ih' hbeside (by omega), unfold, hname, hparams,
      Params.ofList_of_nodup hhere, ih hbelow (by omega)]

/-! ## All slots -/

theorem lt_size_of_mem_children {p c : Nat} (h : c ∈ (tree.recordAt p).children) : p < tree.size := by
  by_contra hp
  rw [recordAt_of_le (Nat.not_lt.1 hp)] at h
  cases h

/-- Where a stretch is the whole of a built tree, its top nodes are those of the tree. -/
theorem Holds.roots_eq (h : tree.Holds 0 tree.size slots outlines) (hb : tree.IsBuilt) :
    tree.roots = slots := by
  have hnodup := h.perm_Ico.nodup_iff.2 (List.Ico.nodup 0 tree.size)
  have hmem : ∀ c, c ∈ tree.roots ↔ c ∈ slots := by
    intro c
    rw [mem_roots_iff, hb.parent_eq_none_iff]
    constructor
    · rintro ⟨hc, hp⟩
      have hin := h.perm_Ico.mem_iff.2 (List.Ico.mem.2 ⟨Nat.zero_le c, hc⟩)
      refine (List.mem_append.1 hin).resolve_right fun hm => ?_
      obtain ⟨p, -, hm⟩ := List.mem_flatMap.1 hm
      exact hp p hm
    · intro hc
      refine ⟨(List.Ico.mem.1 (h.sublist_Ico.subset hc)).2, fun p hp => ?_⟩
      have hin : c ∈ (List.Ico 0 tree.size).flatMap fun s => (tree.recordAt s).children :=
        List.mem_flatMap.2 ⟨p, List.Ico.mem.2 ⟨Nat.zero_le p, lt_size_of_mem_children hp⟩, hp⟩
      exact (List.nodup_append.1 hnodup).2.2 c hc c hin rfl
  have hroots : tree.roots.Pairwise (· < ·) := List.pairwise_lt_range.filter _
  have hslots : slots.Pairwise (· < ·) := (List.Ico.pairwise_lt 0 tree.size).sublist h.sublist_Ico
  have hperm : tree.roots.Perm slots :=
    (List.perm_ext_iff_of_nodup (hroots.imp Nat.ne_of_lt) (hslots.imp Nat.ne_of_lt)).2 hmem
  exact hperm.eq_of_pairwise (fun a b _ _ hab hba => absurd hab (Nat.lt_asymm hba)) hroots hslots

/-- There each node is a child once at most, and the child of its parent only. -/
theorem Holds.count_children (h : tree.Holds 0 tree.size slots outlines) (hb : tree.IsBuilt)
    {c p : Nat} (hp : (tree.recordAt c).parent = some p) (q : Nat) :
    (tree.recordAt q).children.count c = if q = p then 1 else 0 := by
  have hnodup := h.perm_Ico.nodup_iff.2 (List.Ico.nodup 0 tree.size)
  obtain ⟨hlists, hdisjoint⟩ := List.nodup_flatMap.1 (List.nodup_append.1 hnodup).2.1
  have hc := hb.mem_children_of_parent hp
  have hin {q : Nat} (hq : c ∈ (tree.recordAt q).children) : q ∈ List.Ico 0 tree.size :=
    List.Ico.mem.2 ⟨Nat.zero_le q, lt_size_of_mem_children hq⟩
  split
  · next he =>
    rw [he]
    exact List.count_eq_one_of_mem (hlists p (hin hc)) hc
  · next hne =>
    refine List.count_eq_zero.2 fun hq => ?_
    have : Std.Symm (Function.onFun List.Disjoint fun s => (tree.recordAt s).children) :=
      ⟨fun _ _ hd => hd.symm⟩
    exact hdisjoint.forall (hin hq) (hin hc) hne hq hc

end Tree

namespace Outline

/-- **The tree of outlines is their image in pre-order.** -/
theorem image_of_plantAll {outlines : List Outline} (h : DistinctParams outlines) :
    let tree := plantAll outlines
    tree.size = (allInOrder outlines).length ∧
    (tree.records.toList.map fun r => (r.name, r.params)) =
      (allInOrder outlines).map (fun o => (o.name, o.params)) ∧
    tree.roots = places 0 outlines ∧
    (∀ depth, tree.size ≤ depth → tree.roots.map (tree.unfold depth) = outlines) ∧
    (∀ c ∈ tree.roots, (tree.recordAt c).parent = none ∧ ∀ p, c ∉ (tree.recordAt p).children) ∧
    ∀ c < tree.size, c ∉ tree.roots → ∃ p < tree.size, (tree.recordAt c).parent = some p ∧
      ∀ q, (tree.recordAt q).children.count c = if q = p then 1 else 0 := by
  intro tree
  obtain ⟨slots, hslots⟩ := holds_plantAll outlines
  have hb : tree.IsBuilt := isBuilt_plantAll outlines
  have hroots : tree.roots = slots := hslots.roots_eq hb
  refine ⟨hslots.stop_eq.trans (Nat.zero_add _), ?_, hroots.trans hslots.slots_eq,
    fun depth hd => ?_, fun c hc => ?_, fun c hc hroot => ?_⟩
  · rw [← tree.map_recordAt_range, List.map_map, ← List.Ico.zero_bot]
    refine hslots.map_Ico.trans (List.map_congr_left fun o ho => ?_)
    rw [Params.ofList_of_nodup (h o ho)]
  · rw [hroots]
    exact hslots.map_unfold h hd
  · have hparent := (Tree.mem_roots_iff.1 hc).2
    exact ⟨hparent, hb.parent_eq_none_iff.1 hparent⟩
  · obtain ⟨p, hp⟩ := Option.ne_none_iff_exists'.1 fun hn => hroot (Tree.mem_roots_iff.2 ⟨hc, hn⟩)
    exact ⟨p, Tree.lt_size_of_mem_children (hb.mem_children_of_parent hp), hp,
      hslots.count_children hb hp⟩

/-- Two top-level nodes, the first of them with nodes on two levels below it. -/
theorem image_of_plantAll_two_levels :
    let outlines : List Outline := [⟨['a'], [(['k'], ['v'])], [⟨['b'], [], [⟨['c'], [], []⟩]⟩,
      ⟨['b'], [], []⟩]⟩, ⟨['e'], [], []⟩]
    let tree := plantAll outlines
    DistinctParams outlines ∧ tree.size = 5 ∧ tree.roots = [0, 4] ∧
      tree.roots.map (tree.unfold 5) = outlines ∧
      ∃ p, (tree.recordAt 3).parent = some p ∧ (tree.recordAt p).children.count 3 = 1 := by
  intro outlines tree
  have h : DistinctParams outlines := by decide
  obtain ⟨hsize, -, hroots, hunfold, -, hparent⟩ := image_of_plantAll h
  obtain ⟨p, -, hp, hcount⟩ := hparent 3 (hsize ▸ by decide) (hroots ▸ by decide)
  exact ⟨h, hsize, hroots, hunfold 5 (Nat.le_of_eq hsize), p, hp,
    (hcount p).trans (if_pos rfl)⟩

/-! ## Outlines of a snapshot -/

open Json (Value)

theorem nodup_keys_of_params? {v : Value} {params : Params} (h : params? v = some params) :
    params.keys.Nodup := by
  unfold params? at h
  split at h
  · obtain ⟨settings, -, rfl⟩ := Option.map_eq_some_iff.1 h
    exact Params.nodup_keys_ofList settings
  · cases h

/-- Whether no parameter is there twice in what is known of a node. -/
structure Fields.DistinctParams (fields : Fields) : Prop where
  params : (fields.params.getD []).keys.Nodup
  children : Outline.DistinctParams (fields.children.getD [])

mutual

theorem distinctParams_ofValue? : ∀ {v : Value} {outline : Outline}, ofValue? v = some outline →
    DistinctParams [outline]
  | .object members, outline, h => by
    obtain ⟨fields, hf, ho⟩ := Option.bind_eq_some_iff.1 h
    obtain ⟨name, -, rfl⟩ := Option.map_eq_some_iff.1 ho
    have hfields := distinctParams_fields? hf
    exact distinctParams_cons.2 ⟨hfields.params, hfields.children, distinctParams_nil⟩
  | .array _, _, h => distinctParams_ofElements? h

theorem distinctParams_ofElements? : ∀ {elements : List Value} {outline : Outline},
    ofElements? elements = some outline → DistinctParams [outline]
  | [name], outline, h => by
    obtain ⟨_, -, he⟩ := Option.bind_eq_some_iff.1 h
    cases he
    exact distinctParams_cons.2 ⟨List.nodup_nil, distinctParams_nil, distinctParams_nil⟩
  | [name, params], outline, h => by
    simp only [ofElements?, Option.bind_eq_bind, Option.pure_def, Option.bind_eq_some_iff,
      Option.some.injEq] at h
    obtain ⟨_, -, _, hp, rfl⟩ := h
    exact distinctParams_cons.2 ⟨nodup_keys_of_params? hp, distinctParams_nil, distinctParams_nil⟩
  | [name, params, children], outline, h => by
    simp only [ofElements?, Option.bind_eq_bind, Option.pure_def, Option.bind_eq_some_iff,
      Option.some.injEq] at h
    obtain ⟨_, -, _, hp, _, hc, rfl⟩ := h
    exact distinctParams_cons.2
      ⟨nodup_keys_of_params? hp, distinctParams_children? hc, distinctParams_nil⟩

theorem distinctParams_children? : ∀ {v : Value} {outlines : List Outline},
    children? v = some outlines → DistinctParams outlines
  | .array _, _, h => distinctParams_ofValues? h

theorem distinctParams_ofValues? : ∀ {values : List Value} {outlines : List Outline},
    ofValues? values = some outlines → DistinctParams outlines
  | [], _, h => by
    cases h
    exact distinctParams_nil
  | v :: rest, outlines, h => by
    simp only [ofValues?, Option.bind_eq_bind, Option.pure_def, Option.bind_eq_some_iff,
      Option.some.injEq] at h
    obtain ⟨first, hfirst, others, hothers, rfl⟩ := h
    obtain ⟨hp, hc, -⟩ := distinctParams_cons.1 (distinctParams_ofValue? hfirst)
    exact distinctParams_cons.2 ⟨hp, hc, distinctParams_ofValues? hothers⟩

theorem distinctParams_fields? : ∀ {members : List (Text × Value)} {fields : Fields},
    fields? members = some fields → fields.DistinctParams
  | [], fields, h => by
    cases h
    exact ⟨List.nodup_nil, distinctParams_nil⟩
  | (key, v) :: rest, fields, h => by
    simp only [fields?, Option.bind_eq_bind, Option.pure_def, Option.bind_eq_some_iff] at h
    obtain ⟨known, hk, h⟩ := h
    have ih := distinctParams_fields? hk
    -- a member changes the parameters, or the children, or neither
    split at h
    · split at h
      · cases h
      · obtain ⟨_, -, he⟩ := Option.bind_eq_some_iff.1 h
        cases he
        exact ⟨ih.params, ih.children⟩
    split at h
    · split at h
      · cases h
      · obtain ⟨_, hp, he⟩ := Option.bind_eq_some_iff.1 h
        cases he
        exact ⟨nodup_keys_of_params? hp, ih.children⟩
    split at h
    · split at h
      · cases h
      · obtain ⟨_, hc, he⟩ := Option.bind_eq_some_iff.1 h
        cases he
        exact ⟨ih.params, distinctParams_children? hc⟩
    · cases h
      exact ih

end

theorem distinctParams_allOfValue? {v : Value} {outlines : List Outline}
    (h : allOfValue? v = some outlines) : DistinctParams outlines := by
  rcases Option.or_eq_some_iff.1 h with hc | ⟨-, ho⟩
  · exact distinctParams_children? hc
  · obtain ⟨outline, ho', rfl⟩ := Option.map_eq_some_iff.1 ho
    exact distinctParams_ofValue? ho'

end Outline

/-- **No node of a snapshot has a parameter twice.** -/
theorem Snapshot.distinctParams_of_outlines {t : Text} {outlines : List Outline}
    (h : Snapshot.outlines t = .ok outlines) : Outline.DistinctParams outlines := by
  unfold Snapshot.outlines at h
  split at h
  · cases h
  split at h
  · cases h
  next found hfound =>
  split at h
  · obtain rfl := Except.ok.inj h
    exact Outline.distinctParams_allOfValue? hfound
  · cases h

end TreeQuery
