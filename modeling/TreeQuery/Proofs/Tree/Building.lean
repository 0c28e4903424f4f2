import TreeQuery.Forest
import TreeQuery.Snapshot

/-!
# Trees in the making

A tree is made step by step (`Tree.IsBuilt`), also the tree of a snapshot
(`Snapshot.isBuilt_of_tree`), so what each step keeps holds of every tree (`IsBuilt.induction`). What
the steps keep here is that no node has two parameters of one name (`IsBuilt.nodup_keys`).
-/

namespace TreeQuery

namespace Params

theorem nodup_keys_insert {params : Params} (h : params.keys.Nodup) (key value : Text) :
    (params.insert key value).keys.Nodup := by
  rw [keys_insert]
  split
  · exact h
  · next hkey =>
    rw [List.nodup_append]
    refine ⟨h, List.nodup_cons.2 ⟨List.not_mem_nil, List.nodup_nil⟩, ?_⟩
    rintro k hk _ hmem rfl
    rw [List.mem_singleton.1 hmem] at hk
    exact hkey hk

/-- A new name goes to the end. -/
theorem insert_of_not_mem {params : Params} {key : Text} (h : key ∉ params.keys) (value : Text) :
    params.insert key value = params ++ [(key, value)] := by
  induction params with
  | nil => rfl
  | cons p params ih =>
    obtain ⟨k, v⟩ := p
    rw [keys, List.map_cons, List.mem_cons, not_or] at h
    rw [insert, if_neg (Ne.symm h.1), ih h.2]
    rfl

/-- The settings that come one after the other where no name is set twice are what is left. -/
theorem foldl_insert_of_nodup {settings params : Params} (h : (params ++ settings).keys.Nodup) :
    settings.foldl (fun params (key, value) => params.insert key value) params =
      params ++ settings := by
  induction settings generalizing params with
  | nil => rw [List.foldl_nil, List.append_nil]
  | cons p settings ih =>
    obtain ⟨key, value⟩ := p
    have hkey : key ∉ params.keys := by
      rw [keys, List.map_append, List.nodup_append] at h
      intro hmem
      exact h.2.2 key hmem key List.mem_cons_self rfl
    have happ : params ++ (key, value) :: settings = params ++ [(key, value)] ++ settings := by
      rw [List.append_assoc, List.singleton_append]
    rw [happ] at h ⊢
    rw [List.foldl_cons, ← ih h, ← insert_of_not_mem hkey]

theorem ofList_of_nodup {params : Params} (h : params.keys.Nodup) : ofList params = params :=
  @foldl_insert_of_nodup params [] h

end Params

namespace Tree

variable {tree : Tree} {r : Record} {s : Nat}

/-! ## One step -/

theorem record?_addNode (tree : Tree) (name : Text) (s : Nat) :
    (tree.addNode name).record? s = if s = tree.size then some { name } else tree.record? s :=
  Array.getElem?_push

theorem record?_setParam (tree : Tree) (slot : Nat) (key value : Text) (s : Nat) :
    (tree.setParam slot key value).record? s =
      if slot = s then
        (tree.record? s).map fun r => { r with params := r.params.insert key value }
      else tree.record? s :=
  Array.getElem?_modify

theorem exists_of_getElem?_modify {records : Array Record} {i : Nat} {f : Record → Record}
    (h : (records.modify i f)[s]? = some r) : ∃ r', records[s]? = some r' ∧ (r = r' ∨ r = f r') := by
  rw [Array.getElem?_modify] at h
  split at h
  · obtain ⟨r', hr', rfl⟩ := Option.map_eq_some_iff.1 h
    exact ⟨r', hr', .inr rfl⟩
  · exact ⟨r, h, .inl rfl⟩

/-- Linking leaves names and parameters as they are. -/
theorem exists_of_record?_link {parent child : Nat} (h : (tree.link parent child).record? s = some r) :
    ∃ r', tree.record? s = some r' ∧ r.name = r'.name ∧ r.params = r'.params := by
  unfold link at h
  split at h
  · obtain ⟨linked, hlinked, hr⟩ := exists_of_getElem?_modify h
    obtain ⟨r', hr', hl⟩ := exists_of_getElem?_modify hlinked
    refine ⟨r', hr', ?_⟩
    rcases hr with rfl | rfl <;> rcases hl with rfl | rfl <;> exact ⟨rfl, rfl⟩
  · exact ⟨r, h, rfl, rfl⟩

/-- No node has two parameters of one name. -/
def DistinctKeys (tree : Tree) : Prop := ∀ s r, tree.record? s = some r → r.params.keys.Nodup

theorem distinctKeys_empty : empty.DistinctKeys := by
  intro s r h
  cases h

/-- No step gives a node two parameters of one name. -/
theorem DistinctKeys.edit (h : tree.DistinctKeys) (e : Edit) : (tree.edit e).DistinctKeys := by
  intro s r hr
  cases e with
  | node name =>
    rw [Tree.edit, record?_addNode] at hr
    split at hr
    · cases hr
      exact List.nodup_nil
    · exact h s r hr
  | param slot key value =>
    rw [Tree.edit, record?_setParam] at hr
    split at hr
    · obtain ⟨r', hr', rfl⟩ := Option.map_eq_some_iff.1 hr
      exact Params.nodup_keys_insert (h s r' hr') key value
    · exact h s r hr
  | child parent child =>
    obtain ⟨r', hr', -, hparams⟩ := exists_of_record?_link hr
    rw [hparams]
    exact h s r' hr'

/-! ## All steps -/

/-- The trees that steps make. -/
def IsBuilt (tree : Tree) : Prop := ∃ edits, tree = build edits

theorem isBuilt_empty : empty.IsBuilt := ⟨[], rfl⟩

theorem IsBuilt.edit (h : tree.IsBuilt) (e : Edit) : (tree.edit e).IsBuilt := by
  obtain ⟨edits, rfl⟩ := h
  refine ⟨edits ++ [e], ?_⟩
  unfold build
  rw [List.foldl_append]
  rfl

/-- What holds of the tree without nodes and is kept by every step holds of every tree. -/
theorem IsBuilt.induction {P : Tree → Prop} (hempty : P empty)
    (hedit : ∀ tree e, P tree → P (tree.edit e)) (h : tree.IsBuilt) : P tree := by
  obtain ⟨edits, rfl⟩ := h
  exact List.foldlRecOn edits Tree.edit hempty fun tree htree e _ => hedit tree e htree

/-- **No node of a tree has two parameters of one name.** -/
theorem IsBuilt.nodup_keys (h : tree.IsBuilt) (hr : tree.record? s = some r) :
    r.params.keys.Nodup :=
  h.induction distinctKeys_empty (fun _ e ht => ht.edit e) s r hr

end Tree

theorem Forest.nodup_keys_params {forest : Forest} (hf : ∀ tree ∈ forest, tree.IsBuilt)
    (node : Node) : (forest.params node).keys.Nodup := by
  unfold params
  cases hr : forest.record? node with
  | none => exact List.nodup_nil
  | some r =>
    obtain ⟨tree, htree, hrecord⟩ := Option.bind_eq_some_iff.1 hr
    exact (hf tree (List.mem_of_getElem? htree)).nodup_keys hrecord

/-! ## The tree of a snapshot -/

namespace Outline

open TreeQuery.Tree (IsBuilt)

theorem isBuilt_foldl_setParam {tree : Tree} (h : tree.IsBuilt) (slot : Nat) (params : Params) :
    (params.foldl (fun tree (key, value) => tree.setParam slot key value) tree).IsBuilt :=
  List.foldlRecOn params _ h fun _ ht (key, value) _ => ht.edit (.param slot key value)

mutual

/-- Planting an outline takes a sequence of steps. -/
theorem isBuilt_plant {tree : Tree} (h : tree.IsBuilt) : ∀ outline : Outline,
    (plant tree outline).IsBuilt
  | ⟨name, params, children⟩ => by
    rw [plant]
    exact isBuilt_plantBelow (isBuilt_foldl_setParam (h.edit (.node name)) tree.size params)
      tree.size children

theorem isBuilt_plantBelow {tree : Tree} (h : tree.IsBuilt) (slot : Nat) :
    ∀ outlines : List Outline, (plantBelow slot tree outlines).IsBuilt
  | [] => h
  | child :: rest => by
    rw [plantBelow]
    exact isBuilt_plantBelow ((isBuilt_plant h child).edit (.child slot tree.size)) slot rest

end

theorem isBuilt_plantAll (outlines : List Outline) : (plantAll outlines).IsBuilt :=
  List.foldlRecOn outlines plant Tree.isBuilt_empty fun _ ht outline _ => isBuilt_plant ht outline

end Outline

/-- **The tree of a snapshot is made by steps.** -/
theorem Snapshot.isBuilt_of_tree {t : Text} {tree : Tree} (h : Snapshot.tree t = .ok tree) :
    tree.IsBuilt := by
  unfold Snapshot.tree at h
  cases ho : outlines t with
  | error fault =>
    rw [ho] at h
    cases h
  | ok outlines =>
    rw [ho] at h
    cases h
    exact Outline.isBuilt_plantAll outlines

end TreeQuery
