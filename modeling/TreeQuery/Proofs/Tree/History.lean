import Mathlib.Data.List.Induction
import TreeQuery.Proofs.Tree.Building

/-!
# What a tree keeps of its history

A tree is made by steps, and what it holds can be told from them slot by slot (`Tree.Records`): the
names from the steps that make nodes, the parameters and the children of a slot from the steps that
are about it, and the parent from the first step that links it. Each step keeps this up
(`Records.edit`), so it holds after all of them (`records_build`).

The steps have to refer to nodes that were made before (`Edit.RefersBack`). They may link a node
several times, below several nodes and below itself, and they may leave no node at the top.
-/

namespace TreeQuery

namespace Params

/-! ## Settings -/

/-- Whether the last of the settings of a name gives it that value. -/
def IsLast (settings : List (Text × Text)) (key value : Text) : Prop :=
  ∃ before after, settings = before ++ (key, value) :: after ∧ key ∉ keys after

theorem ofList_append_singleton (settings : List (Text × Text)) (key value : Text) :
    ofList (settings ++ [(key, value)]) = (ofList settings).insert key value :=
  List.foldl_append

theorem nodup_keys_ofList (settings : List (Text × Text)) : (ofList settings).keys.Nodup :=
  List.foldlRecOn (motive := fun params : Params => params.keys.Nodup) settings _ List.nodup_nil
    fun _ h (key, value) _ => nodup_keys_insert h key value

theorem keys_append (settings more : List (Text × Text)) :
    keys (settings ++ more) = keys settings ++ keys more :=
  List.map_append

/-- The names are there in the order of their first settings. -/
theorem keys_ofList (settings : List (Text × Text)) :
    (ofList settings).keys = (keys settings).eraseDups := by
  induction settings using List.reverseRecOn with
  | nil => rfl
  | append_singleton settings p ih =>
    obtain ⟨key, value⟩ := p
    have hkeys : keys (settings ++ [(key, value)]) = keys settings ++ [key] := keys_append _ _
    rw [ofList_append_singleton, keys_insert, ih, hkeys, List.eraseDups_append]
    by_cases hk : key ∈ keys settings <;> simp [List.removeAll, List.eraseDups_cons, hk]

theorem mem_insert_iff {params : Params} (h : params.keys.Nodup) {key value k v : Text} :
    (k, v) ∈ params.insert key value ↔ (k = key ∧ v = value) ∨ (k ≠ key ∧ (k, v) ∈ params) := by
  induction params with
  | nil => simp [insert]
  | cons p params ih =>
    obtain ⟨k', v'⟩ := p
    obtain ⟨hk', hnodup⟩ := List.nodup_cons.1 h
    rw [insert]
    split
    · next he =>
      subst he
      have hne : (k, v) ∈ params → k ≠ k' := fun hm he =>
        hk' (List.mem_map.2 ⟨_, hm, he⟩)
      grind
    · next he =>
      rw [List.mem_cons, List.mem_cons, ih hnodup]
      grind

theorem isLast_append_singleton_iff {settings : List (Text × Text)} {key value k v : Text} :
    IsLast (settings ++ [(key, value)]) k v ↔
      (k = key ∧ v = value) ∨ (k ≠ key ∧ IsLast settings k v) := by
  constructor
  · rintro ⟨before, after, he, hk⟩
    cases after using List.reverseRecOn with
    | nil =>
      obtain ⟨-, hp⟩ := List.append_inj' he rfl
      cases hp
      exact .inl ⟨rfl, rfl⟩
    | append_singleton after p =>
      rw [← List.cons_append, ← List.append_assoc] at he
      obtain ⟨rfl, hp⟩ := List.append_inj' he rfl
      cases hp
      rw [keys_append, List.mem_append, not_or] at hk
      exact .inr ⟨fun he => hk.2 (List.mem_singleton.2 he), before, after, rfl, hk.1⟩
  · rintro (⟨rfl, rfl⟩ | ⟨hne, before, after, rfl, hk⟩)
    · exact ⟨settings, [], rfl, List.not_mem_nil⟩
    · refine ⟨before, after ++ [(key, value)], by simp, ?_⟩
      rw [keys_append, List.mem_append, not_or]
      exact ⟨hk, fun he => hne (List.mem_singleton.1 he)⟩

/-- Each name has the value of its last setting. -/
theorem mem_ofList_iff {settings : List (Text × Text)} {key value : Text} :
    (key, value) ∈ ofList settings ↔ IsLast settings key value := by
  induction settings using List.reverseRecOn with
  | nil => simp [ofList, IsLast]
  | append_singleton settings p ih =>
    rw [ofList_append_singleton, mem_insert_iff (nodup_keys_ofList settings),
      isLast_append_singleton_iff, ih]

end Params

/-! ## Steps -/

namespace Edit

/-- How many nodes a step makes. -/
def made : Edit → Nat
  | node _ => 1
  | _ => 0

/-- Whether a step is about slots below `used` only. -/
def Within (used : Nat) : Edit → Prop
  | node _ => True
  | param slot _ _ => slot < used
  | child p c => p < used ∧ c < used

instance (used : Nat) : DecidablePred (Within used)
  | node _ => inferInstanceAs (Decidable True)
  | param slot _ _ => inferInstanceAs (Decidable (slot < used))
  | child p c => inferInstanceAs (Decidable (p < used ∧ c < used))

theorem Within.mono {used used' : Nat} {e : Edit} (h : e.Within used) (hle : used ≤ used') :
    e.Within used' := by
  cases e with
  | node name => trivial
  | param slot key value => exact Nat.lt_of_lt_of_le h hle
  | child p c => exact ⟨Nat.lt_of_lt_of_le h.1 hle, Nat.lt_of_lt_of_le h.2 hle⟩

/-- Whether each step is about nodes that are made before it, if `used` slots are in use at first. -/
def RefersBack : (used : Nat) → List Edit → Prop
  | _, [] => True
  | used, e :: edits => e.Within used ∧ RefersBack (used + e.made) edits

instance decidableRefersBack : (used : Nat) → DecidablePred (RefersBack used)
  | _, [] => inferInstanceAs (Decidable True)
  | used, e :: edits =>
    have := decidableRefersBack (used + e.made) edits
    inferInstanceAs (Decidable (_ ∧ _))

/-- The name that a step gives to a new node. -/
def name? : Edit → Option Text
  | node name => some name
  | _ => none

/-- What a step sets for a node. -/
def settingOf? (slot : Nat) : Edit → Option (Text × Text)
  | param s key value => if s = slot then some (key, value) else none
  | _ => none

/-- The node that a step links below another. -/
def childOf? (slot : Nat) : Edit → Option Nat
  | child p c => if p = slot then some c else none
  | _ => none

/-- The node that a step links another below. -/
def parentOf? (slot : Nat) : Edit → Option Nat
  | child p c => if c = slot then some p else none
  | _ => none

end Edit

namespace Tree

variable {tree : Tree} {edits : List Edit}

/-! ## Slots -/

/-- What a slot holds; nothing is known of a slot that is not in use. -/
def recordAt (tree : Tree) (slot : Nat) : Record := (tree.record? slot).getD { name := [] }

theorem record?_eq_none_iff {slot : Nat} : tree.record? slot = none ↔ tree.size ≤ slot :=
  Array.getElem?_eq_none_iff

theorem record?_of_lt {slot : Nat} (h : slot < tree.size) :
    tree.record? slot = some (tree.recordAt slot) := by
  cases hr : tree.record? slot with
  | none => exact absurd (record?_eq_none_iff.1 hr) (Nat.not_le.2 h)
  | some r => rw [recordAt, hr]; rfl

theorem recordAt_of_le {slot : Nat} (h : tree.size ≤ slot) : tree.recordAt slot = { name := [] } := by
  rw [recordAt, record?_eq_none_iff.2 h]
  rfl

theorem map_recordAt_range (tree : Tree) :
    (List.range tree.size).map tree.recordAt = tree.records.toList := by
  refine List.ext_getElem (by simp [size]) fun s hs _ => ?_
  rw [List.length_map, List.length_range] at hs
  rw [List.getElem_map, List.getElem_range, Array.getElem_toList]
  exact Option.some.inj ((record?_of_lt hs).symm.trans (Array.getElem?_eq_getElem hs))

/-- Trees are equal if they hold the same. -/
theorem eq_of_recordAt {tree' : Tree} (hsize : tree.size = tree'.size)
    (h : ∀ s, tree.recordAt s = tree'.recordAt s) : tree = tree' := by
  have hrecords : tree.records.toList = tree'.records.toList := by
    rw [← map_recordAt_range, ← map_recordAt_range, hsize, funext h]
  exact congrArg Tree.mk (Array.toList_inj.1 hrecords)

theorem mem_roots_iff {slot : Nat} :
    slot ∈ tree.roots ↔ slot < tree.size ∧ (tree.recordAt slot).parent = none := by
  rw [roots, List.mem_filter, List.mem_range, Option.isNone_iff_eq_none]
  refine and_congr_right fun h => ?_
  rw [record?_of_lt h]
  rfl

theorem size_edit (tree : Tree) (e : Edit) : (tree.edit e).size = tree.size + e.made := by
  cases e with
  | node name => exact size_addNode tree name
  | param slot key value => exact size_setParam tree slot key value
  | child p c => exact size_link tree p c

theorem recordAt_push (tree : Tree) (r : Record) (s : Nat) :
    (Tree.mk (tree.records.push r)).recordAt s = if s = tree.size then r else tree.recordAt s := by
  have hr : (Tree.mk (tree.records.push r)).record? s =
      if s = tree.size then some r else tree.record? s := Array.getElem?_push
  rw [recordAt, hr]
  split <;> rfl

theorem recordAt_addNode (tree : Tree) (name : Text) (s : Nat) :
    (tree.addNode name).recordAt s = if s = tree.size then { name } else tree.recordAt s :=
  tree.recordAt_push { name } s

theorem recordAt_setParam {slot : Nat} (h : slot < tree.size) (key value : Text) (s : Nat) :
    (tree.setParam slot key value).recordAt s =
      if slot = s then
        { tree.recordAt s with params := (tree.recordAt s).params.insert key value }
      else tree.recordAt s := by
  rw [recordAt, record?_setParam]
  split
  · next hs => rw [← hs, record?_of_lt h]; rfl
  · rfl

/-- Linking changes the children of the one and the parent of the other, unless it has one. -/
theorem recordAt_link {p c : Nat} (hp : p < tree.size) (hc : c < tree.size) (s : Nat) :
    (tree.link p c).recordAt s =
      { tree.recordAt s with
        children := (tree.recordAt s).children ++ if p = s then [c] else []
        parent := (tree.recordAt s).parent.or (if c = s then some p else none) } := by
  rcases Nat.lt_or_ge s tree.size with hs | hs
  · have hr : tree.records[s]? = some (tree.recordAt s) := record?_of_lt hs
    rw [link, if_pos ⟨hp, hc⟩]
    show (((tree.records.modify p _).modify c _)[s]?).getD _ = _
    rw [Array.getElem?_modify, Array.getElem?_modify, hr]
    by_cases hps : p = s <;> by_cases hcs : c = s <;> simp [hps, hcs]
  · rw [recordAt_of_le hs, recordAt_of_le (by rwa [size_link]),
      if_neg (Nat.ne_of_lt (Nat.lt_of_lt_of_le hp hs)),
      if_neg (Nat.ne_of_lt (Nat.lt_of_lt_of_le hc hs))]
    rfl

/-! ## What a step says about a slot -/

variable {e : Edit}

theorem map_name_modify {f : Record → Record} (hf : ∀ r, (f r).name = r.name)
    (records : Array Record) (i : Nat) :
    (records.modify i f).toList.map Record.name = records.toList.map Record.name := by
  refine List.ext_getElem? fun s => ?_
  rw [List.getElem?_map, List.getElem?_map, Array.getElem?_toList, Array.getElem?_toList,
    Array.getElem?_modify]
  split
  · rw [Option.map_map]
    exact congrArg (Option.map · records[s]?) (funext hf)
  · rfl

theorem names_edit (tree : Tree) (e : Edit) :
    (tree.edit e).records.toList.map Record.name =
      tree.records.toList.map Record.name ++ e.name?.toList := by
  cases e with
  | node name => simp [Tree.edit, Tree.addNode, Edit.name?]
  | param slot key value =>
    rw [Tree.edit, setParam, map_name_modify]
    · exact (List.append_nil _).symm
    · exact fun _ => rfl
  | child p c =>
    rw [Tree.edit, link]
    split
    · rw [map_name_modify, map_name_modify]
      · exact (List.append_nil _).symm
      all_goals exact fun _ => rfl
    · exact (List.append_nil _).symm

theorem params_edit (h : e.Within tree.size) (s : Nat) :
    ((tree.edit e).recordAt s).params = (e.settingOf? s).toList.foldl
      (fun params (key, value) => params.insert key value) (tree.recordAt s).params := by
  cases e with
  | node name =>
    rw [Tree.edit, recordAt_addNode]
    split
    · next hs => rw [recordAt_of_le (Nat.le_of_eq hs.symm)]; rfl
    · rfl
  | param slot key value =>
    rw [Tree.edit, recordAt_setParam h, Edit.settingOf?]
    split <;> rfl
  | child p c =>
    rw [Tree.edit, recordAt_link h.1 h.2]
    rfl

theorem children_edit (h : e.Within tree.size) (s : Nat) :
    ((tree.edit e).recordAt s).children =
      (tree.recordAt s).children ++ (e.childOf? s).toList := by
  cases e with
  | node name =>
    rw [Tree.edit, recordAt_addNode]
    split
    · next hs => rw [recordAt_of_le (Nat.le_of_eq hs.symm)]; rfl
    · exact (List.append_nil _).symm
  | param slot key value =>
    rw [Tree.edit, recordAt_setParam h]
    split <;> exact (List.append_nil _).symm
  | child p c =>
    rw [Tree.edit, recordAt_link h.1 h.2, Edit.childOf?]
    split <;> rfl

theorem parent_edit (h : e.Within tree.size) (s : Nat) :
    ((tree.edit e).recordAt s).parent = (tree.recordAt s).parent.or (e.parentOf? s) := by
  cases e with
  | node name =>
    rw [Tree.edit, recordAt_addNode]
    split
    · next hs => rw [recordAt_of_le (Nat.le_of_eq hs.symm)]; rfl
    · exact Option.or_none.symm
  | param slot key value =>
    rw [Tree.edit, recordAt_setParam h]
    split <;> exact Option.or_none.symm
  | child p c =>
    rw [Tree.edit, recordAt_link h.1 h.2]
    rfl

/-! ## What all steps say -/

/-- Whether a tree holds what steps say about its slots. -/
structure Records (tree : Tree) (edits : List Edit) : Prop where
  /-- The nodes are in the order in which they were made. -/
  names : tree.records.toList.map Record.name = edits.filterMap Edit.name?
  params : ∀ s, (tree.recordAt s).params = Params.ofList (edits.filterMap (Edit.settingOf? s))
  children : ∀ s, (tree.recordAt s).children = edits.filterMap (Edit.childOf? s)
  /-- The first link decides. -/
  parent : ∀ s, (tree.recordAt s).parent = edits.findSome? (Edit.parentOf? s)

theorem records_empty : empty.Records [] where
  names := rfl
  params := fun _ => rfl
  children := fun _ => rfl
  parent := fun _ => rfl

/-- Each step adds to the history of a tree. -/
theorem Records.edit (h : tree.Records edits) (he : e.Within tree.size) :
    (tree.edit e).Records (edits ++ [e]) where
  names := by
    rw [names_edit, h.names, List.filterMap_append]
    rfl
  params s := by
    rw [params_edit he, h.params, List.filterMap_append]
    exact List.foldl_append.symm
  children s := by
    rw [children_edit he, h.children, List.filterMap_append]
    rfl
  parent s := by
    rw [parent_edit he, h.parent, List.findSome?_append, List.findSome?_singleton]

/-- All steps do, if they refer to nodes that were made before. -/
theorem Records.foldl (h : tree.Records edits) {more : List Edit}
    (hm : Edit.RefersBack tree.size more) : (more.foldl Tree.edit tree).Records (edits ++ more) := by
  induction more generalizing tree edits with
  | nil => rwa [List.append_nil]
  | cons e more ih =>
    rw [← List.singleton_append, ← List.append_assoc]
    exact ih (h.edit hm.1) (size_edit tree e ▸ hm.2)

theorem records_build (h : Edit.RefersBack 0 edits) : (build edits).Records edits :=
  records_empty.foldl h

/-! ## Links -/

theorem Records.mem_children_iff (h : tree.Records edits) {p c : Nat} :
    c ∈ (tree.recordAt p).children ↔ .child p c ∈ edits := by
  rw [h.children, List.mem_filterMap]
  constructor
  · rintro ⟨e, he, hc⟩
    cases e with
    | node name | param => cases hc
    | child q d =>
      obtain ⟨rfl, hd⟩ := Option.ite_none_right_eq_some.1 hc
      cases hd
      exact he
  · exact fun hm => ⟨_, hm, if_pos rfl⟩

theorem Records.parent_eq_none_iff (h : tree.Records edits) {c : Nat} :
    (tree.recordAt c).parent = none ↔ ∀ p, .child p c ∉ edits := by
  rw [h.parent, List.findSome?_eq_none_iff]
  constructor
  · intro hn p hm
    have hp := hn _ hm
    rw [Edit.parentOf?, if_pos rfl] at hp
    cases hp
  · intro hn e he
    cases e with
    | node name | param => rfl
    | child p d =>
      refine if_neg ?_
      rintro rfl
      exact hn p he

/-- A node is among the children of its parent. -/
theorem Records.mem_children_of_parent (h : tree.Records edits) {p c : Nat}
    (hp : (tree.recordAt c).parent = some p) : c ∈ (tree.recordAt p).children := by
  rw [h.parent] at hp
  obtain ⟨e, he, hp⟩ := List.exists_of_findSome?_eq_some hp
  rw [h.mem_children_iff]
  cases e with
  | node name | param => cases hp
  | child q d =>
    obtain ⟨rfl, hq⟩ := Option.ite_none_right_eq_some.1 hp
    cases hq
    exact he

/-! ## Slots in use -/

theorem size_le_size_foldl (tree : Tree) (edits : List Edit) :
    tree.size ≤ (edits.foldl Tree.edit tree).size := by
  induction edits generalizing tree with
  | nil => exact Nat.le_refl _
  | cons e edits ih => exact Nat.le_trans (by rw [size_edit]; omega) (ih (tree.edit e))

theorem within_of_mem (h : Edit.RefersBack tree.size edits) (he : e ∈ edits) :
    e.Within (edits.foldl Tree.edit tree).size := by
  induction edits generalizing tree with
  | nil => cases he
  | cons e' edits ih =>
    rcases List.mem_cons.1 he with rfl | he
    · exact h.1.mono (size_le_size_foldl tree (e :: edits))
    · exact ih (size_edit tree e' ▸ h.2) he

theorem refersBack_append_singleton (h : Edit.RefersBack tree.size edits)
    (he : e.Within (edits.foldl Tree.edit tree).size) :
    Edit.RefersBack tree.size (edits ++ [e]) := by
  induction edits generalizing tree with
  | nil => exact ⟨he, trivial⟩
  | cons e' edits ih =>
    refine ⟨h.1, ?_⟩
    rw [← size_edit]
    exact ih (size_edit tree e' ▸ h.2) he

/-- A step that is about a slot that is not in use changes nothing. -/
theorem edit_of_not_within (h : ¬e.Within tree.size) : tree.edit e = tree := by
  cases e with
  | node name => exact absurd trivial h
  | param slot key value =>
    refine congrArg Tree.mk (Array.ext_getElem? fun s => ?_)
    rw [Array.getElem?_modify]
    split
    · next hs =>
      have hnone : tree.records[s]? = none := record?_eq_none_iff.2 (hs ▸ Nat.not_lt.1 h)
      rw [hnone]
      rfl
    · rfl
  | child p c => exact if_neg h

/-- Every tree is made by steps that refer to nodes made before. -/
theorem IsBuilt.exists_refersBack (h : tree.IsBuilt) :
    ∃ edits, Edit.RefersBack 0 edits ∧ tree = build edits := by
  refine h.induction (P := fun tree => ∃ edits, Edit.RefersBack 0 edits ∧ tree = build edits)
    ⟨[], trivial, rfl⟩ ?_
  rintro _ e ⟨edits, he, rfl⟩
  by_cases hw : e.Within (build edits).size
  · refine ⟨edits ++ [e], @refersBack_append_singleton empty edits e he hw, ?_⟩
    rw [build, build, List.foldl_append]
    rfl
  · exact ⟨edits, he, edit_of_not_within hw⟩

/-- A node is a child exactly if it has a parent. -/
theorem IsBuilt.parent_eq_none_iff (h : tree.IsBuilt) {c : Nat} :
    (tree.recordAt c).parent = none ↔ ∀ p, c ∉ (tree.recordAt p).children := by
  obtain ⟨edits, he, rfl⟩ := h.exists_refersBack
  have hr := records_build he
  simp only [hr.parent_eq_none_iff, hr.mem_children_iff]

theorem IsBuilt.mem_children_of_parent (h : tree.IsBuilt) {p c : Nat}
    (hp : (tree.recordAt c).parent = some p) : c ∈ (tree.recordAt p).children := by
  obtain ⟨edits, he, rfl⟩ := h.exists_refersBack
  exact (records_build he).mem_children_of_parent hp

/-! ## Histories -/

/-- **A tree holds what the steps that made it say.** -/
theorem history_of_build (h : Edit.RefersBack 0 edits) :
    let tree := build edits
    (∀ s, (∀ c ∈ (tree.recordAt s).children, c < tree.size) ∧
      ∀ p, (tree.recordAt s).parent = some p → p < tree.size) ∧
    tree.records.toList.map Record.name = edits.filterMap Edit.name? ∧
    (∀ s, (tree.recordAt s).children = edits.filterMap (Edit.childOf? s)) ∧
    (∀ s, (tree.recordAt s).parent = edits.findSome? (Edit.parentOf? s) ∧
      ∀ p, (tree.recordAt s).parent = some p → s ∈ (tree.recordAt p).children) ∧
    (tree.roots.Pairwise (· < ·) ∧
      ∀ s, s ∈ tree.roots ↔ s < tree.size ∧ ∀ p, .child p s ∉ edits) ∧
    ∀ s, (tree.recordAt s).params.keys.Nodup ∧
      (tree.recordAt s).params.keys =
        (Params.keys (edits.filterMap (Edit.settingOf? s))).eraseDups ∧
      ∀ key value, (key, value) ∈ (tree.recordAt s).params ↔
        Params.IsLast (edits.filterMap (Edit.settingOf? s)) key value := by
  intro tree
  have hr : tree.Records edits := records_build h
  have hwithin {p c : Nat} (hc : c ∈ (tree.recordAt p).children) : p < tree.size ∧ c < tree.size :=
    @within_of_mem empty edits _ h (hr.mem_children_iff.1 hc)
  refine ⟨fun s => ⟨fun c hc => (hwithin hc).2, fun p hp => (hwithin (hr.mem_children_of_parent hp)).1⟩,
    hr.names, hr.children, fun s => ⟨hr.parent s, fun p => hr.mem_children_of_parent⟩,
    ⟨?_, fun s => ?_⟩, fun s => ?_⟩
  · exact List.pairwise_lt_range.filter _
  · rw [mem_roots_iff, hr.parent_eq_none_iff]
  · rw [hr.params]
    exact ⟨Params.nodup_keys_ofList _, Params.keys_ofList _, fun key value => Params.mem_ofList_iff⟩

/-- Two nodes that lie below each other, one of them below itself and linked twice. -/
theorem history_of_build_without_roots :
    let edits : List Edit := [.node ['a'], .node ['b'], .child 1 0, .child 0 1, .child 1 1,
      .param 1 ['k'] ['x'], .param 1 ['j'] ['y'], .child 0 1, .param 1 ['k'] ['z']]
    let tree := build edits
    Edit.RefersBack 0 edits ∧ (tree.recordAt 0).children = [1, 1] ∧
      (tree.recordAt 1).children = [0, 1] ∧ (tree.recordAt 1).parent = some 0 ∧
      (tree.recordAt 0).parent = some 1 ∧ 0 ∉ tree.roots ∧ 1 ∉ tree.roots ∧
      (tree.recordAt 1).params.keys = [['k'], ['j']] ∧
      (['k'], ['z']) ∈ (tree.recordAt 1).params := by
  intro edits tree
  have h : Edit.RefersBack 0 edits := by decide
  obtain ⟨-, -, hchildren, hparent, ⟨-, hroots⟩, hparams⟩ := history_of_build h
  obtain ⟨-, hkeys, hvalues⟩ := hparams 1
  refine ⟨h, hchildren 0, hchildren 1, (hparent 1).1, (hparent 0).1, ?_, ?_, hkeys,
    (hvalues _ _).2 ⟨[(['k'], ['x']), (['j'], ['y'])], [], rfl, List.not_mem_nil⟩⟩
  · exact fun hr => ((hroots 0).1 hr).2 1 (by decide)
  · exact fun hr => ((hroots 1).1 hr).2 0 (by decide)

end Tree

end TreeQuery
