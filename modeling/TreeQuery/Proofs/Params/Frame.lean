import TreeQuery.Proofs.Params.Flags
import TreeQuery.Proofs.Tree.History

/-!
# What a setting changes

A setting puts a value in the place of another, or it adds a name: one that comes before or after other
spellings of it, one that may be the longest flag list to be asked. Whatever it does, the values of the
names that it does not govern stay the same, and so do all values of the other nodes
(`governed_of_parameter_ne`).

The parameters without one name (`Params.without`) tell the value of every name that this one does not
govern (`Params.governed_of_get_ne`). Setting the name leaves them as they are. Every other step does the
same to them with the setting and without it (`Tree.AgreeBut.edit`), so they are the same in the end,
whatever was set before and whatever comes later.
-/

namespace TreeQuery

namespace Params

open Text (SameFolded)

variable {params params' : Params} {key name : Text}

/-! ## Leaving out a name -/

/-- The parameters without the one of a name. -/
def without (params : Params) (key : Text) : Params := params.filter fun p => decide (p.1 ≠ key)

@[simp] theorem without_nil (key : Text) : without [] key = [] := rfl

@[simp] theorem without_cons_self (key value : Text) (params : Params) :
    without ((key, value) :: params) key = params.without key := by
  simp [without]

theorem without_cons_of_ne {k : Text} (h : k ≠ key) (v : Text) (params : Params) :
    without ((k, v) :: params) key = (k, v) :: params.without key := by
  simp [without, h]

/-- A setting does not show where its name is left out. -/
@[simp] theorem without_insert_self (key value : Text) (params : Params) :
    (params.insert key value).without key = params.without key := by
  induction params with
  | nil => simp [insert]
  | cons p params ih =>
    obtain ⟨k, v⟩ := p
    by_cases h : k = key
    · simp [insert, h]
    · simp [insert, h, without_cons_of_ne, ih]

/-- Another name may be set before or afterwards. -/
theorem without_insert_of_ne {k : Text} (h : k ≠ key) (v : Text) (params : Params) :
    (params.insert k v).without key = (params.without key).insert k v := by
  induction params with
  | nil => simp [insert, without_cons_of_ne h]
  | cons p params ih =>
    obtain ⟨k', v'⟩ := p
    by_cases hkey : k' = key
    · subst hkey
      simp [insert, Ne.symm h, ih]
    · by_cases hk : k' = k <;> simp [insert, without_cons_of_ne, hkey, hk, h, ih]

/-- Parameters that agree without a name still do after any setting. -/
theorem without_insert_congr (h : params.without key = params'.without key) (k v : Text) :
    (params.insert k v).without key = (params'.insert k v).without key := by
  by_cases hk : k = key
  · subst hk
    simpa using h
  · rw [without_insert_of_ne hk, without_insert_of_ne hk, h]

theorem without_foldl_insert_congr (h : params.without key = params'.without key)
    (settings : List (Text × Text)) :
    (settings.foldl (fun params (k, v) => params.insert k v) params).without key =
      (settings.foldl (fun params (k, v) => params.insert k v) params').without key := by
  induction settings generalizing params params' with
  | nil => exact h
  | cons p settings ih => exact ih (without_insert_congr h p.1 p.2)

/-! ## Lookup without a name -/

theorem stored?_without (h : ¬SameFolded key name) :
    (params.without key).stored? name = params.stored? name := by
  have hfits (p : Text × Text) : p.1 ≠ key ∧ SameFolded p.1 name ↔ SameFolded p.1 name := by
    refine and_iff_right_of_imp ?_
    rintro hp rfl
    exact h hp
  simp [stored?, without, List.find?_filter, hfits]

/-- A name that is not asked for a flag does not decide about one. -/
theorem governing?_without (h : askedFlag? key name = none) :
    governing? name (params.without key) = governing? name params := by
  induction params with
  | nil => rfl
  | cons p params ih =>
    obtain ⟨k, v⟩ := p
    by_cases hk : k = key
    · subst hk
      rw [without_cons_self, ih, governing?, h]
      cases governing? name params <;> rfl
    · rw [without_cons_of_ne hk, governing?, governing?, ih]

/-- **Parameters that agree without a name differ only in what this name governs**: in itself, up to
letter case, and as a flag list in the names that ask it and are not stored. -/
theorem governed_of_get_ne (h : params.without key = params'.without key)
    (hne : params.get name ≠ params'.get name) :
    SameFolded key name ∨ ((askedFlag? key name).isSome ∧ params.stored? name = none ∧
      params'.stored? name = none) := by
  by_cases hk : SameFolded key name
  · exact .inl hk
  have hstored : params.stored? name = params'.stored? name := by
    rw [← stored?_without hk, h, stored?_without hk]
  cases hs : params.stored? name with
  | some value =>
    -- both have the stored value
    refine absurd ?_ hne
    rw [get, get, ← hstored, hs]
    rfl
  | none =>
    refine .inr ⟨?_, rfl, hstored ▸ hs⟩
    by_contra hasked
    have hnone : askedFlag? key name = none := by simpa using hasked
    refine hne ?_
    rw [get, get, hstored, flag?, flag?, ← governing?_without hnone, h, governing?_without hnone]

end Params

namespace Tree

variable {tree tree' : Tree} {slot : Nat} {key : Text}

/-! ## Trees that agree but for a name -/

/-- Trees of as many nodes that have the same parameters, except for one name of one node. -/
structure AgreeBut (slot : Nat) (key : Text) (tree tree' : Tree) : Prop where
  size_eq : tree.size = tree'.size
  params_eq : ∀ s, s ≠ slot → (tree.recordAt s).params = (tree'.recordAt s).params
  without_eq :
    (tree.recordAt slot).params.without key = (tree'.recordAt slot).params.without key

theorem AgreeBut.refl (slot : Nat) (key : Text) (tree : Tree) : AgreeBut slot key tree tree :=
  ⟨rfl, fun _ _ => rfl, rfl⟩

/-- A setting is about one name of one node. -/
theorem agreeBut_setParam (tree : Tree) (slot : Nat) (key value : Text) :
    AgreeBut slot key (tree.setParam slot key value) tree := by
  by_cases hslot : slot < tree.size
  · refine ⟨size_setParam .., fun s hs => ?_, ?_⟩
    · rw [recordAt_setParam hslot, if_neg hs.symm]
    · rw [recordAt_setParam hslot, if_pos rfl]
      exact Params.without_insert_self ..
  · have hsame : tree.edit (.param slot key value) = tree := edit_of_not_within hslot
    show AgreeBut slot key (tree.edit (.param slot key value)) tree
    rw [hsame]
    exact .refl slot key tree

/-- One more step leaves trees in agreement. -/
theorem AgreeBut.edit (h : AgreeBut slot key tree tree') (e : Edit) :
    AgreeBut slot key (tree.edit e) (tree'.edit e) := by
  by_cases hw : e.Within tree.size
  · have hw' : e.Within tree'.size := h.size_eq ▸ hw
    refine ⟨?_, fun s hs => ?_, ?_⟩
    · rw [size_edit, size_edit, h.size_eq]
    · rw [params_edit hw, params_edit hw', h.params_eq s hs]
    · rw [params_edit hw, params_edit hw']
      exact Params.without_foldl_insert_congr h.without_eq _
  · have hw' : ¬e.Within tree'.size := h.size_eq ▸ hw
    rwa [edit_of_not_within hw, edit_of_not_within hw']

/-- So do all later steps. -/
theorem AgreeBut.foldl (h : AgreeBut slot key tree tree') (edits : List Edit) :
    AgreeBut slot key (edits.foldl Tree.edit tree) (edits.foldl Tree.edit tree') := by
  induction edits generalizing tree tree' with
  | nil => exact h
  | cons e edits ih => exact ih (h.edit e)

/-- **A step that sets a name may be left out** among others: the trees agree but for that name. -/
theorem agreeBut_build (before after : List Edit) (slot : Nat) (key value : Text) :
    AgreeBut slot key (build (before ++ .param slot key value :: after)) (build (before ++ after)) := by
  rw [build, build, List.foldl_append, List.foldl_append, List.foldl_cons]
  exact (agreeBut_setParam _ slot key value).foldl after

end Tree

/-! ## Nodes -/

open Text (SameFolded)

namespace Forest

variable {forest : Forest} {tree tree' : Tree} {place slot : Nat} {key name : Text} {node : Node}

theorem params_of_getElem? (h : forest[node.tree]? = some tree) :
    forest.params node = (tree.recordAt node.slot).params := by
  rw [params, record?, h, Tree.recordAt]
  show ((tree.record? node.slot).map Record.params).getD [] = _
  cases tree.record? node.slot <;> rfl

/-- In forests that differ in one tree, the same node has parameters that agree. -/
theorem params_set_cases (forest : Forest) (h : Tree.AgreeBut slot key tree tree') (place : Nat)
    (node : Node) :
    params (forest.set place tree) node = params (forest.set place tree') node ∨
      (node = ⟨place, slot⟩ ∧ (params (forest.set place tree) node).without key =
        (params (forest.set place tree') node).without key) := by
  obtain ⟨i, s⟩ := node
  by_cases hi : place = i ∧ place < forest.length
  · obtain ⟨rfl, hlt⟩ := hi
    have ht : (forest.set place tree)[place]? = some tree := by simp [hlt]
    have ht' : (forest.set place tree')[place]? = some tree' := by simp [hlt]
    rw [params_of_getElem? ht, params_of_getElem? ht']
    by_cases hs : s = slot
    · subst hs
      exact .inr ⟨rfl, h.without_eq⟩
    · exact .inl (h.params_eq s hs)
  · have hsame : (forest.set place tree)[i]? = (forest.set place tree')[i]? := by
      grind
    left
    rw [params, params, record?, record?, hsame]

end Forest

/-- **A setting matters only to the names that it governs.** The trees that are made with it and without
it, whatever the steps before and after it, give a different value to a name only at the node that it is
about, and only if the name is the one that is set, up to letter case, or begins with it and goes on,
where it ends in `_` and neither tree has the name stored in any letter case. -/
theorem governed_of_parameter_ne (forest : Forest) (place slot : Nat) (before after : List Edit)
    (key value : Text) (node : Node) (name : Text) :
    let set : Forest :=
      forest.set place (Tree.build (before ++ .param slot key value :: after))
    let unset : Forest := forest.set place (Tree.build (before ++ after))
    set.parameter node name ≠ unset.parameter node name →
      node = ⟨place, slot⟩ ∧
        (SameFolded key name ∨
          (Params.HoldsFlags key ∧
            (∃ lead flag, name = lead ++ flag ∧ flag ≠ [] ∧ SameFolded key lead) ∧
            (∀ k ∈ (set.params node).keys, ¬SameFolded k name) ∧
            ∀ k ∈ (unset.params node).keys, ¬SameFolded k name)) := by
  intro set unset hne
  have hagree := Tree.agreeBut_build before after slot key value
  rcases forest.params_set_cases hagree place node with hsame | ⟨hnode, hwithout⟩
  · refine absurd ?_ hne
    rw [Forest.parameter, Forest.parameter, hsame]
  · refine ⟨hnode, ?_⟩
    rcases Params.governed_of_get_ne hwithout hne with hk | ⟨hasked, hset, hunset⟩
    · exact .inl hk
    · obtain ⟨flag, hflag⟩ := Option.isSome_iff_exists.1 hasked
      obtain ⟨hholds, hnil, lead, hname, hlead⟩ := Params.askedFlag?_eq_some_iff.1 hflag
      exact .inr ⟨hholds, ⟨lead, flag, hname, hnil, hlead⟩, Params.stored?_eq_none_iff.1 hset,
        Params.stored?_eq_none_iff.1 hunset⟩

/-- A flag list under a longer name takes a flag from a shorter one. -/
theorem governed_of_parameter_ne_of_longer_list :
    let before : List Edit := [.node ['w'], .param 0 "s_".toList "x_a".toList]
    let after : List Edit := [.param 0 ['i'] ['1']]
    let set : Forest := [Tree.build (before ++ .param 0 "S_X_".toList ['b'] :: after)]
    let unset : Forest := [Tree.build (before ++ after)]
    set.parameter ⟨0, 0⟩ "s_x_a".toList = ['0'] ∧ unset.parameter ⟨0, 0⟩ "s_x_a".toList = ['1'] ∧
      (SameFolded "S_X_".toList "s_x_a".toList ∨
        (Params.HoldsFlags "S_X_".toList ∧
          (∃ lead flag, "s_x_a".toList = lead ++ flag ∧ flag ≠ [] ∧
            SameFolded "S_X_".toList lead) ∧
          (∀ k ∈ (set.params ⟨0, 0⟩).keys, ¬SameFolded k "s_x_a".toList) ∧
          ∀ k ∈ (unset.params ⟨0, 0⟩).keys, ¬SameFolded k "s_x_a".toList)) := by
  intro before after set unset
  have hset : set.parameter ⟨0, 0⟩ "s_x_a".toList = ['0'] := by decide
  have hunset : unset.parameter ⟨0, 0⟩ "s_x_a".toList = ['1'] := by decide
  refine ⟨hset, hunset, (governed_of_parameter_ne [Tree.empty] 0 0 before after "S_X_".toList ['b']
    ⟨0, 0⟩ "s_x_a".toList ?_).2⟩
  show set.parameter ⟨0, 0⟩ "s_x_a".toList ≠ unset.parameter ⟨0, 0⟩ "s_x_a".toList
  rw [hset, hunset]
  decide

end TreeQuery
