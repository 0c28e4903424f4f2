import Mathlib.Data.List.Nodup
import TreeQuery.Proofs.Tree.Building

/-!
# Listed flags

Besides the stored names a node answers to one name for each flag that a value of it lists
(`Params.mem_flagNames_iff`). Asked for such a name, it does not go back to the value that lists the
flag: among the stored names ending in `_` that the asked name begins with, a longest one decides
(`Params.exists_isLongestList_get`). So a listed flag is set if the others are shorter than the name it
is listed under (`parameter_of_listed_flag`), and another list with a longer name hides it
(`parameter_of_hidden_flag`).
-/

namespace TreeQuery

namespace Text

theorem toLower_cases (c : Char) :
    c.toLower = c ∨ (c.utf8Size = 1 ∧ c.toLower.utf8Size = 1 ∧ c.toLower ≠ '_') := by
  by_cases h : c.val ≥ 'A'.val ∧ c.val ≤ 'Z'.val
  · have hlower : c.toLower.val = c.val + 32 := congrArg Char.val (dif_pos h)
    have hle := UInt32.le_iff_toNat_le.1 h.1
    have hge := UInt32.le_iff_toNat_le.1 h.2
    simp at hle hge
    have hval : c.toLower.toNat = c.toNat + 32 := by
      show c.toLower.val.toNat = c.val.toNat + 32
      rw [hlower, UInt32.toNat_add]
      simp
      omega
    refine .inr ⟨Char.utf8Size_eq_one_iff.2 ?_, Char.utf8Size_eq_one_iff.2 ?_, ?_⟩
    · rw [UInt32.le_iff_toNat_le]
      simp
      omega
    · rw [UInt32.le_iff_toNat_le]
      simp
      omega
    · intro he
      rw [he] at hval
      simp at hval
      omega
  · exact .inl (dif_neg h)

/-- Letter case does not change how long a text is. -/
theorem byteLength_fold (t : Text) : byteLength (fold t) = byteLength t := by
  induction t with
  | nil => rfl
  | cons c t ih =>
    rw [fold_cons, byteLength_cons, byteLength_cons, ih]
    rcases toLower_cases c with h | ⟨h, h', -⟩
    · rw [h]
    · rw [h, h']

theorem SameFolded.byteLength_eq {s t : Text} (h : SameFolded s t) : s.byteLength = t.byteLength := by
  rw [← byteLength_fold s, h, byteLength_fold]

end Text

namespace Params

open Text (SameFolded)

variable {params : Params} {key key' name flag flag' value : Text}

theorem HoldsFlags.of_sameFolded (h : HoldsFlags key) (hs : SameFolded key key') : HoldsFlags key' := by
  have hlast : (key'.getLast?).map Char.toLower = some '_' := by
    rw [← List.getLast?_map]
    show (Text.fold key').getLast? = some '_'
    rw [← hs, Text.fold, List.getLast?_map, h]
    rfl
  obtain ⟨c, hc, hlower⟩ := Option.map_eq_some_iff.1 hlast
  rcases Text.toLower_cases c with hsame | ⟨-, -, hne⟩
  · rw [HoldsFlags, hc, ← hlower, hsame]
  · exact absurd hlower hne

/-! ## Flag lists that are asked -/

theorem askedFlag?_eq_some_iff :
    askedFlag? key name = some flag ↔
      HoldsFlags key ∧ flag ≠ [] ∧ ∃ s, name = s ++ flag ∧ SameFolded key s := by
  unfold askedFlag?
  by_cases h : HoldsFlags key
  · rw [if_pos h, Option.filter_eq_some_iff, Text.dropFolded?_eq_some_iff, decide_eq_true_iff]
    constructor
    · rintro ⟨hdrop, hne⟩
      exact ⟨h, hne, hdrop⟩
    · rintro ⟨-, hne, hdrop⟩
      exact ⟨hdrop, hne⟩
  · rw [if_neg h]
    constructor
    · intro hnone
      cases hnone
    · rintro ⟨hholds, -⟩
      exact absurd hholds h

/-- Names that differ in letter case only ask for the same flag. -/
theorem askedFlag?_of_sameFolded (h : askedFlag? key name = some flag) (hs : SameFolded key' key) :
    askedFlag? key' name = some flag := by
  obtain ⟨hholds, hne, s, rfl, hks⟩ := askedFlag?_eq_some_iff.1 h
  exact askedFlag?_eq_some_iff.2 ⟨hholds.of_sameFolded hs.symm, hne, s, rfl, hs.trans hks⟩

theorem governing?_eq_none (h : governing? name params = none) :
    ∀ k ∈ params.keys, askedFlag? k name = none := by
  induction params with
  | nil =>
    intro k hk
    cases hk
  | cons p params ih =>
    unfold governing? at h
    split at h
    · split at h <;> cases h
    · cases h
    · cases h
    · next hrest hasked =>
      intro k hk
      rcases List.mem_cons.1 hk with rfl | hk
      · exact hasked
      · exact ih hrest k hk

/-- A list that `name` asks for `flag`, under a stored name that is as long as that of any other list
asked. -/
structure IsLongestList (params : Params) (name key value flag : Text) : Prop where
  stored : (key, value) ∈ params
  asked : askedFlag? key name = some flag
  longest : ∀ k ∈ params.keys, (askedFlag? k name).isSome → k.byteLength ≤ key.byteLength

theorem isLongestList_of_governing? (h : governing? name params = some (key, value, flag)) :
    params.IsLongestList name key value flag := by
  induction params generalizing key value flag with
  | nil => cases h
  | cons p params ih =>
    obtain ⟨k₁, v₁⟩ := p
    unfold governing? at h
    split at h
    · next found flag₁ hrest hasked =>
      obtain ⟨hmem, hfound, hlongest⟩ := ih hrest
      split at h
      · next hlt =>
        cases h
        refine ⟨List.mem_cons_self, hasked, fun k hk hsome => ?_⟩
        rcases List.mem_cons.1 hk with rfl | hk
        · exact Nat.le_refl _
        · exact Nat.le_trans (hlongest k hk hsome) (Nat.le_of_lt hlt)
      · next hge =>
        cases h
        refine ⟨List.mem_cons_of_mem _ hmem, hfound, fun k hk hsome => ?_⟩
        rcases List.mem_cons.1 hk with rfl | hk
        · exact Nat.le_of_not_lt hge
        · exact hlongest k hk hsome
    · next found hrest hasked =>
      cases h
      obtain ⟨hmem, hfound, hlongest⟩ := ih hrest
      refine ⟨List.mem_cons_of_mem _ hmem, hfound, fun k hk hsome => ?_⟩
      rcases List.mem_cons.1 hk with rfl | hk
      · rw [hasked] at hsome
        cases hsome
      · exact hlongest k hk hsome
    · next flag₁ hrest hasked =>
      cases h
      refine ⟨List.mem_cons_self, hasked, fun k hk hsome => ?_⟩
      rcases List.mem_cons.1 hk with rfl | hk
      · exact Nat.le_refl _
      · rw [governing?_eq_none hrest k hk] at hsome
        cases hsome
    · cases h

/-- Where all other lists asked have shorter names, the longest list is the one that is left. -/
theorem IsLongestList.key_eq {longest rest : Text} (h : params.IsLongestList name longest value rest)
    (hkey : key ∈ params.keys) (hasked : askedFlag? key name = some flag)
    (hshorter : ∀ k ∈ params.keys, k ≠ key → (askedFlag? k name).isSome →
      k.byteLength < key.byteLength) : longest = key := by
  by_contra hne
  have hlt := hshorter longest (List.mem_map_of_mem h.stored) hne (by rw [h.asked]; rfl)
  have hle := h.longest key hkey (by rw [hasked]; rfl)
  exact absurd hlt (Nat.not_lt_of_le hle)

theorem stored?_eq_none_iff : params.stored? name = none ↔ ∀ k ∈ params.keys, ¬SameFolded k name := by
  simp [stored?, keys]

/-- A name stands for its own value if no other one differs from it in letter case only. -/
theorem get_of_mem (hnodup : params.keys.Nodup) (hmem : (key, value) ∈ params)
    (hsole : ∀ k ∈ params.keys, SameFolded k key → k = key) : params.get key = value := by
  have hstored : params.stored? key = some value := by
    cases hs : params.stored? key with
    | none => exact absurd rfl (stored?_eq_none_iff.1 hs key (List.mem_map_of_mem hmem))
    | some v =>
      obtain ⟨⟨k, v⟩, hfind, rfl⟩ := Option.map_eq_some_iff.1 hs
      have hsame : SameFolded k key := by simpa using List.find?_some hfind
      have hk : (k, v) ∈ params := List.mem_of_find?_eq_some hfind
      obtain rfl := hsole k (List.mem_map_of_mem hk) hsame
      exact congrArg some
        (Prod.mk.inj (List.inj_on_of_nodup_map hnodup hk hmem rfl)).2
  rw [Params.get, hstored]
  rfl

/-! ## Names of flags -/

/-- **A longest list decides** whether a name that is not stored is a flag that is set. -/
theorem exists_isLongestList_get (hkey : key ∈ params.keys)
    (hasked : askedFlag? key name = some flag) (hstored : ∀ k ∈ params.keys, ¬SameFolded k name) :
    ∃ longest value rest, params.IsLongestList name longest value rest ∧
      params.get name =
        if (flags value).any fun f => decide (SameFolded f rest) then ['1'] else ['0'] := by
  have hnone : params.stored? name = none := stored?_eq_none_iff.2 hstored
  cases hg : governing? name params with
  | none =>
    rw [governing?_eq_none hg key hkey] at hasked
    cases hasked
  | some found =>
    obtain ⟨longest, value, rest⟩ := found
    refine ⟨longest, value, rest, isLongestList_of_governing? hg, ?_⟩
    rw [Params.get, hnone, flag?, hg]
    rfl

/-- A flag that the value of a stored name lists. -/
structure Lists (params : Params) (key flag : Text) : Prop where
  stored : key ∈ params.keys
  holdsFlags : HoldsFlags key
  mem : flag ∈ flags (params.get key)
  ne_nil : flag ≠ []

/-- The names of flags are the stored names with the flags that they list. -/
theorem mem_flagNames_iff :
    name ∈ params.flagNames ↔ ∃ key flag, params.Lists key flag ∧ name = key ++ flag := by
  unfold flagNames
  simp only [List.mem_flatMap, List.mem_filter, List.mem_map, decide_eq_true_eq]
  constructor
  · rintro ⟨key, ⟨hstored, hholds⟩, flag, ⟨hmem, hne⟩, rfl⟩
    exact ⟨key, flag, ⟨hstored, hholds, hmem, hne⟩, rfl⟩
  · rintro ⟨key, flag, h, rfl⟩
    exact ⟨key, ⟨h.stored, h.holdsFlags⟩, flag, ⟨h.mem, h.ne_nil⟩, rfl⟩

/-- The flag that a name asks of the list that it is made from is the one it is made from. -/
theorem Lists.askedFlag? (h : params.Lists key flag) :
    askedFlag? key (key ++ flag) = some flag :=
  askedFlag?_eq_some_iff.2 ⟨h.holdsFlags, h.ne_nil, key, rfl, rfl⟩

end Params

/-! ## Nodes -/

open Params (askedFlag?)
open Text (SameFolded)

/-- **A listed flag is set unless another list hides it**: one of the longest lists that its name asks
decides, by what is left of the name, and where its own list is longer than the others, it is set. -/
theorem parameter_of_listed_flag {forest : Forest} (hf : ∀ tree ∈ forest, tree.IsBuilt) {node : Node}
    {key flag : Text} (h : (forest.params node).Lists key flag)
    (hstored : ∀ k ∈ (forest.params node).keys, ¬SameFolded k (key ++ flag)) :
    ((∀ k ∈ (forest.params node).keys, k ≠ key → (askedFlag? k (key ++ flag)).isSome →
        k.byteLength < key.byteLength) →
      forest.parameter node (key ++ flag) = ['1']) ∧
    ∃ longest value rest, (forest.params node).IsLongestList (key ++ flag) longest value rest ∧
      forest.parameter node (key ++ flag) =
        if (Params.flags value).any fun f => decide (SameFolded f rest) then ['1'] else ['0'] := by
  obtain ⟨longest, value, rest, hl, hget⟩ :=
    Params.exists_isLongestList_get h.stored h.askedFlag? hstored
  refine ⟨fun hshorter => ?_, longest, value, rest, hl, hget⟩
  obtain rfl := hl.key_eq h.stored h.askedFlag? hshorter
  obtain rfl : flag = rest := Option.some.inj (h.askedFlag?.symm.trans hl.asked)
  -- A name that differs in letter case only would be asked as well, and is not shorter.
  have hsole : ∀ k ∈ (forest.params node).keys, SameFolded k longest → k = longest := by
    intro k hk hsame
    by_contra hne
    have hlt := hshorter k hk hne (by rw [Params.askedFlag?_of_sameFolded hl.asked hsame]; rfl)
    exact absurd hsame.byteLength_eq (Nat.ne_of_lt hlt)
  have hvalue := Params.get_of_mem (forest.nodup_keys_params hf node) hl.stored hsole
  refine hget.trans (if_pos (List.any_eq_true.2 ⟨flag, ?_, decide_eq_true rfl⟩))
  rw [← hvalue]
  exact h.mem

/-- A window with a list of styles and, under a longer name, one of extended styles. -/
def Params.styled (styles extended : Text) : List Edit :=
  [.node "Window".toList, .param 0 "style_".toList styles, .param 0 "style_ex_".toList extended]

theorem parameter_of_flag_in_longest_list :
    let forest : Forest := [Tree.build (Params.styled "VISIBLE".toList "FOO".toList)]
    (forest.params ⟨0, 0⟩).Lists "style_ex_".toList "FOO".toList ∧
      forest.parameter ⟨0, 0⟩ "style_ex_FOO".toList = ['1'] := by
  intro forest
  have hf : ∀ tree ∈ forest, tree.IsBuilt := fun tree ht => ⟨_, List.mem_singleton.1 ht⟩
  have hlists : (forest.params ⟨0, 0⟩).Lists "style_ex_".toList "FOO".toList :=
    ⟨by decide, by decide, by decide, by decide⟩
  exact ⟨hlists, (parameter_of_listed_flag hf hlists (by decide)).1 (by decide)⟩

/-- A flag that contains the rest of a longer name is hidden by that one. -/
theorem parameter_of_hidden_flag :
    ∃ (forest : Forest) (node : Node) (name : Text), (∀ tree ∈ forest, tree.IsBuilt) ∧
      name ∈ (forest.params node).flagNames ∧
      (∀ k ∈ (forest.params node).keys, ¬SameFolded k name) ∧
      forest.parameter node name = ['0'] := by
  refine ⟨[Tree.build (Params.styled "ex_BAR".toList "FOO".toList)], ⟨0, 0⟩,
    "style_ex_BAR".toList, ?_, by decide, by decide, by decide⟩
  intro tree ht
  exact ⟨_, List.mem_singleton.1 ht⟩

end TreeQuery
