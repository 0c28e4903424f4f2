import Mathlib.Data.Option.Basic
import TreeQuery.Proofs.Params.Flags

/-!
# Names in another letter case

Two names that differ in the case of ASCII letters only have the same value on every node
(`Forest.parameter_of_sameFolded`). They fit the same stored names. They ask the same lists for flags
that differ in letter case only (`Params.rel_askedFlag?`), so the same list decides about both
(`Params.rel_governing?`), and whether it has the flag is told without regard to letter case.
-/

namespace TreeQuery

namespace Text

variable {s t u : Text}

/-- A character that is no letter has no other case. -/
theorem eq_of_toLower_eq {c d : Char} (hd : d.isAlpha = false) (h : c.toLower = d.toLower) :
    c = d := by
  obtain ⟨hupper, hlower⟩ := Bool.or_eq_false_iff.1 hd
  have hsame : d.toLower = d := dif_neg (of_decide_eq_false hupper)
  rw [hsame] at h
  by_cases hc : c.val ≥ 'A'.val ∧ c.val ≤ 'Z'.val
  · have hval : d.val = c.val + 32 := h ▸ congrArg Char.val (dif_pos hc)
    have hle := UInt32.le_iff_toNat_le.1 hc.1
    have hge := UInt32.le_iff_toNat_le.1 hc.2
    simp at hle hge
    have hle' : d.val ≥ 'a'.val := by
      rw [ge_iff_le, UInt32.le_iff_toNat_le, hval, UInt32.toNat_add]
      simp
      omega
    have hge' : d.val ≤ 'z'.val := by
      rw [UInt32.le_iff_toNat_le, hval, UInt32.toNat_add]
      simp
      omega
    have hletter : d.isLower = true :=
      Bool.and_eq_true_iff.2 ⟨decide_eq_true hle', decide_eq_true hge'⟩
    rw [hlower] at hletter
    cases hletter
  · have hsame : c.toLower = c := dif_neg hc
    rw [← h, hsame]

theorem ne_of_toLower_eq {c d e : Char} (he : e.isAlpha = false) (h : c.toLower = d.toLower)
    (hne : c ≠ e) : d ≠ e := by
  rintro rfl
  exact hne (eq_of_toLower_eq he h)

theorem SameFolded.symm (h : SameFolded s t) : SameFolded t s := Eq.symm h

theorem SameFolded.trans (h : SameFolded s t) (h' : SameFolded t u) : SameFolded s u := Eq.trans h h'

theorem SameFolded.eq_nil_iff (h : SameFolded s t) : s = [] ↔ t = [] := by
  rw [← List.map_eq_nil_iff (f := Char.toLower), ← List.map_eq_nil_iff (l := t)]
  exact iff_of_eq (congrArg (· = []) h)

theorem sameFolded_cons_iff {c d : Char} :
    SameFolded (c :: s) (d :: t) ↔ c.toLower = d.toLower ∧ SameFolded s t :=
  List.cons_eq_cons

theorem SameFolded.exists_cons {c : Char} (h : SameFolded (c :: s) t) :
    ∃ d t', t = d :: t' ∧ c.toLower = d.toLower ∧ SameFolded s t' := by
  obtain ⟨d, t', rfl, hd, ht⟩ := List.map_eq_cons_iff.1 (Eq.symm h)
  exact ⟨d, t', rfl, hd.symm, Eq.symm ht⟩

/-- What is no letter does not come in with letter case. -/
theorem SameFolded.not_mem {c : Char} (h : SameFolded s t) (hc : c.isAlpha = false) (hs : c ∉ s) :
    c ∉ t := by
  intro ht
  have hfold : fold s = fold t := h
  have hmem : c.toLower ∈ fold s := hfold ▸ List.mem_map_of_mem ht
  obtain ⟨d, hd, hlower⟩ := List.mem_map.1 hmem
  rw [eq_of_toLower_eq hc hlower] at hd
  exact hs hd

/-- A text that is the same as two parts in other letter case has two such parts. -/
theorem SameFolded.exists_append {rest : Text} (h : SameFolded (s ++ rest) t) :
    ∃ s' rest', t = s' ++ rest' ∧ SameFolded s s' ∧ SameFolded rest rest' := by
  have hfold : t.map Char.toLower = s.fold ++ rest.fold := by
    rw [fold, fold, ← List.map_append]
    exact Eq.symm h
  obtain ⟨s', rest', rfl, hs, hrest⟩ := List.map_eq_append_iff.1 hfold
  exact ⟨s', rest', rfl, Eq.symm hs, Eq.symm hrest⟩

end Text

namespace Params

open Text (SameFolded)

variable {key name name' : Text}

/-! ## Flags -/

theorem exists_askedFlag?_of_sameFolded {flag : Text} (hs : SameFolded name name')
    (h : askedFlag? key name = some flag) :
    ∃ flag', askedFlag? key name' = some flag' ∧ SameFolded flag flag' := by
  obtain ⟨hholds, hne, s, rfl, hkey⟩ := askedFlag?_eq_some_iff.1 h
  obtain ⟨s', flag', rfl, hs', hflag⟩ := hs.exists_append
  exact ⟨flag', askedFlag?_eq_some_iff.2
    ⟨hholds, fun hnil => hne (hflag.eq_nil_iff.2 hnil), s', rfl, hkey.trans hs'⟩, hflag⟩

/-- A list is asked by both names or by none. -/
theorem rel_askedFlag? (hs : SameFolded name name') (key : Text) :
    Option.Rel SameFolded (askedFlag? key name) (askedFlag? key name') := by
  cases h : askedFlag? key name with
  | some flag =>
    obtain ⟨flag', h', hflag⟩ := exists_askedFlag?_of_sameFolded hs h
    rw [h']
    exact .some hflag
  | none =>
    cases h' : askedFlag? key name' with
    | some flag' =>
      obtain ⟨flag, hflag, -⟩ := exists_askedFlag?_of_sameFolded hs.symm h'
      rw [h] at hflag
      cases hflag
    | none => exact .none

/-- The same list, asked for flags that differ in letter case only. -/
structure SameList (found found' : Text × Text × Text) : Prop where
  key_eq : found.1 = found'.1
  value_eq : found.2.1 = found'.2.1
  flag : SameFolded found.2.2 found'.2.2

/-- **The same list decides about both names.** -/
theorem rel_governing? (hs : SameFolded name name') (params : Params) :
    Option.Rel SameList (governing? name params) (governing? name' params) := by
  induction params with
  | nil => exact .none
  | cons p params ih =>
    obtain ⟨key, value⟩ := p
    have hasked := rel_askedFlag? hs key
    rw [governing?, governing?]
    revert ih hasked
    generalize governing? name params = rest
    generalize governing? name' params = rest'
    generalize askedFlag? key name = flag?
    generalize askedFlag? key name' = flag?'
    rintro (@⟨found, found', hfound⟩ | _) (@⟨flag, flag', hflag⟩ | _)
    · dsimp only
      rw [← hfound.key_eq]
      split
      · exact .some ⟨rfl, rfl, hflag⟩
      · exact .some hfound
    · exact .some hfound
    · exact .some ⟨rfl, rfl, hflag⟩
    · exact .none

theorem flag?_of_sameFolded (hs : SameFolded name name') (params : Params) :
    params.flag? name = params.flag? name' := by
  have h := rel_governing? hs params
  rw [flag?, flag?]
  revert h
  generalize governing? name params = found
  generalize governing? name' params = found'
  rintro (@⟨⟨_, value, flag⟩, ⟨_, value', flag'⟩, hkey, rfl, hflag⟩ | _)
  · have hsame (f : Text) : SameFolded f flag ↔ SameFolded f flag' :=
      ⟨fun h => h.trans hflag, fun h => h.trans hflag.symm⟩
    simp only [Option.map_some, hsame]
  · rfl

/-! ## Lookup -/

theorem stored?_of_sameFolded (hs : SameFolded name name') (params : Params) :
    params.stored? name = params.stored? name' := by
  have hsame (key : Text) : SameFolded key name ↔ SameFolded key name' :=
    ⟨fun h => h.trans hs, fun h => h.trans hs.symm⟩
  simp only [stored?, hsame]

theorem get_of_sameFolded (hs : SameFolded name name') (params : Params) :
    params.get name = params.get name' := by
  rw [get, get, stored?_of_sameFolded hs, flag?_of_sameFolded hs]

end Params

/-- **Letter case does not change what a name is resolved to.** -/
theorem Forest.parameter_of_sameFolded {forest : Forest} {name name' : Text}
    (hs : Text.SameFolded name name') (node : Node) :
    forest.parameter node name = forest.parameter node name' :=
  Params.get_of_sameFolded hs (forest.params node)

end TreeQuery
