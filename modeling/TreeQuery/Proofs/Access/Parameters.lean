import TreeQuery.Proofs.Access.Bytes
import TreeQuery.Proofs.Params.Flags

/-!
# Looking up flags by offsets

A name begins with the name of a flag list if its first bytes, as many as the list's name has, are that
name in any letter case. Whether it does can be asked of every name and every list (`asks`): where the
name cannot be cut there, the answer is no. But the flag itself is cut off behind the name of the list
that decides (`flagAt?`), and this cut would abort inside a character. It never does (`getAt_eq_some`).
-/

namespace TreeQuery.Params

open Text (SameFolded)

variable {params : Params} {key name flag : Text}

/-- Whether a name asks the flag list of a key: it is longer, and its first bytes are the key up to the
case of ASCII letters. -/
def asks (name key : Text) : Bool :=
  decide (HoldsFlags key) && decide (key.byteLength < name.byteLength) &&
    (name.cutAtByte? key.byteLength).any fun (lead, _) => decide (SameFolded key lead)

/-- The value with the longest name, and the last of those. -/
def longest? : Params → Option (Text × Text)
  | [] => none
  | (key, value) :: rest =>
    match longest? rest with
    | some found => if found.1.byteLength < key.byteLength then some (key, value) else some found
    | none => some (key, value)

/-- `1` or `0` if a flag list decides about `name`, the flag being cut off behind the list's name. -/
def flagAt? (params : Params) (name : Text) : Option (Option Text) :=
  match longest? (params.filter fun (key, _) => asks name key) with
  | none => some none
  | some (key, value) => do
    let flag ← name.sliceFrom? key.byteLength
    return some (if (flags value).any fun f => decide (SameFolded f flag) then ['1'] else ['0'])

/-- The value of a name, as `get` gives it. -/
def getAt (params : Params) (name : Text) : Option Text :=
  match params.stored? name with
  | some value => some value
  | none => (flagAt? params name).map (·.getD [])

/-- A name that asks a flag list for a flag ends in the flag, behind as many bytes as the list's name
has. -/
theorem sliceFrom?_of_askedFlag? (h : askedFlag? key name = some flag) :
    name.sliceFrom? key.byteLength = some flag := by
  obtain ⟨-, -, lead, rfl, hsame⟩ := askedFlag?_eq_some_iff.1 h
  rw [hsame.byteLength_eq, Text.sliceFrom?_append]

/-- A name asks a list exactly if it asks it for a flag. -/
theorem asks_eq_isSome : asks name key = (askedFlag? key name).isSome := by
  rw [Bool.eq_iff_iff, Option.isSome_iff_exists]
  simp only [asks, askedFlag?_eq_some_iff, Bool.and_eq_true, decide_eq_true_eq, Option.any_eq_true]
  constructor
  · rintro ⟨⟨hholds, hlt⟩, ⟨lead, flag⟩, hcut, hsame⟩
    obtain ⟨rfl, hlength⟩ := Text.cutAtByte?_eq_some_iff.1 hcut
    refine ⟨flag, hholds, ?_, lead, rfl, hsame⟩
    rintro rfl
    rw [List.append_nil, hlength] at hlt
    exact Nat.lt_irrefl _ hlt
  · rintro ⟨flag, hholds, hne, lead, rfl, hsame⟩
    have hlength : key.byteLength = lead.byteLength := hsame.byteLength_eq
    have hpos : 0 < flag.byteLength := by
      obtain ⟨c, flag, rfl⟩ := List.exists_cons_of_ne_nil hne
      exact Nat.add_pos_left c.utf8Size_pos _
    refine ⟨⟨hholds, ?_⟩, (lead, flag), ?_, hsame⟩
    · rw [Text.byteLength_append, hlength]
      exact Nat.lt_add_of_pos_right hpos
    · rw [hlength, Text.cutAtByte?_append]

theorem mem_of_longest? {p : Text × Text} (h : longest? params = some p) : p ∈ params := by
  induction params with
  | nil => cases h
  | cons q params ih =>
    rw [longest?] at h
    split at h
    · next found hfound =>
      split at h
      · cases h
        exact List.mem_cons_self
      · cases h
        exact List.mem_cons_of_mem _ (ih hfound)
    · cases h
      exact List.mem_cons_self

theorem exists_askedFlag?_of_longest? {found : Text × Text}
    (h : longest? (params.filter fun (key, _) => asks name key) = some found) :
    ∃ flag, askedFlag? found.1 name = some flag := by
  have hasks : asks name found.1 := (List.mem_filter.1 (mem_of_longest? h)).2
  rw [asks_eq_isSome] at hasks
  exact Option.isSome_iff_exists.1 hasks

/-- The list that decides is the longest one that is asked. -/
theorem governing?_eq (name : Text) (params : Params) :
    governing? name params =
      (longest? (params.filter fun (key, _) => asks name key)).bind fun (key, value) =>
        (askedFlag? key name).map fun flag => (key, value, flag) := by
  induction params with
  | nil => rfl
  | cons p params ih =>
    obtain ⟨key, value⟩ := p
    rw [governing?, ih, List.filter_cons]
    dsimp only
    -- A list that is not asked changes neither side; one that is competes with the longest of the rest.
    cases hasked : askedFlag? key name with
    | none =>
      have hno : ¬asks name key = true := by rw [asks_eq_isSome, hasked]; exact Bool.false_ne_true
      rw [if_neg hno]
      generalize (longest? _).bind _ = found
      cases found <;> rfl
    | some flag =>
      have hyes : asks name key = true := by rw [asks_eq_isSome, hasked]; rfl
      rw [if_pos hyes, longest?]
      cases hlongest : longest? (params.filter fun (key, _) => asks name key) with
      | none => simp [hasked]
      | some found =>
        obtain ⟨flag', hflag'⟩ := exists_askedFlag?_of_longest? hlongest
        simp only [Option.bind_some, hflag', Option.map_some]
        split <;> simp [hasked, hflag']

theorem flagAt?_eq_some (params : Params) (name : Text) :
    flagAt? params name = some (params.flag? name) := by
  unfold flagAt? flag?
  rw [governing?_eq]
  cases hlongest : longest? (params.filter fun (key, _) => asks name key) with
  | none => rfl
  | some found =>
    obtain ⟨flag, hflag⟩ := exists_askedFlag?_of_longest? hlongest
    simp [sliceFrom?_of_askedFlag? hflag, hflag]

/-- **A look at a parameter does not reach outside of its name.** -/
theorem getAt_eq_some (params : Params) (name : Text) : params.getAt name = some (params.get name) := by
  rw [getAt, get, flagAt?_eq_some]
  cases params.stored? name <;> rfl

end TreeQuery.Params
