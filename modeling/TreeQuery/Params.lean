import TreeQuery.Text

/-!
# Parameters of a node

A node carries named text values. The names are kept in the order in which they were first set;
setting a name again replaces its value in place. Lookup ignores the case of ASCII letters and
takes the first name that fits.

A name that ends in `_` holds a list of *flags*, separated by single spaces. Such a name `k` answers
every longer name `k ++ f` with `1` when `f` is one of its flags and with `0` otherwise; among
several such names the longest decides, and among equally long ones the last.
-/

namespace TreeQuery

/-- Names with their values, in the order in which the names were first set. -/
abbrev Params := List (Text × Text)

namespace Params

/-- Sets a value: in place if the name is there, else at the end. -/
def insert (key value : Text) : Params → Params
  | [] => [(key, value)]
  | (k, v) :: rest => if k = key then (k, value) :: rest else (k, v) :: insert key value rest

/-- The parameters that a sequence of settings leaves. -/
def ofList (settings : List (Text × Text)) : Params :=
  settings.foldl (fun params (key, value) => params.insert key value) []

/-- The names, in order. -/
def keys (params : Params) : List Text := params.map Prod.fst

/-- Setting a value adds its name at the end, unless it is there already. -/
theorem keys_insert (key value : Text) (params : Params) :
    keys (params.insert key value) =
      if key ∈ keys params then keys params else keys params ++ [key] := by
  induction params with
  | nil => simp [insert, keys]
  | cons p params ih =>
    obtain ⟨k, v⟩ := p
    simp only [insert]
    split
    · next h => simp [keys, h]
    · next h =>
      simp only [keys, List.map_cons] at ih ⊢
      rw [ih]
      by_cases hk : key ∈ List.map Prod.fst params <;> simp [hk, Ne.symm h]

/-- The value of the first name that equals `name` up to the case of ASCII letters. -/
def stored? (params : Params) (name : Text) : Option Text :=
  (params.find? fun (key, _) => decide (Text.SameFolded key name)).map Prod.snd

/-! ## Flags -/

/-- The flags in a value: its pieces between spaces. -/
def flags (value : Text) : List Text := Text.splitBy (· = ' ') value

/-- Whether a name holds flags. -/
def HoldsFlags (key : Text) : Prop := key.getLast? = some '_'

instance (key : Text) : Decidable (HoldsFlags key) :=
  inferInstanceAs (Decidable (key.getLast? = some '_'))

/-- The flag that `name` asks of the flag list stored under `key`: what follows the key in it. -/
def askedFlag? (key name : Text) : Option Text :=
  if HoldsFlags key then (Text.dropFolded? key name).filter (· ≠ []) else none

/-- The flag list that decides about `name`, with the flag asked of it: the one with the longest
name, and the last of those. -/
def governing? (name : Text) : Params → Option (Text × Text × Text)
  | [] => none
  | (key, value) :: rest =>
    match governing? name rest, askedFlag? key name with
    | some found, some flag =>
      if found.1.byteLength < key.byteLength then some (key, value, flag) else some found
    | some found, none => some found
    | none, some flag => some (key, value, flag)
    | none, none => none

/-- `1` or `0` if a flag list decides about `name`: whether the flag is in the list, where the case
of ASCII letters is ignored. -/
def flag? (params : Params) (name : Text) : Option Text :=
  (governing? name params).map fun (_, value, flag) =>
    if (flags value).any fun f => decide (Text.SameFolded f flag) then ['1'] else ['0']

/-! ## Lookup -/

/-- The value of a name: the stored one, else that of a flag, else the empty text. -/
def get (params : Params) (name : Text) : Text :=
  ((params.stored? name).or (params.flag? name)).getD []

/-- A stored name of flags with each flag that its value lists. -/
def flagNames (params : Params) : List Text :=
  (params.keys.filter fun key => decide (HoldsFlags key)).flatMap fun key =>
    ((flags (params.get key)).filter (· ≠ [])).map (key ++ ·)

/-- All names that the node answers to: the stored ones, then those of the listed flags. -/
def allNames (params : Params) : List Text := params.keys ++ params.flagNames

end Params

end TreeQuery
