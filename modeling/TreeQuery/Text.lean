/-!
# Text

Names, parameter values, patterns and paths are sequences of characters. Positions in them are
reported in bytes of the UTF-8 form, so byte lengths are a measure on the characters and never an
index into storage.

Letter case is ignored for the 26 ASCII letters only: all other characters compare as they are.
-/

namespace TreeQuery

/-- A text, as the sequence of its characters. -/
abbrev Text := List Char

namespace Text

/-- The number of bytes of the UTF-8 form. -/
def byteLength : Text → Nat
  | [] => 0
  | c :: rest => c.utf8Size + byteLength rest

@[simp] theorem byteLength_nil : byteLength [] = 0 := rfl

@[simp] theorem byteLength_cons (c : Char) (t : Text) :
    byteLength (c :: t) = c.utf8Size + byteLength t := rfl

@[simp] theorem byteLength_append (s t : Text) :
    byteLength (s ++ t) = byteLength s + byteLength t := by
  induction s with
  | nil => simp
  | cons c s ih => simp [ih, Nat.add_assoc]

/-- Each character takes a byte at least. -/
theorem length_le_byteLength (t : Text) : t.length ≤ t.byteLength := by
  induction t with
  | nil => exact Nat.le_refl 0
  | cons c t ih =>
    have := c.utf8Size_pos
    rw [byteLength_cons, List.length_cons]
    omega

/-- What is left after the first `n` bytes; an offset inside a character skips that character. -/
def dropBytes : Nat → Text → Text
  | 0, t => t
  | _, [] => []
  | n + 1, c :: rest => dropBytes (n + 1 - c.utf8Size) rest

/-! ## Letter case -/

/-- The text with its ASCII capitals made small. -/
def fold (t : Text) : Text := t.map Char.toLower

/-- Equality up to the case of ASCII letters. -/
def SameFolded (s t : Text) : Prop := fold s = fold t

instance (s t : Text) : Decidable (SameFolded s t) := inferInstanceAs (Decidable (fold s = fold t))

@[simp] theorem fold_nil : fold [] = [] := rfl

@[simp] theorem fold_cons (c : Char) (t : Text) : fold (c :: t) = c.toLower :: fold t := rfl

/-- What follows `lead` in `t`, where the case of ASCII letters in the leading piece is ignored. -/
def dropFolded? : (lead t : Text) → Option Text
  | [], t => some t
  | _ :: _, [] => none
  | c :: lead, d :: t => if c.toLower = d.toLower then dropFolded? lead t else none

/-- A rest is found exactly when the text is a case variant of `lead` followed by that rest. -/
theorem dropFolded?_eq_some_iff {lead t rest : Text} :
    dropFolded? lead t = some rest ↔ ∃ s, t = s ++ rest ∧ SameFolded lead s := by
  induction lead generalizing t with
  | nil => simp [dropFolded?, SameFolded, fold, eq_comm]
  | cons c lead ih =>
    cases t with
    | nil =>
      simp only [dropFolded?, reduceCtorEq, false_iff, not_exists, not_and, SameFolded]
      rintro s hs h
      have : s = [] := (List.append_eq_nil_iff.1 hs.symm).1
      simp [this, fold] at h
    | cons d t =>
      simp only [dropFolded?]
      split
      · next h =>
        rw [ih]
        constructor
        · rintro ⟨s, rfl, hs⟩
          exact ⟨d :: s, rfl, by simp_all [SameFolded]⟩
        · rintro ⟨s, hs, hf⟩
          cases s with
          | nil => simp [SameFolded, fold] at hf
          | cons e s =>
            obtain ⟨rfl, rfl⟩ := List.cons.inj hs
            exact ⟨s, rfl, by simp_all [SameFolded]⟩
      · next h =>
        simp only [reduceCtorEq, false_iff, not_exists, not_and]
        rintro s hs hf
        cases s with
        | nil => simp [SameFolded, fold] at hf
        | cons e s =>
          obtain ⟨rfl, rfl⟩ := List.cons.inj hs
          simp_all [SameFolded]

/-! ## Order -/

/-- Whether a text equals another or comes before it, where characters are compared from the left by
their codes. -/
def le : Text → Text → Bool
  | [], _ => true
  | _ :: _, [] => false
  | c :: s, d :: t => c.toNat < d.toNat || (c.toNat = d.toNat && le s t)

/-- Of two texts, one does not come after the other. -/
theorem le_total (s t : Text) : (le s t || le t s) = true := by
  induction s generalizing t with
  | nil => cases t <;> rfl
  | cons c s ih =>
    cases t with
    | nil => rfl
    | cons d t =>
      have := ih t
      simp only [le, Bool.or_eq_true, Bool.and_eq_true, decide_eq_true_eq] at this ⊢
      rcases Nat.lt_trichotomy c.toNat d.toNat with h | h | h
      · exact .inl (.inl h)
      · exact this.imp (fun h' => .inr ⟨h, h'⟩) fun h' => .inr ⟨h.symm, h'⟩
      · exact .inr (.inl h)

theorem le_trans {s t u : Text} (hst : le s t = true) (htu : le t u = true) : le s u = true := by
  induction s generalizing t u with
  | nil => rfl
  | cons c s ih =>
    match t, u with
    | [], _ => cases hst
    | _ :: _, [] => cases htu
    | d :: t, e :: u =>
      simp only [le, Bool.or_eq_true, Bool.and_eq_true, decide_eq_true_eq] at hst htu ⊢
      rcases hst with h | ⟨h, hs⟩
      · exact .inl (by omega)
      · rcases htu with h' | ⟨h', ht⟩
        · exact .inl (by omega)
        · exact .inr ⟨by omega, ih hs ht⟩

/-- Texts that do not come after each other are the same. -/
theorem le_antisymm {s t : Text} (hst : le s t = true) (hts : le t s = true) : s = t := by
  induction s generalizing t with
  | nil =>
    cases t with
    | nil => rfl
    | cons d t => cases hts
  | cons c s ih =>
    cases t with
    | nil => cases hst
    | cons d t =>
      simp only [le, Bool.or_eq_true, Bool.and_eq_true, decide_eq_true_eq] at hst hts
      rcases hst with h | ⟨h, hs⟩
      · rcases hts with h' | ⟨h', _⟩ <;> omega
      · rcases hts with h' | ⟨_, ht⟩
        · omega
        · rw [Char.toNat_inj.1 h, ih hs ht]

/-! ## Cutting -/

/-- The parts before and after the first `sep`, if there is one. -/
def cutAt? (sep : Char) : Text → Option (Text × Text)
  | [] => none
  | c :: rest =>
    if c = sep then some ([], rest) else (cutAt? sep rest).map fun (a, b) => (c :: a, b)

/-- The parts before and after the first two dots, if there are any. -/
def cutAtDots? : Text → Option (Text × Text)
  | [] => none
  | '.' :: '.' :: rest => some ([], rest)
  | c :: rest => (cutAtDots? rest).map fun (a, b) => (c :: a, b)

/-- The pieces between the characters that satisfy `isBreak`; never empty. -/
def splitBy (isBreak : Char → Bool) : Text → List Text
  | [] => [[]]
  | c :: rest =>
    if isBreak c then [] :: splitBy isBreak rest
    else match splitBy isBreak rest with
      | [] => [[c]]
      | piece :: pieces => (c :: piece) :: pieces

theorem splitBy_ne_nil (isBreak : Char → Bool) (t : Text) : splitBy isBreak t ≠ [] := by
  cases t with
  | nil => simp [splitBy]
  | cons c t =>
    rw [splitBy]
    split
    · simp
    · split <;> simp

/-- The decimal digits of a number. -/
def ofNat (n : Nat) : Text := (toString n).toList

end Text

end TreeQuery
