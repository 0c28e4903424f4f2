import Mathlib.Data.Nat.Digits.Defs
import TreeQuery.Integer

/-!
# Numerals

A numeral is what a numeric range takes from a text: a minus sign, if there is one, and then digits.
It stands for an integer of any size (`IsNumeral`), leading zeros or not, and reading it gives this
integer as long as it fits into 64 bits (`read?_eq_some_iff_of_isNumeral`).

A bound may be written with a plus sign as well, and nothing else is read (`read?_eq_some_iff`).
-/

namespace TreeQuery.Integer

/-- The number that digits stand for in the decimal system. -/
def decimal (digits : Text) : Nat :=
  Nat.ofDigits 10 (digits.reverse.map fun d => d.toNat - '0'.toNat)

theorem decimal_cons (d : Char) (digits : Text) :
    decimal (d :: digits) = (d.toNat - '0'.toNat) * 10 ^ digits.length + decimal digits := by
  unfold decimal
  rw [List.reverse_cons, List.map_append, Nat.ofDigits_append, List.map_singleton,
    Nat.ofDigits_singleton, List.length_map, List.length_reverse, Nat.mul_comm, Nat.add_comm]

/-- The texts of a minus sign, if there is one, and digits, with the integers that they stand for. -/
inductive IsNumeral : Text → Int → Prop
  | positive {digits : Text} :
    digits ≠ [] → (∀ d ∈ digits, d.isDigit) → IsNumeral digits (decimal digits)
  | negative {digits : Text} :
    digits ≠ [] → (∀ d ∈ digits, d.isDigit) → IsNumeral ('-' :: digits) (-(decimal digits : Int))

theorem digit?_of_isDigit {d : Char} (h : d.isDigit) : digit? d = some (d.toNat - '0'.toNat) := by
  have hbounds : '0' ≤ d ∧ d ≤ '9' := by
    simpa [Char.isDigit, Char.le_def] using h
  rw [digit?, if_pos hbounds]

theorem digits?_of_isDigit {digits : Text} (h : ∀ d ∈ digits, d.isDigit) (n : Nat) :
    digits? n digits = some (n * 10 ^ digits.length + decimal digits) := by
  induction digits generalizing n with
  | nil => simp [digits?, decimal]
  | cons d digits ih =>
    have hd := digit?_of_isDigit (h d List.mem_cons_self)
    have hdigits : ∀ e ∈ digits, e.isDigit := fun e he => h e (List.mem_cons_of_mem d he)
    rw [digits?, hd]
    dsimp only
    rw [ih hdigits, decimal_cons, List.length_cons]
    congr 1
    ring

theorem natural?_of_isDigit {digits : Text} (hne : digits ≠ []) (h : ∀ d ∈ digits, d.isDigit) :
    natural? digits = some (decimal digits) := by
  have hread := digits?_of_isDigit h 0
  rw [Nat.zero_mul, Nat.zero_add] at hread
  cases digits with
  | nil => exact absurd rfl hne
  | cons d digits => exact hread

/-- A numeral is read as the integer that it stands for. -/
theorem signed?_of_isNumeral {t : Text} {i : Int} (h : IsNumeral t i) : signed? t = some i := by
  cases h with
  | positive hne hdigits =>
    have hread := natural?_of_isDigit hne hdigits
    obtain ⟨d, digits, rfl⟩ := List.exists_cons_of_ne_nil hne
    have hd := hdigits d List.mem_cons_self
    unfold signed?
    split
    · next hminus =>
      cases hminus
      exact absurd hd (by decide)
    · next hplus =>
      cases hplus
      exact absurd hd (by decide)
    · rw [hread]
      rfl
  | negative hne hdigits =>
    simp [signed?, natural?_of_isDigit hne hdigits]

/-- **A numeral is read if its integer fits into 64 bits.** -/
theorem read?_eq_some_iff_of_isNumeral {t : Text} {i j : Int} (h : IsNumeral t i) :
    read? t = some j ↔ j = i ∧ least ≤ i ∧ i ≤ greatest := by
  rw [read?, signed?_of_isNumeral h, Option.filter_eq_some_iff]
  simp only [Option.some.injEq, decide_eq_true_eq]
  constructor
  · rintro ⟨rfl, hbounds⟩
    exact ⟨rfl, hbounds⟩
  · rintro ⟨rfl, hbounds⟩
    exact ⟨rfl, hbounds⟩

/-! ## Signs -/

/-- The texts of integers with an optional sign, with the integers that they stand for. -/
inductive IsSigned : Text → Int → Prop
  | numeral {t : Text} {i : Int} : IsNumeral t i → IsSigned t i
  | plus {digits : Text} :
    digits ≠ [] → (∀ d ∈ digits, d.isDigit) → IsSigned ('+' :: digits) (decimal digits)

theorem isDigit_of_digit? {c : Char} {d : Nat} (h : digit? c = some d) : c.isDigit := by
  unfold digit? at h
  split at h
  · next hbounds => simpa [Char.isDigit, Char.le_def] using hbounds
  · cases h

theorem isDigit_of_digits? {t : Text} {m n : Nat} (h : digits? m t = some n) :
    ∀ d ∈ t, d.isDigit := by
  induction t generalizing m with
  | nil => exact List.forall_mem_nil _
  | cons c t ih =>
    rw [digits?] at h
    split at h
    · next d hd => exact List.forall_mem_cons.2 ⟨isDigit_of_digit? hd, ih h⟩
    · cases h

/-- Only digits are read as a natural number, and at least one. -/
theorem natural?_eq_some_iff {t : Text} {n : Nat} :
    natural? t = some n ↔ t ≠ [] ∧ (∀ d ∈ t, d.isDigit) ∧ n = decimal t := by
  constructor
  · intro h
    have hne : t ≠ [] := by
      rintro rfl
      cases h
    have hdigits : ∀ d ∈ t, d.isDigit := by
      obtain ⟨c, t, rfl⟩ := List.exists_cons_of_ne_nil hne
      exact isDigit_of_digits? h
    rw [natural?_of_isDigit hne hdigits] at h
    exact ⟨hne, hdigits, (Option.some.inj h).symm⟩
  · rintro ⟨hne, hdigits, rfl⟩
    exact natural?_of_isDigit hne hdigits

theorem signed?_eq_some_iff {t : Text} {i : Int} : signed? t = some i ↔ IsSigned t i := by
  constructor
  · intro h
    unfold signed? at h
    split at h
    · obtain ⟨i, hi, rfl⟩ := Option.map_eq_some_iff.1 h
      obtain ⟨n, hn, hcast⟩ := Option.bind_eq_some_iff.1 hi
      cases hcast
      obtain ⟨hne, hdigits, rfl⟩ := natural?_eq_some_iff.1 hn
      exact .numeral (.negative hne hdigits)
    · obtain ⟨n, hn, rfl⟩ := Option.map_eq_some_iff.1 h
      obtain ⟨hne, hdigits, rfl⟩ := natural?_eq_some_iff.1 hn
      exact .plus hne hdigits
    · obtain ⟨n, hn, rfl⟩ := Option.map_eq_some_iff.1 h
      obtain ⟨hne, hdigits, rfl⟩ := natural?_eq_some_iff.1 hn
      exact .numeral (.positive hne hdigits)
  · intro h
    cases h with
    | numeral hn => exact signed?_of_isNumeral hn
    | plus hne hdigits =>
      rw [signed?, natural?_of_isDigit hne hdigits]
      rfl

/-- **What is read is an integer with an optional sign that fits into 64 bits**, and nothing else. -/
theorem read?_eq_some_iff {t : Text} {i : Int} :
    read? t = some i ↔ IsSigned t i ∧ least ≤ i ∧ i ≤ greatest := by
  rw [read?, Option.filter_eq_some_iff, signed?_eq_some_iff, decide_eq_true_iff]

end TreeQuery.Integer
