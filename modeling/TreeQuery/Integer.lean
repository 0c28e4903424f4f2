import TreeQuery.Text

/-!
# Decimal integers

Bounds, counts and indices are written in decimal: an optional sign, then at least one digit, and
nothing else. Leading zeros are allowed. A reader takes the least and the greatest value it admits
and refuses everything outside, so a numeral that is too long is simply refused.
-/

namespace TreeQuery.Integer

/-- The value of a decimal digit. -/
def digit? (c : Char) : Option Nat :=
  if '0' ≤ c ∧ c ≤ '9' then some (c.toNat - '0'.toNat) else none

/-- The number that digits read after `acc` spell; anything but digits is refused. -/
def digits? (acc : Nat) : Text → Option Nat
  | [] => some acc
  | c :: rest => match digit? c with
    | some d => digits? (10 * acc + d) rest
    | none => none

/-- The number that a non-empty sequence of digits spells. -/
def natural? : Text → Option Nat
  | [] => none
  | t => digits? 0 t

/-- The number that digits with an optional sign spell. -/
def signed? : Text → Option Int
  | '-' :: t => (natural? t).map fun n => -(n : Int)
  | '+' :: t => (natural? t).map Int.ofNat
  | t => (natural? t).map Int.ofNat

/-- The least signed 64-bit integer. -/
def least : Int := -0x8000000000000000

/-- The greatest signed 64-bit integer. -/
def greatest : Int := 0x7fffffffffffffff

/-- Reads a signed 64-bit integer. -/
def read? (t : Text) : Option Int :=
  (signed? t).filter fun i => decide (least ≤ i ∧ i ≤ greatest)

/-- What is read lies within 64 bits. -/
theorem bounds_of_read? {t : Text} {i : Int} (h : read? t = some i) : least ≤ i ∧ i ≤ greatest := by
  simpa using (Option.filter_eq_some_iff.1 h).2

/-- Reads an unsigned 32-bit integer. A sign is allowed, so `-0` is zero. -/
def readCount? (t : Text) : Option Nat :=
  ((read? t).filter fun i => decide (0 ≤ i ∧ i < 0x100000000)).map Int.toNat

end TreeQuery.Integer
