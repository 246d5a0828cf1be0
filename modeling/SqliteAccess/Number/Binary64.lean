import SqliteAccess.Text.Basic

/-!
# Double precision numbers

A double precision number is a pattern of 64 bits. The pattern is decoded exactly: a finite number
is a natural significand times a power of two, with a sign that zero has too, and so it has a
rational number as its value.

## Main definitions

* `Binary64` : the pattern.
* `Real64` : what a pattern stands for.
* `Binary64.decode` : the number of a pattern.
* `Real64.numerator`, `Real64.denominator` : the magnitude of a finite number as a quotient.
* `Real64.magnitude`, `Real64.value?` : the exact value of a finite number.
* `Real64.toInt64` : the 64-bit integer nearest to a number from the side of zero.
-/

namespace SqliteAccess

/-- A pattern of 64 bits that stands for a double precision number. -/
structure Binary64 where
  /-- The sign, eleven bits of exponent, and fifty-two bits of fraction. -/
  bits : BitVec 64
  deriving DecidableEq

/-- What a pattern stands for. A finite number has the magnitude `significand * 2 ^ exponent`. -/
inductive Real64
  | nan
  | infinite (negative : Bool)
  | finite (negative : Bool) (significand : Nat) (exponent : Int)
  deriving DecidableEq

/-- The number that a pattern stands for. -/
def Binary64.decode (x : Binary64) : Real64 :=
  let pattern := x.bits.toNat
  let negative : Bool := Nat.pow 2 63 ≤ pattern
  let exponent : Nat := pattern / Nat.pow 2 52 % Nat.pow 2 11
  let fraction : Nat := pattern % Nat.pow 2 52
  if exponent = 2047 then if fraction = 0 then .infinite negative else .nan
  else if exponent = 0 then .finite negative fraction (-1074)
  else .finite negative (Nat.pow 2 52 + fraction) ((exponent : Int) - 1075)

namespace Real64

/-- The numerator of the magnitude `significand * 2 ^ exponent`. -/
def numerator (significand : Nat) (exponent : Int) : Nat := significand * Nat.pow 2 exponent.toNat

/-- The denominator of the magnitude `significand * 2 ^ exponent`. -/
def denominator (exponent : Int) : Nat := Nat.pow 2 (-exponent).toNat

theorem denominator_pos (exponent : Int) : 0 < denominator exponent := Nat.two_pow_pos _

/-! ### The exact value -/

/-- The magnitude `significand * 2 ^ exponent` as a rational number. -/
def magnitude (significand : Nat) (exponent : Int) : Rat :=
  (numerator significand exponent : Rat) / (denominator exponent : Rat)

/-- The value of a finite number. Both zeros have the value zero. -/
def value? : Real64 → Option Rat
  | nan => none
  | infinite _ => none
  | finite negative significand exponent =>
    some (if negative then -magnitude significand exponent else magnitude significand exponent)

/-- Infinities and the value that is no number have no value, every other number has one. -/
theorem value?_isSome (x : Real64) : x.value?.isSome = true ↔ ∃ n s e, x = finite n s e := by
  cases x <;> simp [value?]

/-! ### The nearest integer -/

/-- The largest 64-bit integer. -/
def int64Max : Int := 9223372036854775807

/-- The smallest 64-bit integer. -/
def int64Min : Int := -9223372036854775808

/-- The nearest 64-bit integer of an integer. -/
def saturate (n : Int) : Int := max int64Min (min int64Max n)

/-- The number without its fraction, saturated at the ends of the 64-bit integers. A number that is
none counts as zero. -/
def toInt64 : Real64 → Int
  | nan => 0
  | infinite negative => if negative then int64Min else int64Max
  | finite negative significand exponent =>
    let magnitude := numerator significand exponent / denominator exponent
    saturate (if negative then -(magnitude : Int) else magnitude)

theorem saturate_bounds (n : Int) : int64Min ≤ saturate n ∧ saturate n ≤ int64Max := by
  simp only [saturate, int64Min, int64Max]
  omega

/-- The result is a 64-bit integer. -/
theorem toInt64_bounds (x : Real64) : int64Min ≤ x.toInt64 ∧ x.toInt64 ≤ int64Max := by
  cases x with
  | nan => decide
  | infinite negative => cases negative <;> decide
  | finite negative significand exponent => exact saturate_bounds _

end Real64

end SqliteAccess
