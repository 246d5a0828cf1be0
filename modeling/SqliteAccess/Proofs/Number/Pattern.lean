import Mathlib.Algebra.Order.Field.Power
import Mathlib.Data.Rat.Cast.Order
import Mathlib.Tactic.Ring
import SqliteAccess.Number.Binary64

/-!
# What a pattern stands for

A pattern of 64 bits is a sign, an exponent and a fraction, and stands for the rational number that
these spell, for an infinity, or for no number at all. Decoding keeps the number as a quotient of
natural numbers. Here it is compared with the formula of the format.

## Main definitions

* `Binary64.exponentField`, `Binary64.fractionField` : the fields of a pattern beside its sign.
* `Real64.IsLe` : the order of the numbers, infinities included.

## Main results

* `Binary64.decode_of_exponentField_eq` : the patterns of infinities and of what is no number.
* `Binary64.value?_decode` : the rational numbers of all other patterns.
-/

namespace SqliteAccess

/-- An integral power as a quotient of natural ones. -/
theorem pow_toNat_div_pow_toNat {b : Rat} (hb : b ≠ 0) (e : Int) :
    b ^ e.toNat / b ^ (-e).toNat = b ^ e := by
  rw [← zpow_natCast, ← zpow_natCast, ← zpow_sub₀ hb]
  congr 1
  omega

open Real64

/-! ### The fields of a pattern -/

namespace Binary64

variable (x : Binary64)

/-- The eleven bits of the exponent, as a number. -/
def exponentField : Nat := (x.bits.extractLsb' 52 11).toNat

/-- The fifty-two bits of the fraction, as a number. -/
def fractionField : Nat := (x.bits.extractLsb' 0 52).toNat

/-- The fields are what decoding looks at. -/
theorem decode_eq :
    x.decode =
      if x.exponentField = 2047 then
        if x.fractionField = 0 then .infinite x.bits.msb else .nan
      else if x.exponentField = 0 then .finite x.bits.msb x.fractionField (-1074)
      else .finite x.bits.msb (2 ^ 52 + x.fractionField) ((x.exponentField : Int) - 1075) := by
  simp [decode, exponentField, fractionField, BitVec.msb_eq_decide, Nat.shiftRight_eq_div_pow]

/-- Patterns with the largest exponent are infinities and no numbers. -/
theorem decode_of_exponentField_eq (h : x.exponentField = 2047) :
    x.decode = if x.fractionField = 0 then .infinite x.bits.msb else .nan := by
  rw [decode_eq, if_pos h]

end Binary64

namespace Real64

theorem magnitude_eq (significand : Nat) (exponent : Int) :
    magnitude significand exponent = significand * (2 : Rat) ^ exponent := by
  rw [← pow_toNat_div_pow_toNat two_ne_zero exponent, ← mul_div_assoc]
  simp [magnitude, numerator, denominator]

end Real64

/-- All other patterns stand for a rational number. The fraction counts in units of `2 ^ (-52)`, and
behind the smallest exponent there is no leading one. -/
theorem Binary64.value?_decode (x : Binary64) (h : x.exponentField ≠ 2047) :
    x.decode.value? =
      some ((if x.bits.msb then -1 else 1) * 2 ^ (max (x.exponentField : Int) 1 - 1023) *
        ((if x.exponentField = 0 then 0 else 1) + (x.fractionField : Rat) / 2 ^ 52)) := by
  have hsign (q : Rat) : (if x.bits.msb then -q else q) = (if x.bits.msb then -1 else 1) * q := by
    split_ifs <;> simp
  -- the units of the significand are those of the fraction
  have hunit (e : Int) : (2 : Rat) ^ (e - 1075) = 2 ^ (e - 1023) / 2 ^ 52 := by
    rw [← zpow_natCast, ← zpow_sub₀ two_ne_zero]
    congr 1
    omega
  rw [x.decode_eq, if_neg h]
  by_cases hzero : x.exponentField = 0
  · have hexponent : max (x.exponentField : Int) 1 = 1 := by omega
    have hsmallest : (-1074 : Int) = 1 - 1075 := by decide
    rw [if_pos hzero, value?, hsign, magnitude_eq, if_pos hzero, hexponent, hsmallest, hunit]
    exact congrArg some (by ring)
  · have hexponent : max (x.exponentField : Int) 1 = x.exponentField := by omega
    rw [if_neg hzero, value?, hsign, magnitude_eq, if_neg hzero, hexponent, hunit]
    push_cast
    exact congrArg some (by ring)

/-! ### The order of the numbers -/

/-- The order of the numbers. What is no number is not comparable, and both zeros are equal. -/
inductive Real64.IsLe : Real64 → Real64 → Prop
  | below {y : Real64} (hy : y ≠ nan) : IsLe (infinite true) y
  | above {x : Real64} (hx : x ≠ nan) : IsLe x (infinite false)
  | finite {x y : Real64} {q r : Rat} (hx : x.value? = some q) (hy : y.value? = some r)
    (h : q ≤ r) : IsLe x y

end SqliteAccess
