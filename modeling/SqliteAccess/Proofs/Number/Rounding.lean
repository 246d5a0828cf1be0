import Mathlib.Algebra.Order.Field.Power
import Mathlib.Algebra.Order.Ring.Int
import Mathlib.Algebra.Ring.Int.Parity
import Mathlib.Data.Rat.Cast.Order
import Mathlib.Tactic.Linarith
import Mathlib.Tactic.Positivity
import Mathlib.Tactic.Ring
import SqliteAccess.Number.Significant
import SqliteAccess.Proofs.Number.Pattern

/-!
# Rounding to significant digits

A number is rounded to a count of significant digits by rounding it to an integer in the unit of the
last digit, which depends on the power of ten of its first digit. The integer is the nearest one,
and of two the even one.

Rounding keeps the order of numbers. Two numbers with the same first power of ten are rounded in the
same unit, and the nearest integers of two numbers are in their order. Otherwise a power of ten lies
between the numbers; it is a whole number of units on both sides, so that neither result passes it.
From this it follows that the result is determined by the number.

## Main definitions

* `Number.IsNearest` : the nearest integer, the even one of two.
* `Number.IsRounded` : a number rounded to significant digits.

## Main results

* `Number.IsNearest.le` : nearest integers are in the order of the numbers.
* `Number.IsRounded.le` : rounded numbers are in the order of the numbers.
* `Number.isRounded_significant` : the digits that are computed for a quotient.
-/

namespace SqliteAccess.Number

/-! ### The nearest integer -/

/-- The integer nearest to a number, the even one of two. -/
structure IsNearest (x : Rat) (n : Int) : Prop where
  abs_sub_le : |x - n| ≤ 1 / 2
  even_of_tie : |x - n| = 1 / 2 → Even n

namespace IsNearest

variable {x y : Rat} {m n : Int}

/-- Nearest integers are in the order of the numbers. If they were not, then both numbers would be
the middle between two integers, and both of these even. -/
theorem le (hx : IsNearest x m) (hy : IsNearest y n) (h : x ≤ y) : m ≤ n := by
  by_contra hlt
  have hstep : (n : Rat) + 1 ≤ m := by exact_mod_cast Int.add_one_le_iff.2 (not_le.1 hlt)
  have hlower : -(1 / 2) ≤ x - m := (abs_le.1 hx.abs_sub_le).1
  have hupper : y - n ≤ 1 / 2 := (abs_le.1 hy.abs_sub_le).2
  have hm : m = n + 1 := by
    have hcast : (m : Rat) = n + 1 := by linarith
    exact_mod_cast hcast
  have hevenm : Even m := by
    refine hx.even_of_tie ?_
    rw [abs_of_nonpos (by linarith)]
    linarith
  have hevenn : Even n := by
    refine hy.even_of_tie ?_
    rw [abs_of_nonneg (by linarith)]
    linarith
  rw [hm] at hevenm
  exact Int.even_add_one.1 hevenm hevenn

theorem neg (h : IsNearest x n) : IsNearest (-x) (-n) := by
  have habs : |-x - ((-n : Int) : Rat)| = |x - n| := by
    rw [Int.cast_neg, neg_sub_neg, abs_sub_comm]
  exact ⟨habs ▸ h.abs_sub_le, fun htie => (h.even_of_tie (habs ▸ htie)).neg⟩

theorem of_lt (h : |x - n| < 1 / 2) : IsNearest x n := ⟨h.le, fun htie => absurd htie h.ne⟩

/-- An integer is the nearest one to itself. -/
theorem intCast (n : Int) : IsNearest n n := by
  refine .of_lt ?_
  rw [sub_self, abs_zero]
  norm_num

end IsNearest

/-- A quotient is its whole part and the rest over the denominator. -/
theorem div_eq_add_mod_div (num : Nat) {den : Nat} (hden : 0 < den) :
    (num : Rat) / den = (num / den : Nat) + (num % den : Nat) / den := by
  have hpos : (0 : Rat) < den := Nat.cast_pos.2 hden
  have hdivision : (num : Rat) = den * (num / den : Nat) + (num % den : Nat) := by
    exact_mod_cast (Nat.div_add_mod num den).symm
  conv_lhs => rw [hdivision, add_div, mul_div_cancel_left₀ _ hpos.ne']

/-- The rounded quotient is the nearest integer. -/
theorem isNearest_roundQuotient (num : Nat) {den : Nat} (hden : 0 < den) :
    IsNearest ((num : Rat) / den) (roundQuotient num den) := by
  have hpos : (0 : Rat) < den := Nat.cast_pos.2 hden
  rw [div_eq_add_mod_div num hden, roundQuotient]
  set whole := num / den
  set rest := num % den
  have hnonneg : (0 : Rat) ≤ rest / den := by positivity
  have htwice : (rest : Rat) / den = (2 * rest : Nat) / den / 2 := by
    push_cast
    ring
  rcases lt_trichotomy (2 * rest) den with hlt | heq | hgt
  · have hhalf : (rest : Rat) / den < 1 / 2 := by
      have hone : ((2 * rest : Nat) : Rat) / den < 1 := (div_lt_one hpos).2 (by exact_mod_cast hlt)
      linarith
    rw [if_pos hlt]
    refine .of_lt ?_
    rwa [Int.cast_natCast, add_sub_cancel_left, abs_of_nonneg hnonneg]
  · have hhalf : (rest : Rat) / den = 1 / 2 := by
      rw [htwice, heq, div_self hpos.ne']
    have heven : Even ((whole + whole % 2 : Nat) : Int) :=
      Int.even_coe_nat _ |>.2 (Nat.even_iff.2 (by omega))
    have hdistance : |(whole : Rat) + 1 / 2 - ((whole + whole % 2 : Nat) : Int)| = 1 / 2 := by
      rcases Nat.mod_two_eq_zero_or_one whole with hparity | hparity
      · rw [hparity, Nat.add_zero, Int.cast_natCast, add_sub_cancel_left, abs_of_pos (by norm_num)]
      · rw [hparity, Int.cast_natCast, Nat.cast_succ, add_sub_add_left_eq_sub,
          abs_of_neg (by norm_num)]
        norm_num
    rw [if_neg heq.not_lt, if_neg heq.not_gt, hhalf]
    exact ⟨hdistance.le, fun _ => heven⟩
  · have hhalf : 1 / 2 < (rest : Rat) / den := by
      have hone : 1 < ((2 * rest : Nat) : Rat) / den := (one_lt_div hpos).2 (by exact_mod_cast hgt)
      linarith
    have hone : (rest : Rat) / den < 1 :=
      (div_lt_one hpos).2 (by exact_mod_cast Nat.mod_lt num hden)
    rw [if_neg hgt.not_gt, if_pos hgt]
    refine .of_lt ?_
    rw [Int.cast_natCast, Nat.cast_succ, add_sub_add_left_eq_sub, abs_of_neg (by linarith)]
    linarith

/-! ### Powers of ten -/

/-- The power of ten that is found for a quotient below one. -/
theorem tenfolds_spec {num den : Nat} (hnum : 0 < num) (h : num < den) :
    den ≤ num * 10 ^ tenfolds num den ∧ num * 10 ^ tenfolds num den < den * 10 := by
  induction num using tenfolds.induct den with
  | case1 num hstop => omega
  | case2 num hgo ih =>
    rw [tenfolds, if_neg hgo, Nat.pow_succ', ← Nat.mul_assoc]
    by_cases hlt : num * 10 < den
    · exact ih (by omega) hlt
    · have hzero : tenfolds (num * 10) den = 0 := by
        rw [tenfolds, if_pos (.inr (Nat.not_lt.1 hlt))]
      rw [hzero, Nat.pow_zero, Nat.mul_one]
      omega

/-- The decimal spelling of a positive number tells the powers of ten around it. -/
theorem pow_length_ofNat {n : Nat} (hn : 0 < n) :
    10 ^ ((Text.ofNat n).length - 1) ≤ n ∧ n < 10 ^ (Text.ofNat n).length := by
  have hpos : 0 < (Text.ofNat n).length := Nat.length_toDigits_pos
  refine ⟨?_, (Nat.length_toDigits_le_iff (by decide) hpos).1 le_rfl⟩
  rcases Nat.eq_zero_or_pos ((Text.ofNat n).length - 1) with hone | hmore
  · rwa [hone, Nat.pow_zero]
  · refine Nat.not_lt.1 fun hlt => ?_
    have hshort := (Nat.length_toDigits_le_iff (by decide) hmore).2 hlt
    rw [Text.ofNat] at hpos hshort
    omega

/-- The length of the decimal spelling of a number between two powers of ten. -/
theorem length_ofNat_eq {count n : Nat} (hfirst : 10 ^ (count - 1) ≤ n) (hlast : n < 10 ^ count) :
    (Text.ofNat n).length = count := by
  obtain ⟨hlower, hupper⟩ := pow_length_ofNat ((Nat.pow_pos (by decide)).trans_le hfirst)
  have hle := (Nat.pow_lt_pow_iff_right (by decide)).1 (hlower.trans_lt hlast)
  have hge := (Nat.pow_lt_pow_iff_right (by decide)).1 (hfirst.trans_lt hupper)
  omega

/-- The first digit of a positive quotient stands at its power of ten. -/
theorem leadingExponent_spec {num den : Nat} (hnum : 0 < num) (hden : 0 < den) :
    (10 : Rat) ^ leadingExponent num den ≤ num / den ∧
      (num : Rat) / den < 10 ^ (leadingExponent num den + 1) := by
  have hpos : (0 : Rat) < den := Nat.cast_pos.2 hden
  rw [le_div_iff₀ hpos, div_lt_iff₀ hpos, leadingExponent]
  split_ifs with h
  · have hwhole : 0 < num / den := Nat.div_pos h hden
    obtain ⟨hlower, hupper⟩ := pow_length_ofNat hwhole
    have hlength : 0 < (Text.ofNat (num / den)).length := Nat.length_toDigits_pos
    set digits := (Text.ofNat (num / den)).length
    have hexponent : (digits : Int) - 1 = (digits - 1 : Nat) := by omega
    rw [sub_add_cancel, hexponent, zpow_natCast, zpow_natCast]
    constructor
    · exact_mod_cast (Nat.le_div_iff_mul_le hden).1 hlower
    · exact_mod_cast (Nat.div_lt_iff_lt_mul hden).1 hupper
  · obtain ⟨hlower, hupper⟩ := tenfolds_spec hnum (Nat.not_le.1 h)
    set shift := tenfolds num den
    have hshift : (0 : Rat) < 10 ^ shift := by positivity
    rw [zpow_add_one₀ (by norm_num), zpow_neg, zpow_natCast, mul_assoc, inv_mul_le_iff₀ hshift,
      lt_inv_mul_iff₀ hshift, mul_comm _ (num : Rat), mul_comm 10]
    exact ⟨by exact_mod_cast hlower, by exact_mod_cast hupper⟩

/-! ### Significant digits -/

/-- A number rounded to `count` significant digits. The unit is that of the last digit, where the
first digit stands at the power of ten of the number. -/
inductive IsRounded (count : Nat) : Rat → Rat → Prop
  | zero : IsRounded count 0 0
  | digits {q : Rat} {e n : Int} (hlower : 10 ^ e ≤ |q|) (hupper : |q| < 10 ^ (e + 1))
      (hnearest : IsNearest (q / 10 ^ (e + 1 - count)) n) :
      IsRounded count q (n * 10 ^ (e + 1 - count))

namespace IsRounded

variable {count : Nat} {q q' r r' : Rat}

theorem neg (h : IsRounded count q r) : IsRounded count (-q) (-r) := by
  cases h with
  | zero =>
    rw [neg_zero]
    exact .zero
  | @digits _ e n hlower hupper hnearest =>
    have hneg : -((n : Rat) * 10 ^ (e + 1 - count : Int)) =
        ((-n : Int) : Rat) * 10 ^ (e + 1 - count : Int) := by
      rw [Int.cast_neg, neg_mul]
    rw [hneg]
    refine .digits (by rwa [abs_neg]) (by rwa [abs_neg]) ?_
    rw [neg_div]
    exact hnearest.neg

theorem eq_zero (h : IsRounded count 0 r) : r = 0 := by
  cases h with
  | zero => rfl
  | @digits _ e _ hlower =>
    have hpos : (0 : Rat) < 10 ^ e := by positivity
    rw [abs_zero] at hlower
    exact absurd hpos (not_lt.2 hlower)

theorem nonneg (h : IsRounded count q r) (hq : 0 ≤ q) : 0 ≤ r := by
  cases h with
  | zero => exact le_rfl
  | @digits _ e n _ _ hnearest =>
    have hunit : (0 : Rat) < 10 ^ (e + 1 - count : Int) := by positivity
    have hn : 0 ≤ n := (IsNearest.intCast 0).le hnearest (by simpa using div_nonneg hq hunit.le)
    exact mul_nonneg (Int.cast_nonneg hn) hunit.le

theorem nonpos (h : IsRounded count q r) (hq : q ≤ 0) : r ≤ 0 :=
  neg_nonneg.1 (h.neg.nonneg (neg_nonneg.2 hq))

end IsRounded

section Decade

variable {count : Nat} {q : Rat} {e n : Int}

/-- Units of a digit make up the power of ten of a digit in front of it. -/
theorem pow_mul_unit (k : Nat) (e : Int) : ((10 ^ k : Int) : Rat) * 10 ^ e = 10 ^ (e + k) := by
  rw [Int.cast_pow, ← zpow_natCast, mul_comm, zpow_add₀ (by norm_num)]
  norm_num

/-- A number between two powers of ten is rounded to as many digits as are asked for, or to the
upper power. -/
theorem IsNearest.digits_bounds (hcount : 0 < count)
    (hnearest : IsNearest (q / 10 ^ (e + 1 - count)) n) (hlower : 10 ^ e ≤ q)
    (hupper : q < 10 ^ (e + 1)) : 10 ^ (count - 1) ≤ n ∧ n ≤ 10 ^ count := by
  have hunit : (0 : Rat) < 10 ^ (e + 1 - count : Int) := by positivity
  constructor
  · refine (IsNearest.intCast _).le hnearest ((le_div_iff₀ hunit).2 ?_)
    have hexponent : e + 1 - count + (count - 1 : Nat) = e := by omega
    rwa [pow_mul_unit, hexponent]
  · refine hnearest.le (IsNearest.intCast _) ((div_le_iff₀ hunit).2 ?_)
    rw [pow_mul_unit, sub_add_cancel]
    exact hupper.le

/-- The powers of ten around a number are around the rounded number. -/
theorem IsNearest.decade_bounds (hcount : 0 < count)
    (hnearest : IsNearest (q / 10 ^ (e + 1 - count)) n) (hlower : 10 ^ e ≤ q)
    (hupper : q < 10 ^ (e + 1)) :
    10 ^ e ≤ (n : Rat) * 10 ^ (e + 1 - count) ∧
      (n : Rat) * 10 ^ (e + 1 - count) ≤ 10 ^ (e + 1) := by
  have hunit : (0 : Rat) < 10 ^ (e + 1 - count : Int) := by positivity
  obtain ⟨hfirst, hlast⟩ := hnearest.digits_bounds hcount hlower hupper
  have hexponent : e + 1 - count + (count - 1 : Nat) = e := by omega
  have hbelow := mul_le_mul_of_nonneg_right (Int.cast_le (R := Rat).2 hfirst) hunit.le
  have habove := mul_le_mul_of_nonneg_right (Int.cast_le (R := Rat).2 hlast) hunit.le
  rw [pow_mul_unit, hexponent] at hbelow
  rw [pow_mul_unit, sub_add_cancel] at habove
  exact ⟨hbelow, habove⟩

end Decade

namespace IsRounded

variable {count : Nat} {q q' r r' : Rat}

/-- Numbers that are not negative are rounded in their order. Either the unit is the same, or a
power of ten lies between the numbers. -/
theorem le_of_nonneg (hcount : 0 < count) (h : IsRounded count q r) (h' : IsRounded count q' r')
    (hq : 0 ≤ q) (hle : q ≤ q') : r ≤ r' := by
  have hten : (1 : Rat) ≤ 10 := by norm_num
  cases h with
  | zero => exact h'.nonneg hle
  | @digits _ e n hlower hupper hnearest =>
    cases h' with
    | zero =>
      obtain rfl := le_antisymm hle hq
      exact (IsRounded.digits hlower hupper hnearest).eq_zero.le
    | @digits _ e' n' hlower' hupper' hnearest' =>
      rw [abs_of_nonneg hq] at hlower hupper
      rw [abs_of_nonneg (hq.trans hle)] at hlower' hupper'
      rcases lt_trichotomy e e' with hlt | rfl | hgt
      · calc (n : Rat) * 10 ^ (e + 1 - count)
            ≤ 10 ^ (e + 1) := (hnearest.decade_bounds hcount hlower hupper).2
          _ ≤ 10 ^ e' := zpow_le_zpow_right₀ hten hlt
          _ ≤ n' * 10 ^ (e' + 1 - count) :=
            (hnearest'.decade_bounds hcount hlower' hupper').1
      · have hunit : (0 : Rat) ≤ 10 ^ (e + 1 - count : Int) := by positivity
        have hn : n ≤ n' := hnearest.le hnearest' (div_le_div_of_nonneg_right hle hunit)
        exact mul_le_mul_of_nonneg_right (Int.cast_le.2 hn) hunit
      · have hpow : (10 : Rat) ^ (e' + 1) ≤ 10 ^ e := zpow_le_zpow_right₀ hten hgt
        exact absurd (hlower.trans hle) (not_le.2 (hupper'.trans_le hpow))

/-- **Rounded numbers are in the order of the numbers.** -/
theorem le (hcount : 0 < count) (h : IsRounded count q r) (h' : IsRounded count q' r')
    (hle : q ≤ q') : r ≤ r' := by
  rcases le_total 0 q with hq | hq
  · exact h.le_of_nonneg hcount h' hq hle
  rcases le_total 0 q' with hq' | hq'
  · exact (h.nonpos hq).trans (h'.nonneg hq')
  · exact neg_le_neg_iff.1 (h'.neg.le_of_nonneg hcount h.neg (neg_nonneg.2 hq') (neg_le_neg hle))

theorem eq (hcount : 0 < count) (h : IsRounded count q r) (h' : IsRounded count q r') : r = r' :=
  le_antisymm (h.le hcount h' le_rfl) (h'.le hcount h le_rfl)

end IsRounded

/-- A quotient is brought to the unit of its last digit by whole powers of ten. -/
theorem cast_shifted_div (num den : Nat) (shift : Int) :
    ((num * Nat.pow 10 shift.toNat : Nat) : Rat) / (den * Nat.pow 10 (-shift).toNat : Nat) =
      num / den / 10 ^ (-shift) := by
  have hpow := pow_toNat_div_pow_toNat (b := 10) (by norm_num) shift
  rw [Nat.pow_eq, Nat.pow_eq, Nat.cast_mul, Nat.cast_mul, Nat.cast_pow, Nat.cast_pow,
    mul_div_mul_comm, Nat.cast_ofNat, hpow, zpow_neg, div_inv_eq_mul]

/-- A positive quotient is rounded to significant digits, of which the first is none of zero. -/
theorem isRounded_significant {count num den : Nat} (hcount : 0 < count) (hnum : 0 < num)
    (hden : 0 < den) :
    IsRounded count (num / den)
        ((significant count num den).1 * 10 ^ ((significant count num den).2 + 1 - count)) ∧
      10 ^ (count - 1) ≤ (significant count num den).1 ∧
      (significant count num den).1 < 10 ^ count := by
  obtain ⟨hlower, hupper⟩ := leadingExponent_spec hnum hden
  have hpositive : (0 : Rat) < num / den := by positivity
  set e := leadingExponent num den with he
  set shift : Int := count - 1 - e with hshift
  set n := roundQuotient (num * Nat.pow 10 shift.toNat) (den * Nat.pow 10 (-shift).toNat) with hn
  have hsignificant : significant count num den =
      if n = 10 ^ count then (10 ^ (count - 1), e + 1) else (n, e) := rfl
  have hnearest : IsNearest (num / den / 10 ^ (e + 1 - count)) n := by
    have hunit : -shift = e + 1 - count := by omega
    rw [← hunit, ← cast_shifted_div]
    exact isNearest_roundQuotient _ (Nat.mul_pos hden (Nat.pow_pos (by decide)))
  have hrounded : IsRounded count (num / den) ((n : Int) * 10 ^ (e + 1 - count)) :=
    .digits (by rwa [abs_of_pos hpositive]) (by rwa [abs_of_pos hpositive]) hnearest
  obtain ⟨hfirst, hlast⟩ := hnearest.digits_bounds hcount hlower hupper
  rw [hsignificant]
  split_ifs with hcarry
  · -- the carry into one more digit is a power of ten, which has fewer digits in a larger unit
    have hpower : ((n : Int) : Rat) * 10 ^ (e + 1 - count : Int) =
        ((10 ^ (count - 1) : Nat) : Rat) * 10 ^ (e + 1 + 1 - count : Int) := by
      have hexponent : e + 1 + 1 - count + (count - 1 : Nat) = e + 1 := by omega
      have hbelow := pow_mul_unit count (e + 1 - count)
      have habove := pow_mul_unit (count - 1) (e + 1 + 1 - count)
      rw [sub_add_cancel] at hbelow
      rw [hexponent, ← hbelow] at habove
      rw [hcarry]
      exact_mod_cast habove.symm
    exact ⟨hpower ▸ hrounded, le_rfl, Nat.pow_lt_pow_right (by decide) (by omega)⟩
  · refine ⟨by exact_mod_cast hrounded, by exact_mod_cast hfirst, lt_of_le_of_ne ?_ hcarry⟩
    exact_mod_cast hlast

end SqliteAccess.Number
