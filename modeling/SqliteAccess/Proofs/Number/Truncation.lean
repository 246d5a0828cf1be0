import SqliteAccess.Proofs.Number.Pattern
import SqliteAccess.Proofs.Number.Saturation

/-!
# Integers of real numbers

The integer of a pattern is its number without the fraction, or the nearer end of the 64-bit
integers where the number lies at an end or beyond it. The upper end is no double precision number
itself. That makes no difference, because the numbers are compared with it as rational numbers.

Truncating leaves no integer between a number and its result. So an integer bound of the number is
one of the result, and from this the ends and the order of the results follow.

## Main results

* `Real64.le_truncate`, `Real64.truncate_le` : integer bounds are kept.
* `Real64.IsLe.toInt64_le` : the integers are in the order of the numbers.
* `Value.toInteger_real` : the integer of every pattern.
-/

namespace SqliteAccess

open Real64

namespace Real64

/-! ### Truncation and the ends -/

variable {n : Int} {q r : Rat}

/-- An integer below a number is below the truncated number. -/
theorem le_truncate (h : (n : Rat) ≤ q) : n ≤ truncate q := by
  rw [truncate]
  split_ifs
  · exact Int.le_floor.2 h
  · exact Int.cast_le.1 (h.trans (Int.le_ceil q))

/-- An integer above a number is above the truncated number. -/
theorem truncate_le (h : q ≤ n) : truncate q ≤ n := by
  rw [truncate]
  split_ifs
  · exact Int.cast_le.1 ((Int.floor_le q).trans h)
  · exact Int.ceil_le.2 h

/-- Truncating keeps the order: zero or one of the two results lies between the numbers. -/
theorem truncate_mono (h : q ≤ r) : truncate q ≤ truncate r := by
  by_cases hq : 0 ≤ q
  · refine le_truncate ?_
    rw [truncate_of_nonneg hq]
    exact (Int.floor_le q).trans h
  by_cases hr : 0 ≤ r
  · have hzero : truncate q ≤ 0 := truncate_le (by exact_mod_cast (not_le.1 hq).le)
    exact hzero.trans (le_truncate (by exact_mod_cast hr))
  · refine truncate_le ?_
    rw [truncate, if_neg hr]
    exact h.trans (Int.le_ceil r)

theorem saturate_mono {m k : Int} (h : m ≤ k) : saturate m ≤ saturate k :=
  max_le_max_left _ (min_le_min_left _ h)

theorem saturate_of_le (h : int64Max ≤ n) : saturate n = int64Max := by
  rw [saturate, min_eq_left h]
  rfl

theorem saturate_of_ge (h : n ≤ int64Min) : saturate n = int64Min :=
  max_eq_left ((min_le_right _ _).trans h)

/-! ### The order of the integers -/

/-- The integers of two numbers are in the order of the numbers. -/
theorem IsLe.toInt64_le {x y : Real64} (h : IsLe x y) : x.toInt64 ≤ y.toInt64 := by
  cases h with
  | below _ => exact (toInt64_bounds y).1
  | above _ => exact (toInt64_bounds x).2
  | finite hx hy h =>
    rw [toInt64_eq hx, toInt64_eq hy]
    exact saturate_mono (truncate_mono h)

end Real64

/-- **The integer of every pattern.** It is zero for what is no number, the end of the 64-bit
integers for a number at an end or beyond it, and the truncated number otherwise. So there is always
one, it has 64 bits, and a greater number has no smaller integer. -/
theorem Value.toInteger_real (x : Binary64) :
    ∃ k, (Value.real x).toInteger = .ok k ∧ IsInt64 k ∧
      (x.decode = .nan → k = 0) ∧
      (x.decode = .infinite false → k = int64Max) ∧
      (x.decode = .infinite true → k = int64Min) ∧
      (∀ q, x.decode.value? = some q →
        ((int64Max : Rat) ≤ q → k = int64Max) ∧ (q ≤ int64Min → k = int64Min) ∧
          (int64Min < q → q < int64Max → k = truncate q)) ∧
      ∀ y m, (Value.real y).toInteger = .ok m → x.decode.IsLe y.decode → k ≤ m := by
  refine ⟨x.decode.toInt64, rfl, toInt64_bounds _, fun h => ?_, fun h => ?_, fun h => ?_,
    fun q hq => ?_, fun y m hm h => ?_⟩
  · rw [h]
    rfl
  · rw [h]
    rfl
  · rw [h]
    rfl
  · rw [toInt64_eq hq]
    refine ⟨fun h => saturate_of_le (le_truncate h), fun h => saturate_of_ge (truncate_le h),
      fun hmin hmax => ?_⟩
    exact saturate_eq_self_iff.2 ⟨le_truncate hmin.le, truncate_le hmax.le⟩
  · obtain rfl := Except.ok.inj hm
    exact h.toInt64_le

/-- The last number below the upper end, the first one above it, and a negative subnormal one. -/
example :
    (Value.real ⟨0x43dfffffffffffff#64⟩).toInteger = .ok 9223372036854774784 ∧
      (Value.real ⟨0x43e0000000000000#64⟩).toInteger = .ok 9223372036854775807 ∧
      (Value.real ⟨0x8000000000000001#64⟩).toInteger = .ok 0 := by
  decide +kernel

end SqliteAccess
