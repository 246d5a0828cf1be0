import SqliteAccess.Proofs.Number.Decimal
import SqliteAccess.Proofs.Number.Rounding
import SqliteAccess.Proofs.Number.Saturation
import SqliteAccess.Value

/-!
# The text of a real number

A finite real number is written as a decimal fraction that stands for the number rounded to fifteen
significant digits. There are three layouts, for small, for moderate and for large numbers, and in
each of them the zeros at the end of the fraction are left out. All layouts put a point into the
same digits, which is what their value depends on, and a fraction that would be empty is a zero.

The point distinguishes a finite real number in a cell from whatever is written without one: from
integers and truth values, and from the real numbers that are not finite.

## Main definitions

* `Number.Exponent.ofInt` : the exponent that is written for a power of ten.
* `Real64.pointed` : digits around a point, as they are written.

## Main results

* `Real64.exists_magnitude_digitsText` : the value of digits in the layout of their exponent.
* `Real64.exists_decimal_text` : a finite number is written as its rounded value.
* `Value.cell_real` : the cell of a finite real number.
-/

namespace SqliteAccess

namespace Number

/-! ### The parts of a decimal fraction that are written -/

theorem positional_ofNat (n : Nat) : positional (Text.ofNat n) = n := by
  rw [← ofDigits_eq, ofDigits_ofNat]

theorem isDigit_of_mem_zeros_append {digits : Text} (h : ∀ c ∈ digits, c.isDigit = true)
    (count : Nat) : ∀ c ∈ List.replicate count '0' ++ digits, c.isDigit = true := by
  intro c hc
  rcases List.mem_append.1 hc with hzero | hdigit
  · rw [List.eq_of_mem_replicate hzero]
    decide
  · exact h c hdigit

/-- An exponent, filled with zeros up to two digits. -/
def Exponent.ofInt (e : Int) : Exponent where
  negative := decide (e < 0)
  digits := List.replicate (2 - (Text.ofNat e.natAbs).length) '0' ++ Text.ofNat e.natAbs
  two_le_length := by
    rw [List.length_append, List.length_replicate]
    omega
  isDigit_of_mem := isDigit_of_mem_zeros_append (fun _ => isDigit_of_mem_ofNat) _

theorem Exponent.text_ofInt (e : Int) : (ofInt e).text = Real64.exponentText e := by
  simp [text, ofInt, Real64.exponentText]

theorem Exponent.value_ofInt (e : Int) : (ofInt e).value = e := by
  rw [value, ofInt, positional_zeros_append, positional_ofNat]
  simp only [decide_eq_true_eq]
  split_ifs <;> omega

end Number

namespace Real64

open Number

/-- The digits that are written behind a point. -/
def fractionDigits (digits : Text) : Text :=
  if (trimZeros digits).isEmpty then ['0'] else trimZeros digits

/-- Only zeros are left out. -/
theorem exists_trimZeros_append_eq (digits : Text) :
    ∃ count, trimZeros digits ++ List.replicate count '0' = digits := by
  have hzeros : digits.reverse.takeWhile (· = '0') =
      List.replicate (digits.reverse.takeWhile (· = '0')).length '0' :=
    List.eq_replicate_of_mem fun c hc => by simpa using List.mem_takeWhile_imp hc
  refine ⟨(digits.reverse.takeWhile (· = '0')).length, ?_⟩
  rw [← List.reverse_replicate, ← hzeros, trimZeros, Text.trimRight, ← List.reverse_append,
    List.takeWhile_append_dropWhile, List.reverse_reverse]

theorem fractionDigits_ne_nil (digits : Text) : fractionDigits digits ≠ [] := by
  rw [fractionDigits]
  split_ifs with hempty
  · exact List.cons_ne_nil _ _
  · exact fun hnil => hempty (List.isEmpty_iff.2 hnil)

theorem isDigit_of_mem_fractionDigits {digits : Text} (h : ∀ c ∈ digits, c.isDigit = true) :
    ∀ c ∈ fractionDigits digits, c.isDigit = true := by
  intro c hc
  rw [fractionDigits] at hc
  split_ifs at hc
  · rw [List.mem_singleton.1 hc]
    decide
  · obtain ⟨count, happend⟩ := exists_trimZeros_append_eq digits
    exact h c (happend ▸ List.mem_append_left _ hc)

/-- The digits behind a point keep their value. -/
theorem fractional_fractionDigits (digits : Text) :
    fractional (fractionDigits digits) = fractional digits := by
  obtain ⟨count, happend⟩ := exists_trimZeros_append_eq digits
  have htrimmed : fractional (trimZeros digits) = fractional digits := by
    conv_rhs => rw [← happend, fractional_append_zeros]
  rw [fractionDigits, ← htrimmed]
  split_ifs with hempty
  · rw [List.isEmpty_iff.1 hempty]
    exact fractional_append_zeros [] 1
  · rfl

/-! ### Digits with a point -/

/-- Digits around a point, as they are written. -/
def pointed (front back : Text) (exponent? : Option Exponent) (hfront : front ≠ [])
    (hdigits : ∀ c ∈ front ++ back, c.isDigit = true) : Magnitude where
  whole := front
  fraction := fractionDigits back
  exponent? := exponent?
  whole_ne_nil := hfront
  fraction_ne_nil := fractionDigits_ne_nil back
  isDigit_of_mem_whole c hc := hdigits c (List.mem_append_left _ hc)
  isDigit_of_mem_fraction :=
    isDigit_of_mem_fractionDigits fun c hc => hdigits c (List.mem_append_right _ hc)

/-- Digits are written with a point between them. Zeros in front of the digits do not change what
they stand for, and the place of the point counts like an exponent. -/
theorem exists_magnitude_pointed {digits front back : Text} (count : Nat)
    (happend : front ++ back = List.replicate count '0' ++ digits) (hfront : front ≠ [])
    (hdigits : ∀ c ∈ digits, c.isDigit = true) (exponent? : Option Exponent) :
    ∃ m : Magnitude, m.text = front ++ fractionText back ++ exponent?.elim [] Exponent.text ∧
      m.value = positional digits * 10 ^ (exponent?.elim 0 Exponent.value - back.length : Int) := by
  have hall : ∀ c ∈ front ++ back, c.isDigit = true :=
    happend ▸ isDigit_of_mem_zeros_append hdigits count
  refine ⟨pointed front back exponent? hfront hall, ?_, ?_⟩
  · rw [List.append_assoc]
    rfl
  · calc (pointed front back exponent? hfront hall).value
        = (positional front + fractional (fractionDigits back)) *
            10 ^ exponent?.elim 0 Exponent.value := rfl
      _ = positional digits / 10 ^ back.length * 10 ^ exponent?.elim 0 Exponent.value := by
        rw [fractional_fractionDigits, positional_add_fractional, happend, positional_zeros_append]
      _ = positional digits * 10 ^ (exponent?.elim 0 Exponent.value - back.length : Int) := by
        rw [zpow_sub₀ (by norm_num), zpow_natCast, div_mul_eq_mul_div, mul_div_assoc]

/-- Digits are written in the layout of their exponent. -/
theorem exists_magnitude_digitsText {digits : Text} (e : Int)
    (hlength : digits.length = digitCount) (hdigits : ∀ c ∈ digits, c.isDigit = true) :
    ∃ m : Magnitude, m.text = digitsText digits e ∧
      m.value = positional digits * 10 ^ (e + 1 - digitCount) := by
  have htake {count : Nat} (hcount : 0 < count) : digits.take count ≠ [] := by
    rw [Ne, List.take_eq_nil_iff, ← List.length_eq_zero_iff, hlength, digitCount]
    omega
  rw [digitsText]
  rw [digitCount] at hlength ⊢
  split_ifs with hexponent hsmall
  · obtain ⟨m, htext, hvalue⟩ := exists_magnitude_pointed 0 (List.take_append_drop 1 digits)
      (htake one_pos) hdigits (some (.ofInt e))
    refine ⟨m, ?_, ?_⟩
    · rw [htext, Option.elim_some, Exponent.text_ofInt]
    · rw [hvalue, Option.elim_some, Exponent.value_ofInt, List.length_drop, hlength]
      congr 2
      omega
  · -- the zero in front of the point is one of the zeros in front of the digits
    set zeros := List.replicate ((-e).toNat - 1) '0' with hzeros
    have hleading : ['0'] ++ (zeros ++ digits) =
        List.replicate ((-e).toNat - 1 + 1) '0' ++ digits := rfl
    obtain ⟨m, htext, hvalue⟩ :=
      exists_magnitude_pointed _ hleading (List.cons_ne_nil _ _) hdigits none
    refine ⟨m, ?_, ?_⟩
    · rw [htext, Option.elim_none, List.append_nil]
      rfl
    · rw [hvalue, Option.elim_none, List.length_append, hlength, hzeros, List.length_replicate]
      congr 2
      omega
  · obtain ⟨m, htext, hvalue⟩ :=
      exists_magnitude_pointed 0 (List.take_append_drop (e.toNat + 1) digits)
        (htake e.toNat.succ_pos) hdigits none
    refine ⟨m, ?_, ?_⟩
    · rw [htext, Option.elim_none, List.append_nil]
    · rw [hvalue, Option.elim_none, List.length_drop, hlength]
      congr 2
      omega

/-! ### Numbers -/

/-- A magnitude is written as its rounded value. -/
theorem exists_magnitude_magnitudeText (significand : Nat) (exponent : Int) :
    ∃ m : Magnitude, m.text = magnitudeText significand exponent ∧
      IsRounded digitCount (magnitude significand exponent) m.value := by
  rw [magnitudeText]
  split_ifs with hzero
  · obtain ⟨m, htext, hvalue⟩ := exists_magnitude_pointed 0 (List.append_nil ['0'])
      (List.cons_ne_nil _ _) (List.forall_mem_singleton.2 (by decide)) none
    have hpositional : positional ['0'] = 0 := rfl
    refine ⟨m, htext, ?_⟩
    rw [hvalue, hpositional, Nat.cast_zero, zero_mul, hzero, magnitude_eq, Nat.cast_zero, zero_mul]
    exact .zero
  · have hnum : 0 < numerator significand exponent :=
      Nat.mul_pos (Nat.pos_of_ne_zero hzero) (Nat.two_pow_pos _)
    have hcount : 0 < digitCount := by decide
    obtain ⟨hrounded, hfirst, hlast⟩ :=
      isRounded_significant hcount hnum (denominator_pos exponent)
    set coefficient := (significant digitCount (numerator significand exponent)
      (denominator exponent)).1
    set leading := (significant digitCount (numerator significand exponent)
      (denominator exponent)).2
    have hlength : (Text.ofNat coefficient).length = digitCount :=
      length_ofNat_eq hfirst hlast
    obtain ⟨m, htext, hvalue⟩ :=
      exists_magnitude_digitsText leading hlength fun _ => isDigit_of_mem_ofNat
    refine ⟨m, htext, ?_⟩
    rw [hvalue, positional_ofNat]
    exact hrounded

/-- A finite number is written as its rounded value. -/
theorem exists_decimal_text {x : Real64} {q : Rat} (h : x.value? = some q) :
    ∃ d : Decimal, d.text = x.text ∧ IsRounded digitCount q d.value := by
  obtain ⟨negative, significand, exponent, rfl⟩ :=
    (value?_isSome x).1 (Option.isSome_iff_exists.2 ⟨q, h⟩)
  obtain ⟨m, htext, hrounded⟩ := exists_magnitude_magnitudeText significand exponent
  refine ⟨⟨negative, m⟩, congrArg _ htext, ?_⟩
  rw [value?, Option.some_inj] at h
  rw [← h, Decimal.value]
  cases negative with
  | false => exact hrounded
  | true => exact hrounded.neg

/-- A number that is not finite is written without a point. -/
theorem text_of_value?_eq_none {x : Real64} (h : x.value? = none) :
    x.text ∈ ["Inf".toList, "-Inf".toList, "nan".toList] := by
  cases x with
  | nan => decide
  | infinite negative => cases negative <;> decide
  | finite => exact absurd h (Option.some_ne_none _)

end Real64

/-! ### Cells -/

namespace Number

theorem dot_not_mem_ofNat (n : Nat) : '.' ∉ Text.ofNat n := fun hdot =>
  absurd (isDigit_of_mem_ofNat hdot) (by decide)

theorem dot_not_mem_ofInt (n : Int) : '.' ∉ Text.ofInt n := by
  cases n with
  | ofNat n => exact dot_not_mem_ofNat n
  | negSucc n => exact List.not_mem_cons_of_ne_of_not_mem (by decide) (dot_not_mem_ofNat _)

end Number

namespace Value

open Number

/-- **The cell of a finite real number is one decimal fraction.** It has one point and stands for
the number rounded to fifteen significant digits, so that the values of cells are in the order of
the numbers. It is the cell of no integer, of no truth value and of no real number that is not
finite. -/
theorem cell_real {x : Binary64} {q : Rat} (h : x.decode.value? = some q) :
    ∃ d : Decimal, (real x).cell = some d.text ∧ d.text.count '.' = 1 ∧
      (∀ d' : Decimal, d'.text = d.text → d' = d) ∧
      IsRounded 15 q d.value ∧ (∀ r, IsRounded 15 q r → r = d.value) ∧
      (∀ (y : Binary64) (q' : Rat) (d' : Decimal), y.decode.value? = some q' → q ≤ q' →
        (real y).cell = some d'.text → d.value ≤ d'.value) ∧
      (∀ n, (integer n).cell ≠ (real x).cell) ∧ (∀ b, (boolean b).cell ≠ (real x).cell) ∧
      ∀ y : Binary64, y.decode.value? = none →
        (real y).cell ∈ ["Inf".toList, "-Inf".toList, "nan".toList].map some ∧
          (real y).cell ≠ (real x).cell := by
  obtain ⟨d, htext, hrounded⟩ := Real64.exists_decimal_text h
  have hcell : (real x).cell = some d.text := congrArg some htext.symm
  have hdot {text : Text} (hnone : '.' ∉ text) : some text ≠ (real x).cell := by
    intro heq
    obtain rfl := Option.some.inj (heq.trans hcell)
    exact hnone (List.count_pos_iff.1 (d.count_dot ▸ one_pos))
  refine ⟨d, hcell, d.count_dot, fun _ => Decimal.text_injective, hrounded, fun r hr => ?_, ?_,
    fun n => hdot (dot_not_mem_ofInt n), fun b => hdot (dot_not_mem_ofNat _), fun y hy => ?_⟩
  · exact hr.eq (by decide) hrounded
  · intro y q' d' hy hle hcell'
    obtain ⟨e, htext', hrounded'⟩ := Real64.exists_decimal_text hy
    obtain rfl : d' = e :=
      Decimal.text_injective (Option.some.inj (hcell'.symm.trans (congrArg some htext'.symm)))
    exact hrounded.le (by decide) hrounded' hle
  · have hspecial := Real64.text_of_value?_eq_none hy
    refine ⟨List.mem_map_of_mem hspecial, hdot ?_⟩
    have hnone : ∀ text ∈ ["Inf".toList, "-Inf".toList, "nan".toList], '.' ∉ text := by decide
    exact hnone _ hspecial

/-- Fifteen nines and a half go to the even neighbour. The carry runs through all digits, and the
larger exponent calls for another layout. -/
theorem cell_real_carry :
    (real ⟨0x430c6bf52633fffc⟩).cell = some "1.0e+15".toList ∧
      ∃ d : Decimal, (real ⟨0x430c6bf52633fffc⟩).cell = some d.text ∧
        IsRounded 15 (1999999999999999 / 2) d.value := by
  have hvalue : (Binary64.mk 0x430c6bf52633fffc).decode.value? = some (1999999999999999 / 2) := by
    decide +kernel
  obtain ⟨d, hcell, -, -, hrounded, -⟩ := cell_real hvalue
  exact ⟨by decide +kernel, d, hcell, hrounded⟩

end Value

end SqliteAccess
