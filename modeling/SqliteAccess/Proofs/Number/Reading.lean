import Mathlib.Data.List.TakeWhile
import SqliteAccess.Value

/-!
# Reading spelled integers

The decimal spelling of an integer is read back as the integer, as long as it has no more digits
than are converted. So the cell of a value spells the integer of the value, with all of its digits
for an integer of 64 bits, and as far as the text spells one for a text or a blob. A real number is
the exception, since its cell rounds and its integer saturates.

## Main definitions

* `Value.SpellsInteger` : values whose cell spells their integer.

## Main results

* `Number.integerPrefix_ofInt` : an integer is read back from its spelling.
* `Value.integerOfCell_cell` : the integer of a value is that of its cell.
-/

namespace SqliteAccess

namespace Number

/-! ### Spelled integers -/

theorem isDigit_of_mem_ofNat {n : Nat} {c : Char} (hc : c ∈ Text.ofNat n) : c.isDigit = true :=
  Nat.isDigit_of_mem_toDigits (by decide) (by decide) hc

theorem takeWhile_ofNat (n : Nat) : (Text.ofNat n).takeWhile Char.isDigit = Text.ofNat n :=
  List.takeWhile_eq_self_iff.2 fun _ => isDigit_of_mem_ofNat

theorem ofDigits_ofNat (n : Nat) : ofDigits (Text.ofNat n) = n := Nat.ofDigitChars_ten_toDigits

theorem isNumberBlank_of_isDigit {c : Char} (hc : c.isDigit = true) :
    Text.isNumberBlank c = false := by
  by_contra hblank
  simp only [Text.isNumberBlank, Text.isLayout, Bool.not_eq_false, Bool.or_eq_true,
    decide_eq_true_eq] at hblank
  rcases hblank with rfl | (((rfl | rfl) | rfl) | rfl) | rfl <;> exact absurd hc (by decide)

/-- The spelling of a natural number starts with neither a blank nor a sign. -/
theorem splitSign_ofNat (n : Nat) :
    splitSign ((Text.ofNat n).dropWhile Text.isNumberBlank) = (false, Text.ofNat n) := by
  obtain ⟨c, rest, hdigits⟩ := List.exists_cons_of_ne_nil (Nat.toDigits_ne_nil (n := n) (b := 10))
  have hspelling : Text.ofNat n = c :: rest := hdigits
  have hc : c.isDigit = true := isDigit_of_mem_ofNat (hspelling ▸ List.mem_cons_self)
  rw [hspelling, List.dropWhile_cons_of_neg (by simp [isNumberBlank_of_isDigit hc])]
  unfold splitSign
  split
  · exact absurd hc (by simp_all)
  · exact absurd hc (by simp_all)
  · rfl

/-- The sign of a spelled integer is read, and the digits behind it. -/
theorem splitSign_ofInt (n : Int) :
    splitSign ((Text.ofInt n).dropWhile Text.isNumberBlank) =
      (decide (n < 0), Text.ofNat n.natAbs) := by
  cases n with
  | ofNat n =>
    have hneg : ¬(Int.ofNat n < 0) := Int.not_lt.2 (Int.natCast_nonneg n)
    rw [decide_eq_false hneg]
    exact splitSign_ofNat n
  | negSucc n =>
    rw [decide_eq_true (Int.negSucc_lt_zero n), Text.ofInt,
      List.dropWhile_cons_of_neg (by decide), splitSign, Int.natAbs_negSucc]

/-- An integer is read back from its spelling, unless that has too many digits. -/
theorem integerPrefix_ofInt {n : Int} (h : (Text.ofNat n.natAbs).length ≤ digitLimit) :
    integerPrefix (Text.ofInt n) = .ok n := by
  simp only [integerPrefix, splitSign_ofInt, takeWhile_ofNat, if_neg (Nat.not_lt.2 h),
    ofDigits_ofNat]
  congr 1
  split_ifs with hneg <;> simp at hneg <;> omega

end Number

namespace Value

/-- Values whose cell spells their integer: all but real numbers and integers of more than 64
bits. -/
def SpellsInteger : Value → Prop
  | integer n => Real64.int64Min ≤ n ∧ n ≤ Real64.int64Max
  | real _ => False
  | null | boolean _ | text _ | blob _ _ => True

/-- The integer of a value is that of its cell. -/
theorem integerOfCell_cell {v : Value} (h : v.SpellsInteger) :
    Number.integerOfCell v.cell = v.toInteger := by
  cases v with
  | null => rfl
  | boolean b => cases b <;> rfl
  | integer n =>
    obtain ⟨hmin, hmax⟩ := h
    simp only [Real64.int64Min, Real64.int64Max] at hmin hmax
    have hlength : (Text.ofNat n.natAbs).length ≤ 19 :=
      (Nat.length_toDigits_le_iff (by decide) (by decide)).2 (by omega)
    exact Number.integerPrefix_ofInt (hlength.trans (by decide))
  | real x => exact h.elim
  | text t => rfl
  | blob form bytes => rfl

end Value

end SqliteAccess
