import Mathlib.Data.Rat.Floor
import SqliteAccess.Proofs.Number.Prefix

/-!
# The 64-bit integer of a value

A database has a 64-bit integer for every value: a real number loses its fraction, and what lies
beyond the ends of the 64-bit integers becomes the nearest end, for a real number as for the
numeral of a text. The integer that is computed for a value is that one for all values but texts
and blobs whose numeral lies beyond the ends. Those give the numeral as it is, since only real
numbers saturate.

## Main definitions

* `Real64.IsInt64` : the integers of 64 bits.
* `Real64.truncate` : a rational number without its fraction.
* `Value.HasInt64` : the 64-bit integer of a value.
* `Value.Overflows` : texts and blobs whose numeral is no 64-bit integer.

## Main results

* `Real64.toInt64_eq` : a finite number is truncated and saturates.
* `Value.isInt64_toInteger_iff` : which values give a 64-bit integer.
-/

namespace SqliteAccess

namespace Real64

/-- The integers of 64 bits. -/
def IsInt64 (k : Int) : Prop := int64Min ≤ k ∧ k ≤ int64Max

instance (k : Int) : Decidable (IsInt64 k) := inferInstanceAs (Decidable (_ ∧ _))

theorem saturate_eq_self_iff {k : Int} : saturate k = k ↔ IsInt64 k := by
  rw [saturate, IsInt64, int64Min, int64Max]
  omega

/-! ### Real numbers -/

/-- A rational number without its fraction. -/
def truncate (q : Rat) : Int := if 0 ≤ q then ⌊q⌋ else ⌈q⌉

theorem truncate_of_nonneg {q : Rat} (h : 0 ≤ q) : truncate q = ⌊q⌋ := if_pos h

/-- The fraction is left out on both sides of zero alike. -/
theorem truncate_neg {q : Rat} (h : 0 ≤ q) : truncate (-q) = -⌊q⌋ := by
  rw [truncate]
  split_ifs with hneg
  · have hzero : q = 0 := le_antisymm (neg_nonneg.1 hneg) h
    simp [hzero]
  · exact Int.ceil_neg

theorem magnitude_nonneg (significand : Nat) (exponent : Int) :
    0 ≤ magnitude significand exponent :=
  div_nonneg (Nat.cast_nonneg _) (Nat.cast_nonneg _)

theorem floor_magnitude (significand : Nat) (exponent : Int) :
    ⌊magnitude significand exponent⌋ = numerator significand exponent / denominator exponent :=
  Rat.floor_natCast_div_natCast _ _

/-- A finite number is truncated and saturates. -/
theorem toInt64_eq {x : Real64} {q : Rat} (h : x.value? = some q) :
    x.toInt64 = saturate (truncate q) := by
  cases x with
  | nan => exact nomatch h
  | infinite negative => exact nomatch h
  | finite negative significand exponent =>
    obtain rfl := Option.some.inj h
    have hnonneg := magnitude_nonneg significand exponent
    cases negative with
    | false =>
      rw [if_neg Bool.false_ne_true, truncate_of_nonneg hnonneg, floor_magnitude]
      rfl
    | true =>
      rw [if_pos rfl, truncate_neg hnonneg, floor_magnitude]
      rfl

end Real64

namespace Value

open Number (Numeral digitLimit)
open Real64 (IsInt64 int64Min int64Max saturate saturate_bounds truncate)

/-! ### Integers of values -/

/-- The values that a database stores: its integers have 64 bits. -/
def IsStored : Value → Prop
  | integer n => IsInt64 n
  | null | boolean _ | real _ | text _ | blob _ _ => True

/-- The text of a value that is read as a numeral. -/
def spelled : Value → Option Text
  | text value => some value
  | blob _ bytes => some (Text.ofUtf8 bytes)
  | null | boolean _ | integer _ | real _ => none

/-- The 64-bit integer that a database has for a value. -/
inductive HasInt64 : Value → Int → Prop
  | null : HasInt64 null 0
  | boolean (b : Bool) : HasInt64 (boolean b) b.toNat
  | integer (n : Int) : HasInt64 (integer n) n
  | nan {x : Binary64} (h : x.decode = .nan) : HasInt64 (real x) 0
  | above {x : Binary64} (h : x.decode = .infinite false) : HasInt64 (real x) int64Max
  | below {x : Binary64} (h : x.decode = .infinite true) : HasInt64 (real x) int64Min
  | finite {x : Binary64} {q : Rat} (h : x.decode.value? = some q) :
    HasInt64 (real x) (saturate (truncate q))
  | spelled {v : Value} {text : Text} (h : v.spelled = some text) (n : Numeral text) :
    HasInt64 v (saturate n.value)

/-- Texts and blobs whose numeral is no 64-bit integer. -/
def Overflows (v : Value) : Prop :=
  ∃ text, v.spelled = some text ∧ ∃ n : Numeral text, ¬IsInt64 n.value

variable {v : Value} {k : Int} {text : Text}

theorem HasInt64.isInt64 (hv : v.IsStored) (h : v.HasInt64 k) : IsInt64 k := by
  cases h with
  | null => decide
  | boolean b => cases b <;> decide
  | integer n => exact hv
  | nan _ => decide
  | above _ => decide
  | below _ => decide
  | finite _ => exact saturate_bounds _
  | spelled _ n => exact saturate_bounds _

/-- The integer of a text that is read as a numeral. -/
theorem hasInt64_iff_of_spelled (h : v.spelled = some text) (n : Numeral text) :
    v.HasInt64 k ↔ k = saturate n.value := by
  constructor
  · intro hk
    cases hk with
    | spelled h' m =>
      obtain rfl := Option.some.inj (h.symm.trans h')
      rw [Subsingleton.elim m n]
    | _ => exact nomatch h
  · rintro rfl
    exact .spelled h n

theorem overflows_iff_of_spelled (h : v.spelled = some text) (n : Numeral text) :
    v.Overflows ↔ ¬IsInt64 n.value := by
  constructor
  · rintro ⟨text', h', m, hm⟩
    obtain rfl := Option.some.inj (h.symm.trans h')
    rwa [Subsingleton.elim n m]
  · exact fun hn => ⟨text, h, n, hn⟩

theorem toInteger_of_spelled (h : v.spelled = some text) :
    v.toInteger = Number.integerPrefix text := by
  cases v with
  | text value =>
    obtain rfl := Option.some.inj h
    rfl
  | blob form bytes =>
    obtain rfl := Option.some.inj h
    rfl
  | _ => exact nomatch h

/-- A value without a text to read has its 64-bit integer. -/
theorem exists_toInteger_eq_ok (h : v.spelled = none) :
    ∃ k, v.toInteger = .ok k ∧ v.HasInt64 k := by
  cases v with
  | null => exact ⟨_, rfl, .null⟩
  | boolean b => exact ⟨_, rfl, .boolean b⟩
  | integer n => exact ⟨_, rfl, .integer n⟩
  | real x =>
    refine ⟨_, rfl, ?_⟩
    cases hx : x.decode with
    | nan => exact .nan hx
    | infinite negative => cases negative with
      | false => exact .above hx
      | true => exact .below hx
    | finite negative significand exponent =>
      have hvalue : x.decode.value? =
          some (if negative then -Real64.magnitude significand exponent
            else Real64.magnitude significand exponent) := by
        rw [hx]
        rfl
      rw [← hx, Real64.toInt64_eq hvalue]
      exact .finite hvalue
  | text value => exact nomatch h
  | blob form bytes => exact nomatch h

/-- **Which values give a 64-bit integer.** Whenever an integer is computed for a stored value, it
is a 64-bit integer, and the one that the database has, exactly when the value does not overflow.
One is computed for every value but texts and blobs with too many digits. -/
theorem isInt64_toInteger_iff (hv : v.IsStored) :
    (∀ k, v.toInteger = .ok k →
      (IsInt64 k ↔ ¬v.Overflows) ∧ (v.HasInt64 k ↔ ¬v.Overflows)) ∧
    ((∃ k, v.toInteger = .ok k) ↔
      ∀ text, v.spelled = some text → ∀ n : Numeral text, n.digits.length ≤ digitLimit) := by
  cases h : v.spelled with
  | none =>
    obtain ⟨k, hk, hint⟩ := exists_toInteger_eq_ok h
    have hnone : ¬v.Overflows := by
      rintro ⟨text, htext, -⟩
      exact nomatch h.symm.trans htext
    refine ⟨fun m hm => ?_, fun _ => nofun, fun _ => ⟨k, hk⟩⟩
    obtain rfl := Except.ok.inj (hk.symm.trans hm)
    exact ⟨iff_of_true (hint.isInt64 hv) hnone, iff_of_true hint hnone⟩
  | some text =>
    let n : Numeral text := .ofText text
    have hinteger {k : Int} :
        v.toInteger = .ok k ↔ k = n.value ∧ n.digits.length ≤ digitLimit := by
      rw [toInteger_of_spelled h, n.integerPrefix_eq_ok_iff]
    refine ⟨fun k hk => ?_, ?_, fun hall => ⟨_, hinteger.2 ⟨rfl, hall text rfl n⟩⟩⟩
    · obtain ⟨rfl, -⟩ := hinteger.1 hk
      rw [overflows_iff_of_spelled h n, not_not, hasInt64_iff_of_spelled h n, eq_comm,
        Real64.saturate_eq_self_iff]
      exact ⟨Iff.rfl, Iff.rfl⟩
    · rintro ⟨k, hk⟩ text' htext m
      obtain rfl := Option.some.inj htext
      rw [Subsingleton.elim m n]
      exact (hinteger.1 hk).2

/-- A text at the upper end of the 64-bit integers, and a blob behind the lower one. -/
theorem isInt64_toInteger_iff_ends :
    let inside : Value := .text "+9223372036854775807 rows".toList
    let outside : Value := .blob .view ("\t-9223372036854775809".toList.map fun c => c.val.toUInt8)
    (inside.IsStored ∧ inside.toInteger = .ok 9223372036854775807 ∧
      inside.HasInt64 9223372036854775807) ∧
    outside.IsStored ∧ outside.toInteger = .ok (-9223372036854775809) ∧
      ¬outside.HasInt64 (-9223372036854775809) := by
  intro inside outside
  have hinside : ¬inside.Overflows := by
    rw [overflows_iff_of_spelled rfl (.ofText _)]
    decide
  have houtside : outside.Overflows := by
    rw [overflows_iff_of_spelled rfl (.ofText _)]
    decide
  refine ⟨⟨trivial, rfl, ?_⟩, trivial, rfl, ?_⟩
  · exact ((isInt64_toInteger_iff (v := inside) trivial).1 _ rfl).2.2 hinside
  · exact fun h => ((isInt64_toInteger_iff (v := outside) trivial).1 _ rfl).2.1 h houtside

/-- A text just behind the upper end gives no 64-bit integer. -/
theorem toInteger_two_pow_63 :
    ∃ k, (Value.text "9223372036854775808".toList).toInteger = .ok k ∧ ¬IsInt64 k :=
  ⟨9223372036854775808, rfl, by decide⟩

end Value

end SqliteAccess
