import Mathlib.Data.Rat.Cast.Order
import SqliteAccess.Proofs.Number.Prefix

/-!
# Decimal fractions

A decimal fraction has digits, a point and digits behind it, possibly a minus sign in front and an
exponent at the end. Such a text stands for a rational number, and it can be taken apart in one way
only: a digit is neither a sign nor a point nor the mark of an exponent. So it is the text that has
a value, and a text without a point is none of these.

## Main definitions

* `Number.Exponent`, `Number.Magnitude`, `Number.Decimal` : the parts of a decimal fraction.
* `Number.Decimal.text` : how it is written.
* `Number.Decimal.value` : the rational number that it stands for.

## Main results

* `Number.Decimal.text_injective` : a text has one reading as a decimal fraction.
* `Number.Decimal.count_dot` : it has one point.
-/

namespace SqliteAccess.Number

/-! ### Digits behind a point -/

/-- Digits count in the unit of the last of them. -/
theorem positional_append (front back : Text) :
    positional (front ++ back) = positional front * 10 ^ back.length + positional back := by
  rw [positional, List.reverse_append, List.map_append, Nat.ofDigits_append, List.length_map,
    List.length_reverse, Nat.add_comm, Nat.mul_comm, positional, positional]

theorem positional_zeros (count : Nat) : positional (List.replicate count '0') = 0 := by
  rw [← List.append_nil (List.replicate count '0'), positional_zeros_append]
  rfl

/-- The value of digits behind a point. -/
def fractional (digits : Text) : Rat := positional digits / 10 ^ digits.length

/-- Digits around a point count in the unit of the last of them. -/
theorem positional_add_fractional (front back : Text) :
    (positional front : Rat) + fractional back = positional (front ++ back) / 10 ^ back.length := by
  have hpow : (10 : Rat) ^ back.length ≠ 0 := by positivity
  rw [fractional, positional_append, Nat.cast_add, Nat.cast_mul, add_div, Nat.cast_pow,
    Nat.cast_ofNat, mul_div_cancel_right₀ _ hpow]

/-- Zeros at the end of a fraction do not count. -/
theorem fractional_append_zeros (digits : Text) (count : Nat) :
    fractional (digits ++ List.replicate count '0') = fractional digits := by
  have hpow : (10 : Rat) ^ count ≠ 0 := by positivity
  rw [fractional, positional_append, positional_zeros, Nat.add_zero, List.length_append,
    List.length_replicate, Nat.cast_mul, Nat.cast_pow, Nat.cast_ofNat, pow_add,
    mul_div_mul_right _ _ hpow, fractional]

/-- Digits are known from the text that starts with them. -/
theorem digits_append_inj {digits digits' rest rest' : Text}
    (hdigits : ∀ c ∈ digits, c.isDigit = true) (hdigits' : ∀ c ∈ digits', c.isDigit = true)
    (hrest : ∀ c ∈ rest.head?, c.isDigit = false) (hrest' : ∀ c ∈ rest'.head?, c.isDigit = false)
    (h : digits ++ rest = digits' ++ rest') : digits = digits' ∧ rest = rest' := by
  have hdigits_eq : digits = digits' := by
    rw [← Text.takeWhile_append_of_head? hdigits hrest, h,
      Text.takeWhile_append_of_head? hdigits' hrest']
  subst hdigits_eq
  exact ⟨rfl, List.append_cancel_left h⟩

theorem count_dot_digits {digits : Text} (h : ∀ c ∈ digits, c.isDigit = true) :
    digits.count '.' = 0 :=
  List.count_eq_zero.2 fun hdot => absurd (h '.' hdot) (by decide)

/-! ### Exponents -/

/-- An exponent with its sign and at least two digits. -/
@[ext]
structure Exponent where
  negative : Bool
  digits : Text
  two_le_length : 2 ≤ digits.length
  isDigit_of_mem : ∀ c ∈ digits, c.isDigit = true

namespace Exponent

/-- An exponent as it is written. -/
def text (x : Exponent) : Text := 'e' :: (if x.negative then '-' else '+') :: x.digits

/-- The power of ten of an exponent. -/
def value (x : Exponent) : Int :=
  if x.negative then -(positional x.digits : Int) else positional x.digits

theorem text_injective {x y : Exponent} (h : x.text = y.text) : x = y := by
  obtain ⟨hsign, hdigits⟩ := List.cons_eq_cons.1 (List.cons_eq_cons.1 h).2
  refine Exponent.ext ?_ hdigits
  cases hx : x.negative <;> cases hy : y.negative <;> simp [hx, hy] at hsign ⊢

theorem count_dot (x : Exponent) : x.text.count '.' = 0 := by
  rw [text, List.count_cons_of_ne (by decide), List.count_cons_of_ne (by split_ifs <;> decide),
    count_dot_digits x.isDigit_of_mem]

end Exponent

/-! ### Magnitudes -/

/-- Digits on both sides of a point, and possibly an exponent. -/
@[ext]
structure Magnitude where
  /-- The digits in front of the point. -/
  whole : Text
  /-- The digits behind the point. -/
  fraction : Text
  exponent? : Option Exponent
  whole_ne_nil : whole ≠ []
  fraction_ne_nil : fraction ≠ []
  isDigit_of_mem_whole : ∀ c ∈ whole, c.isDigit = true
  isDigit_of_mem_fraction : ∀ c ∈ fraction, c.isDigit = true

namespace Magnitude

/-- What stands behind the digits of a magnitude. -/
def exponentText (m : Magnitude) : Text := m.exponent?.elim [] Exponent.text

/-- A magnitude as it is written. -/
def text (m : Magnitude) : Text := m.whole ++ '.' :: (m.fraction ++ m.exponentText)

/-- The number that a magnitude stands for. -/
def value (m : Magnitude) : Rat :=
  (positional m.whole + fractional m.fraction) * 10 ^ m.exponent?.elim 0 Exponent.value

theorem isDigit_head_exponentText (m : Magnitude) :
    ∀ c ∈ m.exponentText.head?, c.isDigit = false := by
  rw [exponentText]
  cases m.exponent? with
  | none => exact nofun
  | some x =>
    intro c hc
    obtain rfl := Option.some.inj hc
    decide

theorem exponent?_eq_of_exponentText_eq {m m' : Magnitude} (h : m.exponentText = m'.exponentText) :
    m.exponent? = m'.exponent? := by
  rw [exponentText, exponentText] at h
  cases hm : m.exponent? with
  | none =>
    cases hm' : m'.exponent? with
    | none => rfl
    | some y => simp [hm, hm', Exponent.text] at h
  | some x =>
    cases hm' : m'.exponent? with
    | none => simp [hm, hm', Exponent.text] at h
    | some y =>
      rw [hm, hm'] at h
      exact congrArg some (Exponent.text_injective h)

theorem text_injective {m m' : Magnitude} (h : m.text = m'.text) : m = m' := by
  have hdot (rest : Text) : ∀ c ∈ ('.' :: rest).head?, c.isDigit = false := by
    intro c hc
    obtain rfl := Option.some.inj hc
    decide
  obtain ⟨hwhole, htail⟩ :=
    digits_append_inj m.isDigit_of_mem_whole m'.isDigit_of_mem_whole (hdot _) (hdot _) h
  obtain ⟨hfraction, hexponent⟩ :=
    digits_append_inj m.isDigit_of_mem_fraction m'.isDigit_of_mem_fraction
      m.isDigit_head_exponentText m'.isDigit_head_exponentText (List.cons_eq_cons.1 htail).2
  exact Magnitude.ext hwhole hfraction (exponent?_eq_of_exponentText_eq hexponent)

theorem count_dot (m : Magnitude) : m.text.count '.' = 1 := by
  have hexponent : m.exponentText.count '.' = 0 := by
    rw [exponentText]
    cases m.exponent? with
    | none => rfl
    | some x => exact x.count_dot
  rw [text, List.count_append, List.count_cons_self, List.count_append,
    count_dot_digits m.isDigit_of_mem_whole, count_dot_digits m.isDigit_of_mem_fraction, hexponent]

/-- A magnitude starts with a digit. -/
theorem isDigit_head_text (m : Magnitude) : ∀ c ∈ m.text.head?, c.isDigit = true := by
  obtain ⟨c, rest, hwhole⟩ := List.exists_cons_of_ne_nil m.whole_ne_nil
  rw [text, hwhole]
  rintro d hd
  obtain rfl := Option.some.inj hd
  exact m.isDigit_of_mem_whole c (hwhole ▸ List.mem_cons_self)

end Magnitude

/-! ### Signs -/

/-- A magnitude, and possibly a minus sign in front of it. -/
structure Decimal where
  negative : Bool
  magnitude : Magnitude

namespace Decimal

/-- A decimal fraction as it is written. -/
def text (d : Decimal) : Text := (if d.negative then ['-'] else []) ++ d.magnitude.text

/-- The rational number that a decimal fraction stands for. -/
def value (d : Decimal) : Rat := if d.negative then -d.magnitude.value else d.magnitude.value

/-- **A text has one reading as a decimal fraction.** -/
theorem text_injective {d d' : Decimal} (h : d.text = d'.text) : d = d' := by
  have hminus (m m' : Magnitude) : '-' :: m.text ≠ m'.text := fun heq =>
    absurd (m'.isDigit_head_text '-' (heq ▸ rfl)) (by decide)
  obtain ⟨negative, m⟩ := d
  obtain ⟨negative', m'⟩ := d'
  cases negative <;> cases negative'
  · exact congrArg (mk false) (Magnitude.text_injective h)
  · exact absurd h.symm (hminus m' m)
  · exact absurd h (hminus m m')
  · exact congrArg (mk true) (Magnitude.text_injective (List.append_cancel_left h))

/-- A decimal fraction has one point. -/
theorem count_dot (d : Decimal) : d.text.count '.' = 1 := by
  rw [text, List.count_append, d.magnitude.count_dot]
  cases d.negative <;> rfl

end Decimal

end SqliteAccess.Number
