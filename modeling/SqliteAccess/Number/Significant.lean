import SqliteAccess.Number.Binary64

/-!
# Fifteen significant digits

A finite number is written with fifteen significant digits, correctly rounded from its exact
value, a half going to the even neighbour. Numbers of moderate size are written positionally, all
others with an exponent, and every number has a point with at least one digit after it, so that
it cannot be taken for an integer.

## Main definitions

* `Number.roundQuotient` : a quotient rounded to the nearest natural number.
* `Number.leadingExponent` : the power of ten of the first digit of a quotient.
* `Number.significant` : a quotient rounded to a number of significant digits.
* `Real64.text` : the text of a number.
-/

namespace SqliteAccess

namespace Number

/-- The quotient rounded to the nearest natural number, a half going to the even neighbour. -/
def roundQuotient (num den : Nat) : Nat :=
  let quotient := num / den
  let twice := 2 * (num % den)
  if twice < den then quotient
  else if den < twice then quotient + 1
  else quotient + quotient % 2

/-- How many powers of ten a positive numerator needs to reach the denominator. -/
def tenfolds (num den : Nat) : Nat :=
  if num = 0 ∨ den ≤ num then 0 else tenfolds (num * 10) den + 1
termination_by den - num
decreasing_by omega

/-- The power of ten of the first digit of a positive quotient. -/
def leadingExponent (num den : Nat) : Int :=
  if den ≤ num then ((Text.ofNat (num / den)).length : Int) - 1 else -(tenfolds num den : Int)

/-- A positive quotient rounded to `count` significant digits: the digits as a number, and the
power of ten of the first of them. -/
def significant (count num den : Nat) : Nat × Int :=
  let exponent := leadingExponent num den
  let shift := (count : Int) - 1 - exponent
  let coefficient := roundQuotient (num * Nat.pow 10 shift.toNat) (den * Nat.pow 10 (-shift).toNat)
  if coefficient = Nat.pow 10 count then (Nat.pow 10 (count - 1), exponent + 1)
  else (coefficient, exponent)

end Number

namespace Real64

/-- How many significant digits are written. -/
def digitCount : Nat := 15

/-- The smallest power of ten that is written positionally. -/
def lowestPositional : Int := -4

/-- Zeros at the end of a fraction are not written. -/
def trimZeros (digits : Text) : Text := Text.trimRight (· = '0') digits

/-- A point and the digits after it, at least one. -/
def fractionText (digits : Text) : Text :=
  '.' :: (if (trimZeros digits).isEmpty then ['0'] else trimZeros digits)

/-- An exponent with its sign and at least two digits. -/
def exponentText (exponent : Int) : Text :=
  let digits := Text.ofNat exponent.natAbs
  'e' :: (if exponent < 0 then '-' else '+') :: (List.replicate (2 - digits.length) '0' ++ digits)

/-- Digits whose first one stands at a power of ten, as a number. -/
def digitsText (digits : Text) (exponent : Int) : Text :=
  if exponent < lowestPositional ∨ (digitCount : Int) ≤ exponent then
    digits.take 1 ++ fractionText (digits.drop 1) ++ exponentText exponent
  else if exponent < 0 then
    '0' :: fractionText (List.replicate ((-exponent).toNat - 1) '0' ++ digits)
  else
    let whole := exponent.toNat + 1
    digits.take whole ++ fractionText (digits.drop whole)

/-- The text of a magnitude. -/
def magnitudeText (significand : Nat) (exponent : Int) : Text :=
  if significand = 0 then "0.0".toList
  else
    let (coefficient, leading) :=
      Number.significant digitCount (numerator significand exponent) (denominator exponent)
    digitsText (Text.ofNat coefficient) leading

/-- The text of a number. -/
def text : Real64 → Text
  | nan => "nan".toList
  | infinite negative => if negative then "-Inf".toList else "Inf".toList
  | finite negative significand exponent =>
    (if negative then ['-'] else []) ++ magnitudeText significand exponent

end Real64

end SqliteAccess
