import SqliteAccess.Text.Basic

/-!
# The integer in front of a text

A text is read as the integer that its front spells: blanks, an optional sign, and decimal digits.
Without digits the integer is zero, and whatever follows the digits is ignored.

## Main definitions

* `Number.digitLimit` : the largest number of digits that is converted.
* `Number.integerPrefix` : the integer in front of a text.
-/

namespace SqliteAccess.Number

/-- The largest number of digits that is converted. -/
def digitLimit : Nat := 4300

/-- Why a text has no integer. -/
inductive Error
  /-- The text spells more digits than are converted; leading zeros count. -/
  | tooManyDigits (count : Nat)
  deriving DecidableEq

/-- The wording of an error. -/
def Error.message : Error → Text
  | tooManyDigits count =>
    "Exceeds the limit (".toList ++ Text.ofNat digitLimit ++
      " digits) for integer string conversion: value has ".toList ++ Text.ofNat count ++
      " digits; use sys.set_int_max_str_digits() to increase the limit".toList

/-- The value of a list of decimal digits. -/
def ofDigits (digits : Text) : Nat := Nat.ofDigitChars 10 digits 0

/-- Whether the text after the blanks has a minus sign, and the text after its sign. -/
def splitSign : Text → Bool × Text
  | '-' :: rest => (true, rest)
  | '+' :: rest => (false, rest)
  | text => (false, text)

/-- The integer in front of a text. -/
def integerPrefix (text : Text) : Except Error Int :=
  let (negative, rest) := splitSign (text.dropWhile Text.isNumberBlank)
  let digits := rest.takeWhile Char.isDigit
  if digitLimit < digits.length then .error (.tooManyDigits digits.length)
  else .ok (if negative then -(ofDigits digits : Int) else ofDigits digits)

/-- The integer of a cell; a missing text counts as zero. -/
def integerOfCell : Option Text → Except Error Int
  | none => .ok 0
  | some text => integerPrefix text

end SqliteAccess.Number
