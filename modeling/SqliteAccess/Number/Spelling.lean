import SqliteAccess.Number.IntegerPrefix
import SqliteAccess.Text.Display

/-!
# Spelled numbers

A text that has to be a number as a whole may have blanks around it, a sign, and single low lines
between its digits. The digits of all scripts stand for the ASCII digits and the blanks of all
scripts for the space; the information separators are no blanks here. Every script with decimal
digits has ten of them in a row, from its zero to its nine (Unicode 14).

## Main definitions

* `Text.digitValue?` : the value of a decimal digit of any script.
* `Number.plain` : a text with the ASCII forms of its digits and blanks.
* `Number.readInteger` : the integer that a text spells.
* `Number.isReal` : whether a text spells a real number, an infinity, or the value that is no
  number.
-/

namespace SqliteAccess

namespace Text

/-- The code points of the zeros of all scripts, in ascending order. -/
def digitZeros : List Nat :=
  [0x30, 0x660, 0x6f0, 0x7c0, 0x966, 0x9e6, 0xa66, 0xae6, 0xb66, 0xbe6, 0xc66, 0xce6, 0xd66, 0xde6,
   0xe50, 0xed0, 0xf20, 0x1040, 0x1090, 0x17e0, 0x1810, 0x1946, 0x19d0, 0x1a80, 0x1a90, 0x1b50,
   0x1bb0, 0x1c40, 0x1c50, 0xa620, 0xa8d0, 0xa900, 0xa9d0, 0xa9f0, 0xaa50, 0xabf0, 0xff10, 0x104a0,
   0x10d30, 0x11066, 0x110f0, 0x11136, 0x111d0, 0x112f0, 0x11450, 0x114d0, 0x11650, 0x116c0,
   0x11730, 0x118e0, 0x11950, 0x11c50, 0x11d50, 0x11da0, 0x16a60, 0x16ac0, 0x16b50, 0x1d7ce,
   0x1d7d8, 0x1d7e2, 0x1d7ec, 0x1d7f6, 0x1e140, 0x1e2f0, 0x1e950, 0x1fbf0]

/-- The value of a decimal digit of any script. -/
def digitValue? (c : Char) : Option Nat :=
  (digitZeros.find? fun start => start ≤ c.toNat && c.toNat < start + 10).map fun start =>
    c.toNat - start

end Text

namespace Number

/-- Why a text spells no integer. -/
inductive SpellingError
  /-- The text is not of the form of an integer. -/
  | notAnInteger (text : Text)
  /-- The text has more digits than are converted. -/
  | limit (error : Error)
  deriving DecidableEq

/-- How much of a displayed text a message shows. -/
def shownLength : Nat := 200

/-- The wording of an error. -/
def SpellingError.message : SpellingError → Text
  | notAnInteger text =>
    "invalid literal for int() with base 10: ".toList ++ (Text.display text).take shownLength
  | limit error => error.message

/-- The ASCII form of a character in a number. What is neither a digit nor a blank outside ASCII
becomes a mark that no number has. -/
def plainChar (c : Char) : Char :=
  if c.toNat < 0x80 then c
  else if Text.isBlank c then ' '
  else
    match Text.digitValue? c with
    | some digit => Nat.digitChar digit
    | none => '?'

/-- A text with the ASCII forms of its digits and blanks, without blanks at its ends. -/
def plain (text : Text) : Text := Text.trim Text.isNumberBlank (text.map plainChar)

/-- The digits of a text that consists of groups of digits between single low lines. -/
def groupedDigits? (text : Text) : Option Text :=
  let groups := text.splitOn '_'
  if groups.all fun g => !g.isEmpty && g.all Char.isDigit then some groups.flatten else none

/-- The integer that a text spells. The number of digits is judged before what follows them. -/
def readInteger (text : Text) : Except SpellingError Int :=
  let (negative, rest) := splitSign (plain text)
  let front := rest.takeWhile fun c => c.isDigit || c = '_'
  match groupedDigits? front with
  | none => .error (.notAnInteger text)
  | some digits =>
    if digitLimit < digits.length then .error (.limit (.tooManyDigits digits.length))
    else if front.length < rest.length then .error (.notAnInteger text)
    else .ok (if negative then -(ofDigits digits : Int) else ofDigits digits)

/-- The names of the values that have no digits. -/
def namedReals : List Text := ["inf".toList, "infinity".toList, "nan".toList]

/-- Whether a text is a part of a number that may be left out, or groups of digits. -/
def isDigitsOrEmpty (text : Text) : Bool := text.isEmpty || (groupedDigits? text).isSome

/-- Whether a text has digits before a point, after it, or both. -/
def isMantissa (text : Text) : Bool :=
  match text.splitOn '.' with
  | [whole] => (groupedDigits? whole).isSome
  | [whole, fraction] =>
    isDigitsOrEmpty whole && isDigitsOrEmpty fraction && !(whole.isEmpty && fraction.isEmpty)
  | _ => false

/-- Whether a text is a number with a point and an exponent, each of which may be missing. -/
def isDecimal (text : Text) : Bool :=
  match (text.map Char.toLower).splitOn 'e' with
  | [mantissa] => isMantissa mantissa
  | [mantissa, exponent] =>
    isMantissa mantissa && (groupedDigits? (splitSign exponent).2).isSome
  | _ => false

/-- Whether a text spells a real number, an infinity, or the value that is no number. -/
def isReal (text : Text) : Bool :=
  let unsigned := (splitSign (plain text)).2
  namedReals.contains (unsigned.map Char.toLower) || isDecimal unsigned

end Number

end SqliteAccess
