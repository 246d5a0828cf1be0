import SqliteAccess.Number.IntegerPrefix
import SqliteAccess.Number.Significant
import SqliteAccess.Text.Utf8

/-!
# Values of a database

A value that a database driver delivers is shown in two ways: as the text of a table cell, and as
a 64-bit integer.

## Main definitions

* `Value` : a delivered value.
* `Value.cell` : its text.
* `Value.toInteger` : its integer.
-/

namespace SqliteAccess

/-- How a driver delivers bytes. The form does not matter to any reading of them. -/
inductive ByteForm
  /-- A constant sequence. -/
  | constant
  /-- A sequence that can be changed in place. -/
  | mutable
  /-- A view of the storage of another sequence. -/
  | view
  deriving DecidableEq

/-- A value that a database driver delivers. -/
inductive Value
  | null
  | boolean (value : Bool)
  | integer (value : Int)
  | real (value : Binary64)
  | text (value : Text)
  | blob (form : ByteForm) (bytes : List UInt8)
  deriving DecidableEq

namespace Value

/-- The text of a table cell; the null value has none. A blob is read as UTF-8. -/
def cell : Value → Option Text
  | null => none
  | boolean value => some (Text.ofNat value.toNat)
  | integer value => some (Text.ofInt value)
  | real value => some value.decode.text
  | text value => some value
  | blob _ bytes => some (Text.ofUtf8 bytes)

/-- The integer of a value. A real number loses its fraction and saturates at the ends of the
64-bit integers; a text is read as far as it spells an integer, and a blob as its text. -/
def toInteger : Value → Except Number.Error Int
  | null => .ok 0
  | boolean value => .ok value.toNat
  | integer value => .ok value
  | real value => .ok value.decode.toInt64
  | text value => Number.integerPrefix value
  | blob _ bytes => Number.integerPrefix (Text.ofUtf8 bytes)

end Value

end SqliteAccess
