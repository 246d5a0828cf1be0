import SqliteAccess.Json

/-!
# Writing JSON

A value is written in one line of ASCII text. Everything outside the printable ASCII characters is
escaped by its UTF-16 code units, so that no text inside a value can end the line.

## Main definitions

* `Json.writeText` : the written form of a text.
* `Json.write` : the written form of a value.
-/

namespace SqliteAccess.Json

/-- One UTF-16 code unit as an escape. -/
def writeUnit (unit : Nat) : Text := '\\' :: 'u' :: Text.hex 4 unit

/-- The escape of a character by its code units: two surrogates beyond the basic plane. -/
def writeUnits (n : Nat) : Text :=
  if n < 0x10000 then writeUnit n
  else
    writeUnit (0xd800 + (n - 0x10000) / 0x400) ++ writeUnit (0xdc00 + (n - 0x10000) % 0x400)

/-- The written form of a character inside a text. -/
def writeChar (c : Char) : Text :=
  match c with
  | '"' => ['\\', '"']
  | '\\' => ['\\', '\\']
  | '\n' => ['\\', 'n']
  | '\r' => ['\\', 'r']
  | '\t' => ['\\', 't']
  | '\x08' => ['\\', 'b']
  | '\x0c' => ['\\', 'f']
  | c => if ' ' ≤ c ∧ c ≤ '~' then [c] else writeUnits c.toNat

/-- The written form of a text. -/
def writeText (text : Text) : Text := '"' :: (text.flatMap writeChar ++ ['"'])

mutual

/-- The written form of a value. -/
def write : Json → Text
  | null => "null".toList
  | boolean value => if value then "true".toList else "false".toList
  | integer value => Text.ofInt value
  | text value => writeText value
  | list [] => "[]".toList
  | list (item :: items) => '[' :: (write item ++ writeItems items)
  | object [] => ['\x7b', '\x7d']
  | object ((key, value) :: fields) =>
    '\x7b' :: (writeText key ++ ':' :: ' ' :: (write value ++ writeFields fields))

/-- The remaining items of a list, with its end. -/
def writeItems : List Json → Text
  | [] => [']']
  | item :: items => ',' :: ' ' :: (write item ++ writeItems items)

/-- The remaining fields of an object, with its end. -/
def writeFields : List (Text × Json) → Text
  | [] => ['\x7d']
  | (key, value) :: fields =>
    ',' :: ' ' :: (writeText key ++ ':' :: ' ' :: (write value ++ writeFields fields))

end

end SqliteAccess.Json
