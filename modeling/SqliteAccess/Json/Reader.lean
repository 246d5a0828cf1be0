import SqliteAccess.Json

/-!
# Reading JSON

A JSON text is read into the value that it spells. Numbers are integers, blanks between the parts
do not count, and an escape stands for a UTF-16 code unit, so that two of them may spell one
character.

## Main definitions

* `Json.ofUnits` : the text of UTF-16 code units.
* `Json.read` : the value of a text.
-/

namespace SqliteAccess.Json

/-- The blanks between the parts of a JSON text. -/
def isSpace (c : Char) : Bool := c = ' ' || c = '\t' || c = '\n' || c = '\r'

/-- The text of UTF-16 code units, where two surrogates spell one character. A surrogate that
stands alone spells none. -/
def ofUnits : List Nat → Option Text
  | [] => some []
  | [n] => if 0xd800 ≤ n ∧ n < 0xe000 then none else some [Char.ofNat n]
  | n :: m :: rest =>
    if 0xd800 ≤ n ∧ n < 0xdc00 then
      if 0xdc00 ≤ m ∧ m < 0xe000 then
        (ofUnits rest).map
          (Char.ofNat (0x10000 + (n - 0xd800) * 0x400 + (m - 0xdc00)) :: ·)
      else none
    else if 0xdc00 ≤ n ∧ n < 0xe000 then none
    else (ofUnits (m :: rest)).map (Char.ofNat n :: ·)

/-- The UTF-16 code units of a character. -/
def unitsOf (c : Char) : List Nat :=
  let n := c.toNat
  if n < 0x10000 then [n]
  else [0xd800 + (n - 0x10000) / 0x400, 0xdc00 + (n - 0x10000) % 0x400]

/-- The value of a hexadecimal digit. -/
def hexDigit? (c : Char) : Option Nat :=
  if '0' ≤ c ∧ c ≤ '9' then some (c.toNat - 48)
  else if 'a' ≤ c ∧ c ≤ 'f' then some (c.toNat - 87)
  else if 'A' ≤ c ∧ c ≤ 'F' then some (c.toNat - 55)
  else none

/-- The code unit of four hexadecimal digits. -/
def unit? (a b c d : Char) : Option Nat := do
  return (((← hexDigit? a) * 16 + (← hexDigit? b)) * 16 + (← hexDigit? c)) * 16 + (← hexDigit? d)

/-- The character of a short escape. -/
def shortEscape? (c : Char) : Option Char :=
  match c with
  | '"' => some '"'
  | '\\' => some '\\'
  | '/' => some '/'
  | 'b' => some '\x08'
  | 'f' => some '\x0c'
  | 'n' => some '\n'
  | 'r' => some '\r'
  | 't' => some '\t'
  | _ => none

/-- The code units of a text from just after its opening quote, and what follows its end. A control
character has to be escaped. -/
def readUnits : Text → Option (List Nat × Text)
  | [] => none
  | c :: rest =>
    if c = '"' then some ([], rest)
    else if c = '\\' then
      match rest with
      | 'u' :: a :: b :: d :: e :: rest =>
        match unit? a b d e with
        | some n => (readUnits rest).map fun (units, rest) => (n :: units, rest)
        | none => none
      | letter :: rest =>
        match shortEscape? letter with
        | some d => (readUnits rest).map fun (units, rest) => (d.toNat :: units, rest)
        | none => none
      | [] => none
    else if c < ' ' then none
    else (readUnits rest).map fun (units, rest) => (unitsOf c ++ units, rest)

/-- A text from just after its opening quote, and what follows its end. -/
def readText (text : Text) : Option (Text × Text) :=
  match readUnits text with
  | some (units, rest) => (ofUnits units).map fun t => (t, rest)
  | none => none

/-- An integer without superfluous zeros, and what follows it. -/
def readInteger (text : Text) : Option (Int × Text) :=
  let (negative, text) := match text with
    | '-' :: rest => (true, rest)
    | text => (false, text)
  let digits := text.takeWhile Char.isDigit
  let magnitude : Int := Nat.ofDigitChars 10 digits 0
  if digits.isEmpty ∨ (digits.head? = some '0' ∧ 1 < digits.length) then none
  else some (if negative then -magnitude else magnitude, text.dropWhile Char.isDigit)

/-- A word that spells a constant, and what follows it. -/
def readWord (text : Text) : Option (Json × Text) :=
  if "null".toList.isPrefixOf text then some (null, text.drop 4)
  else if "true".toList.isPrefixOf text then some (boolean true, text.drop 4)
  else if "false".toList.isPrefixOf text then some (boolean false, text.drop 5)
  else none

/-- The text without the blanks in front. -/
def skipSpace (text : Text) : Text := text.dropWhile isSpace

mutual

/-- A value, and what follows it. Every value, item and field takes one unit of fuel from those
inside it and behind it. -/
def readValue (fuel : Nat) (source : Text) : Option (Json × Text) :=
  match fuel with
  | 0 => none
  | fuel + 1 =>
    match skipSpace source with
    | '"' :: rest => (readText rest).map fun (t, rest) => (text t, rest)
    | '[' :: rest =>
      match skipSpace rest with
      | ']' :: rest => some (list [], rest)
      | rest => (readItems fuel rest).map fun (items, rest) => (list items, rest)
    | '\x7b' :: rest =>
      match skipSpace rest with
      | '\x7d' :: rest => some (object [], rest)
      | rest => (readFields fuel rest).map fun (fields, rest) => (object fields, rest)
    | rest =>
      match readWord rest with
      | some result => some result
      | none => (readInteger rest).map fun (n, rest) => (integer n, rest)

/-- The items of a list with its end, and what follows it. -/
def readItems (fuel : Nat) (source : Text) : Option (List Json × Text) :=
  match fuel with
  | 0 => none
  | fuel + 1 =>
    match readValue fuel source with
    | none => none
    | some (item, rest) =>
      match skipSpace rest with
      | ']' :: rest => some ([item], rest)
      | ',' :: rest => (readItems fuel rest).map fun (items, rest) => (item :: items, rest)
      | _ => none

/-- The fields of an object with its end, and what follows it. -/
def readFields (fuel : Nat) (source : Text) : Option (List (Text × Json) × Text) :=
  match fuel with
  | 0 => none
  | fuel + 1 =>
    match skipSpace source with
    | '"' :: rest =>
      match readText rest with
      | none => none
      | some (key, rest) =>
        match skipSpace rest with
        | ':' :: rest =>
          match readValue fuel rest with
          | none => none
          | some (value, rest) =>
            match skipSpace rest with
            | '\x7d' :: rest => some ([(key, value)], rest)
            | ',' :: rest =>
              (readFields fuel rest).map fun (fields, rest) => ((key, value) :: fields, rest)
            | _ => none
        | _ => none
    | _ => none

end

/-- The value of a text. A text has no more values, items and fields than characters. -/
def read (source : Text) : Option Json :=
  match readValue (source.length + 1) source with
  | some (value, rest) => if (skipSpace rest).isEmpty then some value else none
  | none => none

end SqliteAccess.Json
