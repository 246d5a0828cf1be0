import SqliteAccess.Number.Spelling
import SqliteAccess.Text.Utf8
import SqliteAccess.Text.Word

/-!
# Database URLs

A database URL has a driver name, an optional user with a password, an optional host and port, an
optional database and optional parameters. What cannot be read behind the last part is ignored.

A part of a URL spells the bytes of a text, each byte outside a set of safe characters by a percent
sign and two hexadecimal digits. Reading collects the bytes of a run of ASCII characters and reads
the run as UTF-8; a character outside ASCII stands for itself.

## Main definitions

* `Text.percentDecode` : the text that a part of a URL spells.
* `Text.percentEncode` : the spelling of a text.
* `DatabaseUrl` : the parts of a URL.
* `DatabaseUrl.ofText` : the parts of a text.
* `DatabaseUrl.toText` : the text of a URL, without its password.
-/

namespace SqliteAccess

namespace Text

/-- The value of a hexadecimal digit. -/
def hexValue? (c : Char) : Option Nat :=
  if c.isDigit then some (c.toNat - 48)
  else if 'a' ≤ c ∧ c ≤ 'f' then some (c.toNat - 87)
  else if 'A' ≤ c ∧ c ≤ 'F' then some (c.toNat - 55)
  else none

/-- The byte of two hexadecimal digits. -/
def hexByte? (high low : Char) : Option UInt8 := do
  return UInt8.ofNat (16 * (← hexValue? high) + (← hexValue? low))

/-- Reads a part of a URL, given the bytes of the current run, last byte first. -/
def percentDecodeFrom (run : List UInt8) : Text → Text
  | [] => ofUtf8 run.reverse
  | c :: rest =>
    if 0x80 ≤ c.toNat then ofUtf8 run.reverse ++ c :: percentDecodeFrom [] rest
    else
      match c, rest with
      | '%', high :: low :: after =>
        match hexByte? high low with
        | some byte => percentDecodeFrom (byte :: run) after
        | none => percentDecodeFrom (UInt8.ofNat c.toNat :: run) (high :: low :: after)
      | c, rest => percentDecodeFrom (UInt8.ofNat c.toNat :: run) rest

/-- The text that a part of a URL spells. -/
def percentDecode (part : Text) : Text := percentDecodeFrom [] part

/-- The characters that never need an escape in a URL. -/
def isUnreserved (c : Char) : Bool :=
  c.isAlphanum || c = '_' || c = '.' || c = '-' || c = '~'

/-- The escape of a byte. -/
def percentByte (byte : UInt8) : Text := '%' :: (hex 2 byte.toNat).map Char.toUpper

/-- The spelling of a text, where the characters of `safe` stand for themselves. -/
def percentEncode (safe text : Text) : Text :=
  text.flatMap fun c =>
    if isUnreserved c || safe.contains c then [c] else (toUtf8 [c]).flatMap percentByte

end Text

/-- The parts of a database URL. -/
structure DatabaseUrl where
  driver : Text
  user : Option Text
  password : Option Text
  host : Option Text
  port : Option Int
  database : Option Text
  /-- The parameters, each with its values in order. -/
  parameters : List (Text × List Text)

namespace DatabaseUrl

/-- Why a text is no URL. -/
inductive Error
  /-- The text does not start with a driver name and the mark of a URL. -/
  | noDriver
  /-- The port is no number; an empty port is none. -/
  | port (error : Number.SpellingError)
  deriving DecidableEq

/-- The wording of an error. -/
def Error.message : Error → Text
  | noDriver => "Could not parse SQLAlchemy URL from given URL string".toList
  | port error => error.message

/-- Splits at the last occurrence of a character. -/
def breakAtLast (stop : Char) (text : Text) : Option (Text × Text) :=
  let after := (text.reverse.takeWhile (· ≠ stop)).reverse
  if after.length < text.length then some (text.take (text.length - after.length - 1), after)
  else none

/-- The user, the password and the rest of the text behind the mark of a URL. -/
def splitUser (text : Text) : Option Text × Option Text × Text :=
  let name := text.takeWhile fun c => c ≠ ':' && c ≠ '/'
  let rest := text.drop name.length
  let withoutPassword := match breakAtLast '@' name with
    | some (user, after) => (some user, none, after ++ rest)
    | none => (none, none, text)
  match rest with
  | ':' :: after =>
    match after.dropWhile (· ≠ '@') with
    | _ :: behind => (some name, some (after.takeWhile (· ≠ '@')), behind)
    | [] => withoutPassword
  | _ => withoutPassword

/-- The host and the rest. A host between brackets may hold colons. -/
def splitHost (text : Text) : Option Text × Text :=
  let plain :=
    let host := text.takeWhile fun c => c ≠ '/' && c ≠ ':' && c ≠ '?'
    (if host.isEmpty then none else some host, text.drop host.length)
  match text with
  | '[' :: after =>
    let inside := after.takeWhile fun c => c ≠ '/' && c ≠ '?'
    match breakAtLast ']' inside with
    | some (c :: host, _) => (some (c :: host), after.drop (host.length + 2))
    | _ => plain
  | _ => plain

/-- The text behind a mark up to the next character of a class, and the rest. -/
def splitPart (mark : Char) (stop : Char → Bool) (text : Text) : Option Text × Text :=
  match text with
  | c :: rest =>
    if c = mark then
      let part := rest.takeWhile fun d => !stop d
      (some part, rest.drop part.length)
    else (none, text)
  | [] => (none, [])

/-- A name or a value of a parameter. -/
def readParameterText (text : Text) : Text :=
  Text.percentDecode (text.map fun c => if c = '+' then ' ' else c)

/-- One parameter; one without a value does not count. -/
def readParameter (text : Text) : Option (Text × Text) :=
  match text.dropWhile (· ≠ '=') with
  | _ :: c :: value =>
    some (readParameterText (text.takeWhile (· ≠ '=')), readParameterText (c :: value))
  | _ => none

/-- Adds a value to a parameter. -/
def addParameter (parameters : List (Text × List Text)) (name value : Text) :
    List (Text × List Text) :=
  match parameters with
  | [] => [(name, [value])]
  | (n, values) :: rest =>
    if n = name then (n, values ++ [value]) :: rest else (n, values) :: addParameter rest name value

/-- The parameters of a text. -/
def readParameters (text : Text) : List (Text × List Text) :=
  ((text.splitOn '&').filterMap readParameter).foldl (fun ps (n, v) => addParameter ps n v) []

/-- The characters of driver names. -/
def isDriverChar (c : Char) : Bool := Text.isWordChar c || c = '+'

/-- The parts of a text. -/
def ofText (text : Text) : Except Error DatabaseUrl := do
  let driver := text.takeWhile isDriverChar
  let rest := text.drop driver.length
  if driver.isEmpty ∨ !("://".toList.isPrefixOf rest) then throw .noDriver
  let (user, password, rest) := splitUser (rest.drop 3)
  let (host, rest) := splitHost rest
  let (port, rest) := splitPart ':' (fun c => c = '/' || c = '?') rest
  let (database, rest) := splitPart '/' (· = '?') rest
  let (parameters, _) := splitPart '?' (· = '\n') rest
  let port ← port.mapM fun text => (Number.readInteger text).mapError .port
  return {
    driver
    user := user.map Text.percentDecode
    password := password.map Text.percentDecode
    host
    port
    database := database.map Text.percentDecode
    parameters := (parameters.map readParameters).getD [] }

/-- The text of a name or a value of a parameter. -/
def parameterText (text : Text) : Text :=
  (Text.percentEncode [' '] text).map fun c => if c = ' ' then '+' else c

/-- The text of the parameters, in the order of their names. -/
def parametersText (parameters : List (Text × List Text)) : Text :=
  let sorted := parameters.mergeSort fun p q => !(decide (q.1 < p.1))
  let pairs := sorted.flatMap fun (name, values) =>
    values.map fun v => parameterText name ++ '=' :: parameterText v
  if pairs.isEmpty then [] else '?' :: List.intercalate ['&'] pairs

/-- The text of a URL, with a mark in place of its password. -/
def toText (u : DatabaseUrl) : Text :=
  let user := match u.user with
    | some name =>
      Text.percentEncode [' ', '+'] name ++
        (if u.password.isSome then ":***".toList else []) ++ ['@']
    | none => []
  let host := match u.host with
    | some host => if host.contains ':' then '[' :: (host ++ [']']) else host
    | none => []
  let port := match u.port with
    | some port => ':' :: Text.ofInt port
    | none => []
  let database := match u.database with
    | some database => '/' :: Text.percentEncode [' ', '+', '/'] database
    | none => []
  u.driver ++ "://".toList ++ user ++ host ++ port ++ database ++ parametersText u.parameters

end DatabaseUrl

end SqliteAccess
