import SqliteAccess.Number.Spelling
import SqliteAccess.Text.Case

/-!
# Parameters of a connection

A database URL may carry parameters for the connection. Six names are known; each has a form that
its value must have, and the values are judged in a fixed order. A name that is given more than
once has a list of values, which is neither a number nor a false flag.

## Main definitions

* `Engine.Parameter` : the known parameters.
* `Engine.Parameter.check` : judges the values of a parameter.
* `Engine.checkParameters` : judges all known parameters.
* `Engine.isFileUri` : whether the database is to be named by a file URI.
-/

namespace SqliteAccess.Engine

/-- The known parameters of a connection. -/
inductive Parameter
  | uri
  | timeout
  | isolationLevel
  | detectTypes
  | checkSameThread
  | cachedStatements
  deriving DecidableEq

namespace Parameter

/-- The forms of values. -/
inductive Form
  | flag
  | real
  | text
  | integer
  deriving DecidableEq

/-- Why the values of a parameter are refused. -/
inductive Error
  /-- The text spells no truth value. -/
  | notAFlag (text : Text)
  /-- The text spells no real number. -/
  | notAReal (text : Text)
  /-- The text spells no integer. -/
  | integer (error : Number.SpellingError)
  /-- A real number is given more than once. -/
  | repeatedReal
  /-- An integer is given more than once. -/
  | repeatedInteger
  deriving DecidableEq

/-- The wording of an error. -/
def Error.message : Error → Text
  | notAFlag text => "String is not true/false: ".toList ++ Text.display text
  | notAReal text => "could not convert string to float: ".toList ++ Text.display text
  | integer error => error.message
  | repeatedReal => "float() argument must be a string or a real number, not 'tuple'".toList
  | repeatedInteger =>
    "int() argument must be a string, a bytes-like object or a real number, not 'tuple'".toList

/-- The parameters in the order in which they are judged. -/
def all : List Parameter :=
  [uri, timeout, isolationLevel, detectTypes, checkSameThread, cachedStatements]

/-- The name of a parameter. -/
def name : Parameter → Text
  | uri => "uri".toList
  | timeout => "timeout".toList
  | isolationLevel => "isolation_level".toList
  | detectTypes => "detect_types".toList
  | checkSameThread => "check_same_thread".toList
  | cachedStatements => "cached_statements".toList

/-- The form of the value of a parameter. -/
def form : Parameter → Form
  | uri => .flag
  | timeout => .real
  | isolationLevel => .text
  | detectTypes => .integer
  | checkSameThread => .flag
  | cachedStatements => .integer

/-- The spellings of truth. -/
def trueTexts : List Text :=
  ["true".toList, "yes".toList, "on".toList, "y".toList, "t".toList, "1".toList]

/-- The spellings of falsehood. -/
def falseTexts : List Text :=
  ["false".toList, "no".toList, "off".toList, "n".toList, "f".toList, "0".toList]

/-- The truth value of a text in any case and between any blanks. -/
def readFlagText (text : Text) : Except Error Bool :=
  let folded := Text.lower (Text.strip text)
  if trueTexts.contains folded then .ok true
  else if falseTexts.contains folded then .ok false
  else .error (.notAFlag folded)

/-- The truth value of the values of a flag; a list of values is true. -/
def readFlag : List Text → Except Error Bool
  | [text] => readFlagText text
  | values => .ok (!values.isEmpty)

/-- Judges the values of a real number. -/
def checkReal : List Text → Except Error Unit
  | [text] => if Number.isReal text then .ok () else .error (.notAReal text)
  | _ => .error .repeatedReal

/-- Judges the values of an integer. -/
def checkInteger : List Text → Except Error Unit
  | [text] => ((Number.readInteger text).map fun _ => ()).mapError .integer
  | _ => .error .repeatedInteger

/-- Judges values of a form. -/
def Form.check (values : List Text) : Form → Except Error Unit
  | flag => (readFlag values).map fun _ => ()
  | real => checkReal values
  | text => .ok ()
  | integer => checkInteger values

/-- Judges the values of a parameter; one that is not given is accepted. -/
def check (given : List (Text × List Text)) (p : Parameter) : Except Error Unit :=
  match given.lookup p.name with
  | some values => p.form.check values
  | none => .ok ()

end Parameter

/-- Judges all known parameters. -/
def checkParameters (given : List (Text × List Text)) : Except Parameter.Error Unit :=
  Parameter.all.forM (Parameter.check given)

/-- Whether the database is to be named by a file URI. -/
def isFileUri (given : List (Text × List Text)) : Bool :=
  match (given.lookup Parameter.uri.name).map Parameter.readFlag with
  | some (.ok value) => value
  | _ => false

/-- Whether parameters without a known name are left, which belong to the file URI. -/
def hasUriParameters (given : List (Text × List Text)) : Bool :=
  given.any fun (name, _) => !(Parameter.all.map Parameter.name).contains name

end SqliteAccess.Engine
