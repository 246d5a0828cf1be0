import SqliteAccess.Text.Case

/-!
# Log levels

An event has one of five levels. The threshold below which nothing is written is given by a name
in any case; a name that is no level selects the level of plain information.

## Main definitions

* `Log.Level` : the level of an event.
* `Log.threshold` : the threshold of a name.
-/

namespace SqliteAccess.Log

/-- The level of an event. -/
inductive Level
  | debug
  | info
  | warning
  | error
  | critical
  deriving DecidableEq

namespace Level

/-- The name of a level. -/
def name : Level → Text
  | debug => "debug".toList
  | info => "info".toList
  | warning => "warning".toList
  | error => "error".toList
  | critical => "critical".toList

/-- The rank of a level. -/
def rank : Level → Nat
  | debug => 10
  | info => 20
  | warning => 30
  | error => 40
  | critical => 50

/-- The level of a name; a warning has a short name too. -/
def ofName? (name : Text) : Option Level :=
  if name = "warn".toList then some warning
  else [debug, info, warning, error, critical].find? fun l => l.name = name

end Level

/-- Why a threshold cannot be set: the name stands for something that is not a level. -/
inductive ThresholdError
  /-- The name of the standard line format. -/
  | lineFormat
  /-- The name of the table of format styles. -/
  | styleTable
  deriving DecidableEq

/-- The standard line format. -/
def lineFormat : Text := "%(levelname)s:%(name)s:%(message)s".toList

/-- The table of format styles as it is displayed. -/
def styleTable : Text :=
  "\x7b'%': (<class 'logging.PercentStyle'>, '".toList ++ lineFormat ++
    "'), '\x7b': (<class 'logging.StrFormatStyle'>, '".toList ++
    "\x7blevelname\x7d:\x7bname\x7d:\x7bmessage\x7d'), ".toList ++
    "'$': (<class 'logging.StringTemplateStyle'>, ".toList ++
    "'$\x7blevelname\x7d:$\x7bname\x7d:$\x7bmessage\x7d')\x7d".toList

/-- The wording of an error. -/
def ThresholdError.message : ThresholdError → Text
  | lineFormat => "Unknown level: '".toList ++ Log.lineFormat ++ "'".toList
  | styleTable => "Level not an integer or a valid string: ".toList ++ Log.styleTable

/-- The names of thresholds, in upper case. -/
def thresholds : List (Text × Nat) :=
  [("CRITICAL".toList, 50), ("FATAL".toList, 50), ("ERROR".toList, 40), ("WARNING".toList, 30),
    ("WARN".toList, 30), ("INFO".toList, 20), ("DEBUG".toList, 10), ("NOTSET".toList, 0)]

/-- The threshold of a name in any case. -/
def threshold (name : Text) : Except ThresholdError Nat :=
  let spelling := Text.upper name
  if spelling = "BASIC_FORMAT".toList then .error .lineFormat
  else if spelling = "_STYLES".toList then .error .styleTable
  else .ok ((thresholds.lookup spelling).getD Level.info.rank)

end SqliteAccess.Log
