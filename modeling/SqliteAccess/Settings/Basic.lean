import SqliteAccess.Text.Basic

/-!
# Settings

The settings of the library say where the database is, how much is logged, and in which deployment
the program runs. Only SQLite databases are accepted: a URL has to start with the scheme, and a
value that is no URL is the path of a database file.

## Main definitions

* `Settings` : the settings with their defaults.
* `Settings.connectionString` : the URL of the database.
* `Settings.Issue` : why a value is refused.
-/

namespace SqliteAccess

/-- The deployment in which the program runs. -/
inductive Deployment
  | development
  | staging
  | production
  deriving DecidableEq

/-- The name of a deployment. -/
def Deployment.name : Deployment → Text
  | development => "dev".toList
  | staging => "staging".toList
  | production => "prod".toList

/-- The deployment of an exact name. -/
def Deployment.ofName? (name : Text) : Option Deployment :=
  [development, staging, production].find? fun d => d.name = name

/-- The settings of the library. -/
structure Settings where
  deployment : Deployment := .development
  /-- The name of the log threshold. -/
  logLevel : Text := "INFO".toList
  /-- The URL of the database, or the path of its file. -/
  database : Text := "sqlite://".toList
  /-- Whether the engine shows every statement. -/
  echo : Bool := false
  /-- Whether every call is logged before it runs. -/
  verbose : Bool := false
  deriving DecidableEq

namespace Settings

/-- What tells a URL from the path of a file. -/
def urlMark : Text := "://".toList

/-- The scheme that every accepted URL starts with. -/
def scheme : Text := "sqlite".toList

/-- The URL of the database. A value without the mark of a URL is the path of a file. -/
def connectionString (database : Text) : Text :=
  if Text.occursIn urlMark database then database else "sqlite:///".toList ++ database

/-- Whether the database is one that this library serves. -/
def isSupported (database : Text) : Bool := scheme.isPrefixOf (connectionString database)

/-- How much of a refused URL is shown. -/
def previewLength : Nat := 20

/-- The front of a refused URL. -/
def preview (database : Text) : Text := (connectionString database).take previewLength

/-- Why a value is refused, without its place. -/
inductive Cause
  /-- The value is the name of no deployment. -/
  | notADeployment
  /-- The value is no text. -/
  | notAText
  /-- The value is of a kind that is never a truth value. -/
  | notABoolean
  /-- The value is a text or a number that spells no truth value. -/
  | unreadableBoolean
  /-- The URL is not one of SQLite. -/
  | unsupportedDatabase (preview : Text)
  deriving DecidableEq

/-- Why a value is refused, with the name under which it was given. -/
structure Issue where
  cause : Cause
  location : List Text
  deriving DecidableEq

/-- The short name of a cause. -/
def Cause.code : Cause → Text
  | notADeployment => "literal_error".toList
  | notAText => "string_type".toList
  | notABoolean => "bool_type".toList
  | unreadableBoolean => "bool_parsing".toList
  | unsupportedDatabase _ => "value_error".toList

/-- The wording of a cause. -/
def Cause.message : Cause → Text
  | notADeployment => "Input should be 'dev', 'staging' or 'prod'".toList
  | notAText => "Input should be a valid string".toList
  | notABoolean => "Input should be a valid boolean".toList
  | unreadableBoolean => "Input should be a valid boolean, unable to interpret input".toList
  | unsupportedDatabase preview =>
    "Value error, DATABASE_URL must use a SQLite URL (sqlite://...), got: ".toList ++ preview ++
      "...".toList

end Settings

end SqliteAccess
