import SqliteAccess.Log.Event
import SqliteAccess.Settings.Basic

/-!
# Loading settings

Settings are read from sources of falling priority: keyword values, the environment, the
environment file, the defaults. Each setting is taken from the first source that gives it, and the
values of all settings are judged one by one in a fixed order. The database is judged only when
all values are acceptable.

## Main definitions

* `Environment` : the variables of a process.
* `Settings.Source` : named values of one origin.
* `Settings.find` : the value of a setting, with the name under which it was given.
* `Settings.load` : the settings of a list of sources.
* `Settings.loadEvents` : what is logged while they are loaded.
-/

namespace SqliteAccess

/-- The variables of a process, in the order in which they were first set. -/
abbrev Environment := List (Text × Text)

namespace Environment

/-- The value of a variable of an exact name: what was written last under it. -/
def get? (env : Environment) (name : Text) : Option Text :=
  (env.reverse.find? fun v => v.1 = name).map (·.2)

/-- Removes a variable. -/
def unset (env : Environment) (name : Text) : Environment := env.filter fun v => v.1 ≠ name

/-- Sets a variable: one that is set already keeps its place, a new one comes last. -/
def set (env : Environment) (name value : Text) : Environment :=
  if (env.get? name).isSome then env.map fun v => if v.1 = name then (name, value) else v
  else env ++ [(name, value)]

/-- Sets variables one after the other. -/
def setAll (env new : Environment) : Environment := new.foldl (fun e v => e.set v.1 v.2) env

end Environment

namespace Settings

/-- Named values of one origin, in order. -/
structure Source where
  /-- Whether the names of the flags carry the name of the package in front. -/
  qualified : Bool
  values : Fields

/-- The values of keywords. -/
def Source.ofKeywords (values : Fields) : Source := ⟨false, values⟩

/-- The variables of a process or of an environment file. -/
def Source.ofVariables (assignments : List (Text × Text)) : Source :=
  ⟨true, assignments.map fun (name, value) => (name, .text value)⟩

/-- The settings, in the order in which they are judged. -/
inductive Key
  | deployment
  | logLevel
  | database
  | echo
  | verbose
  deriving DecidableEq

/-- The place that an issue names, and the name under which a source gives the setting, for each
name of the setting in the order of precedence within one source. -/
def Key.names (qualified : Bool) : Key → List (Text × Text)
  | deployment => [("ENVIRONMENT".toList, "ENVIRONMENT".toList)]
  | logLevel => [("LOG_LEVEL".toList, "LOG_LEVEL".toList)]
  | database =>
    [("DATABASE_URL".toList, "DATABASE_URL".toList),
      ("GPKG_DATABASE_URL".toList, "GPKG_DATABASE_URL".toList)]
  | echo =>
    [("sql_echo".toList, if qualified then "GPKG_SQL_ECHO".toList else "sql_echo".toList)]
  | verbose =>
    [("debug_verbose".toList,
      if qualified then "GPKG_DEBUG_VERBOSE".toList else "debug_verbose".toList)]

/-- The value that a source gives for a name in any case. Of several spellings of the name the last
one counts. -/
def Source.get? (s : Source) (name : Text) : Option Json :=
  (s.values.reverse.find? fun v => Text.foldCase v.1 = Text.foldCase name).map (·.2)

/-- The value that a source gives for a setting, with the place that an issue names. -/
def Source.find (s : Source) (key : Key) : Option (Text × Json) :=
  (key.names s.qualified).findSome? fun (place, name) => (s.get? name).map fun v => (place, v)

/-- The value of a setting, from the first source that gives it. -/
def find (sources : List Source) (key : Key) : Option (Text × Json) :=
  sources.findSome? fun s => s.find key

/-- The spellings of truth. -/
def trueTexts : List Text :=
  ["1".toList, "true".toList, "t".toList, "yes".toList, "y".toList, "on".toList]

/-- The spellings of falsehood. -/
def falseTexts : List Text :=
  ["0".toList, "false".toList, "f".toList, "no".toList, "n".toList, "off".toList]

/-- The truth value of a JSON value. Texts are compared in any ASCII case and not trimmed. -/
def readBoolean : Json → Except Cause Bool
  | .boolean value => .ok value
  | .integer 0 => .ok false
  | .integer 1 => .ok true
  | .integer _ => .error .unreadableBoolean
  | .text value =>
    let folded := value.map Char.toLower
    if trueTexts.contains folded then .ok true
    else if falseTexts.contains folded then .ok false
    else .error .unreadableBoolean
  | _ => .error .notABoolean

/-- The text of a JSON value. -/
def readText : Json → Except Cause Text
  | .text value => .ok value
  | _ => .error .notAText

/-- The deployment of a JSON value. -/
def readDeployment : Json → Except Cause Deployment
  | .text name =>
    match Deployment.ofName? name with
    | some d => .ok d
    | none => .error .notADeployment
  | _ => .error .notADeployment

/-- Judges one value: the setting, or the default with an issue. -/
def judge {α : Type} (sources : List Source) (key : Key) (default : α)
    (read : Json → Except Cause α) : α × List Issue :=
  match find sources key with
  | none => (default, [])
  | some (place, value) =>
    match read value with
    | .ok a => (a, [])
    | .error cause => (default, [⟨cause, [place]⟩])

/-- The settings of a list of sources, if every single value is acceptable. -/
def gather (sources : List Source) : Except (List Issue) Settings :=
  let defaults : Settings := {}
  let (deployment, i₁) := judge sources .deployment defaults.deployment readDeployment
  let (logLevel, i₂) := judge sources .logLevel defaults.logLevel readText
  let (database, i₃) := judge sources .database defaults.database readText
  let (echo, i₄) := judge sources .echo defaults.echo readBoolean
  let (verbose, i₅) := judge sources .verbose defaults.verbose readBoolean
  let issues := i₁ ++ i₂ ++ i₃ ++ i₄ ++ i₅
  if issues.isEmpty then .ok ⟨deployment, logLevel, database, echo, verbose⟩ else .error issues

/-- Refuses a database that is not one of SQLite. -/
def requireSupported (s : Settings) : Except (List Issue) Settings :=
  if isSupported s.database then .ok s
  else .error [⟨.unsupportedDatabase (preview s.database), []⟩]

/-- The settings of a list of sources. -/
def load (sources : List Source) : Except (List Issue) Settings :=
  (gather sources).bind requireSupported

/-- The logger of this activity. -/
def logger : Text := "gpkg_sqlkit.config.settings".toList

/-- The event for an issue; only a refused database has one. -/
def Issue.event? (issue : Issue) : Option Log.Event :=
  match issue.cause with
  | .unsupportedDatabase preview =>
    some
      { level := .error
        name := "configuration.unsupported_database".toList
        logger := logger
        fields := [("url_preview".toList, .text preview)] }
  | _ => none

/-- What is logged while settings are loaded. -/
def loadEvents (result : Except (List Issue) Settings) : List Log.Event :=
  match result with
  | .ok _ => []
  | .error issues => issues.filterMap Issue.event?

/-- The sources of settings, from the highest priority to the lowest. -/
def sources (keywords : Fields) (env : Environment) (file : List (Text × Text)) : List Source :=
  [Source.ofKeywords keywords, Source.ofVariables env, Source.ofVariables file]

/-- The sources of a process without keyword values and without an environment file. -/
def processSources (env : Environment) : List Source := sources [] env []

end Settings

end SqliteAccess
