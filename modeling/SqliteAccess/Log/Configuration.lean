import SqliteAccess.Settings.Cache
import SqliteAccess.Settings.Location

/-!
# Where log lines go

Log lines are always written to the standard stream, and on request to a file of the day too. Both
have the threshold that the settings name. If the settings cannot be loaded, the variable that
names the threshold is read directly.

## Main definitions

* `Log.Configuration` : the threshold and the file.
* `Log.configure` : the configuration of a process.
-/

namespace SqliteAccess.Log

/-- The threshold of all lines, and the file in which they are kept besides the stream. -/
structure Configuration where
  threshold : Nat
  file : Option FilePath

/-- The lines that events write, to the stream and to the file alike. -/
def Configuration.lines (c : Configuration) (time : Text) (events : List Event) : List Text :=
  written c.threshold time events

/-- The variable that names the threshold. -/
def levelVariable : Text := "LOG_LEVEL".toList

/-- The name of the threshold when nothing names it. -/
def defaultLevel : Text := "INFO".toList

/-- The name of the threshold, given an attempt to load the settings. -/
def levelName (env : Environment) (settings : Except (List Settings.Issue) Settings) : Text :=
  match settings with
  | .ok s => s.logLevel
  | .error _ => (env.get? levelVariable).getD defaultLevel

/-- The values that ask for a file, in lower case. -/
def requests : List Text := ["1".toList, "true".toList, "yes".toList]

/-- The file of a day. -/
def fileOf (env : Environment) (day : Text) : Option FilePath :=
  if requests.contains (((env.get? "LOG_TO_FILE".toList).getD []).map Char.toLower) then
    let directory := (env.get? "LOG_FILE_DIR".toList).getD "logs".toList
    some ((FilePath.ofText directory).join
      ⟨[], ["gpkg-sqlkit-".toList ++ day ++ ".log".toList]⟩)
  else none

/-- The configuration of a process. The settings are loaded on the way and stay cached. -/
def configure (cache : Settings.Cache) (day : Text) :
    Except ThresholdError Configuration × Settings.Cache :=
  let reading := cache.get
  let env := cache.environment
  ((threshold (levelName env reading.result)).map fun t => ⟨t, fileOf env day⟩, reading.cache)

end SqliteAccess.Log
