import SqliteAccess.DatabaseUrl
import SqliteAccess.Engine.Driver
import SqliteAccess.Engine.Parameter
import SqliteAccess.Settings.Basic

/-!
# The database behind an engine

An engine is made from the settings without a connection being opened. The URL has to name a driver
for SQLite, and it must not name a host, a port or a user, because SQLite databases are files. The
parameters that ask for plugins are taken from the URL first; no plugin can be loaded.

## Main definitions

* `Engine.Target` : the driver, the database and the parameters of an engine.
* `Engine.requireNoPlugin` : refuses parameters that ask for a plugin.
* `Engine.checkFile` : judges the database and the parameters of a URL.
* `Engine.target` : the target that settings describe.
-/

namespace SqliteAccess.Engine

/-- The driver, the database and the parameters of an engine. -/
structure Target where
  driver : Text
  database : Option Text
  parameters : List (Text × List Text)
  echo : Bool

/-- Why settings describe no engine. -/
inductive TargetError
  /-- The database is not a URL. -/
  | url (error : DatabaseUrl.Error)
  /-- There is no plugin of that name. -/
  | unknownPlugin (name : Text)
  /-- The URL names no driver that works. -/
  | driver (error : DriverError)
  /-- The URL names a host, a port or a user. -/
  | notAFile (url : DatabaseUrl)
  /-- A parameter has no acceptable value. -/
  | parameter (error : Parameter.Error)
  /-- A file URI has parameters but no file. -/
  | noFile

/-- The wording of an error. -/
def TargetError.message : TargetError → Text
  | url error => error.message
  | unknownPlugin name => "Can't load plugin: sqlalchemy.plugins:".toList ++ name
  | driver error => error.message
  | notAFile u =>
    "Invalid SQLite URL: ".toList ++ u.toText ++
      "\nValid SQLite URL forms are:\n sqlite:///:memory: (or, sqlite://)\n".toList ++
      " sqlite:///relative/path/to/file.db\n sqlite:////absolute/path/to/file.db".toList
  | parameter error => error.message
  | noFile => "unsupported operand type(s) for +=: 'NoneType' and 'str'".toList

/-- The name of the parameter that asks for plugins. -/
def pluginName : Text := "plugin".toList

/-- The names of the parameters that are taken from a URL. -/
def takenNames : List Text := [pluginName, "plugins".toList]

/-- Refuses parameters that ask for a plugin. -/
def requireNoPlugin (u : DatabaseUrl) : Except TargetError Unit :=
  match (u.parameters.lookup pluginName).bind List.head? with
  | some name => .error (.unknownPlugin name)
  | none => .ok ()

/-- The URL without the parameters that ask for plugins. -/
def withoutPlugins (u : DatabaseUrl) : DatabaseUrl :=
  { u with parameters := u.parameters.filter fun p => !takenNames.contains p.1 }

/-- Whether a part of a URL is there and not empty. -/
def isGiven (part : Option Text) : Bool := part.any fun t => !t.isEmpty

/-- Whether a URL names a host, a port or a user. The port zero does not count. -/
def namesServer (u : DatabaseUrl) : Bool :=
  isGiven u.user || isGiven u.password || isGiven u.host || u.port.any (· ≠ 0)

/-- Judges the database and the parameters of a URL. -/
def checkFile (u : DatabaseUrl) : Except TargetError Unit := do
  if namesServer u then throw (.notAFile u)
  (checkParameters u.parameters).mapError .parameter
  if isFileUri u.parameters && hasUriParameters u.parameters && u.database.isNone then
    throw .noFile

/-- The target that settings describe. -/
def target (settings : Settings) : Except TargetError Target := do
  let url ← (DatabaseUrl.ofText (Settings.connectionString settings.database)).mapError .url
  requireNoPlugin url
  (requireDriver url.driver).mapError .driver
  let url := withoutPlugins url
  checkFile url
  return ⟨url.driver, url.database, url.parameters, settings.echo⟩

end SqliteAccess.Engine
