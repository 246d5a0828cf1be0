import SqliteAccess.Text.Display

/-!
# Drivers

The front of a database URL names a dialect and, behind a plus sign, a member of the dialect. The
dialect for SQLite has drivers that work at once, drivers that need a further package, and members
that are no drivers. Only a member of the first kind makes an engine.

## Main definitions

* `Engine.Member` : what a name stands for in the dialect for SQLite.
* `Engine.Member.ofName?` : the member of a name.
* `Engine.requireDriver` : refuses a name that is not one of a driver that works.
-/

namespace SqliteAccess.Engine

/-- A member of the dialect that is no driver. -/
inductive Item
  /-- A part of the dialect. -/
  | part (name : Text)
  /-- A type. -/
  | type (name : Text)
  /-- An object of a kind. -/
  | object (kind : Text)
  deriving DecidableEq

/-- The wording of an item in a message. -/
def Item.description : Item → Text
  | part name => "module ".toList ++ Text.display ("sqlalchemy.dialects.sqlite.".toList ++ name)
  | type name => "type object ".toList ++ Text.display name
  | object kind => Text.display kind ++ " object".toList

/-- What a name stands for in the dialect for SQLite. -/
inductive Member
  /-- A driver that works at once. -/
  | driver
  /-- A driver that needs a further package. -/
  | packagedDriver (package : Text)
  /-- Something else. -/
  | item (item : Item)
  deriving DecidableEq

namespace Member

/-- The drivers that work at once. -/
def drivers : List Text := ["base".toList, "pysqlite".toList]

/-- The drivers that need a further package. -/
def packagedDrivers : List (Text × Text) :=
  [("aiosqlite".toList, "aiosqlite".toList), ("pysqlcipher".toList, "pysqlcipher3".toList)]

/-- The parts of the dialect that hold no driver. -/
def parts : List Text := ["dml".toList, "json".toList]

/-- The types that the dialect has under their own names. -/
def types : List Text :=
  ["BLOB".toList, "BOOLEAN".toList, "CHAR".toList, "DATE".toList, "DATETIME".toList,
   "DECIMAL".toList, "FLOAT".toList, "INTEGER".toList, "JSON".toList, "NUMERIC".toList,
   "REAL".toList, "SMALLINT".toList, "TEXT".toList, "TIME".toList, "TIMESTAMP".toList,
   "VARCHAR".toList, "Insert".toList]

/-- The types that the dialect has under other names. -/
def renamedTypes : List (Text × Text) :=
  [("dialect".toList, "SQLiteDialect_pysqlite".toList), ("__class__".toList, "module".toList)]

/-- The names of the objects of the dialect, by their kinds. -/
def objects : List (Text × List Text) :=
  [("function".toList, ["insert".toList]),
   ("NoneType".toList, ["__doc__".toList]),
   ("str".toList,
    ["__name__".toList, "__package__".toList, "__file__".toList, "__cached__".toList]),
   ("tuple".toList, ["__all__".toList]),
   ("list".toList, ["__path__".toList]),
   ("dict".toList, ["__annotations__".toList, "__builtins__".toList, "__dict__".toList]),
   ("SourceFileLoader".toList, ["__loader__".toList]),
   ("ModuleSpec".toList, ["__spec__".toList]),
   ("method-wrapper".toList,
    ["__delattr__".toList, "__eq__".toList, "__ge__".toList, "__getattribute__".toList,
     "__gt__".toList, "__hash__".toList, "__init__".toList, "__le__".toList, "__lt__".toList,
     "__ne__".toList, "__repr__".toList, "__setattr__".toList, "__str__".toList]),
   ("builtin_function_or_method".toList,
    ["__dir__".toList, "__format__".toList, "__getstate__".toList, "__init_subclass__".toList,
     "__new__".toList, "__reduce__".toList, "__reduce_ex__".toList, "__sizeof__".toList,
     "__subclasshook__".toList])]

/-- The members of the dialect with their names. -/
def named : List (Text × Member) :=
  drivers.map (fun name => (name, .driver)) ++
    packagedDrivers.map (fun (name, package) => (name, .packagedDriver package)) ++
    parts.map (fun name => (name, .item (.part name))) ++
    types.map (fun name => (name, .item (.type name))) ++
    renamedTypes.map (fun (name, type) => (name, .item (.type type))) ++
    objects.flatMap fun (kind, names) => names.map fun name => (name, .item (.object kind))

/-- The member of a name. -/
def ofName? (name : Text) : Option Member := named.lookup name

end Member

/-- Why a name is not one of a driver that works. -/
inductive DriverError
  /-- The name has more than two parts. -/
  | tooManyParts
  /-- There is no dialect or no member of that name. -/
  | unknown (name : Text)
  /-- The driver needs a package that is not there. -/
  | missingPackage (name : Text)
  /-- The member is no driver. -/
  | notADriver (item : Item)
  deriving DecidableEq

/-- The wording of an error. A name is shown with points between its parts. -/
def DriverError.message : DriverError → Text
  | tooManyParts => "too many values to unpack (expected 2)".toList
  | unknown name =>
    "Can't load plugin: sqlalchemy.dialects:".toList ++
      name.map fun c => if c = '+' then '.' else c
  | missingPackage name => "No module named ".toList ++ Text.display name
  | notADriver item => item.description ++ " has no attribute 'dialect'".toList

/-- The name of the dialect for SQLite. -/
def dialectName : Text := "sqlite".toList

/-- Refuses a name that is not one of a driver that works. The name of the dialect alone stands for
its basic driver. -/
def requireDriver (name : Text) : Except DriverError Unit :=
  match name.splitOn '+' with
  | [dialect] => if dialect = dialectName then .ok () else .error (.unknown name)
  | [dialect, driver] =>
    if dialect ≠ dialectName then .error (.unknown name)
    else
      match Member.ofName? driver with
      | none => .error (.unknown name)
      | some .driver => .ok ()
      | some (.packagedDriver package) => .error (.missingPackage package)
      | some (.item item) => .error (.notADriver item)
  | _ => .error .tooManyParts

end SqliteAccess.Engine
