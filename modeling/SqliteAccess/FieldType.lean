import SqliteAccess.Text.Display

/-!
# Field types and storage classes

A vector layer declares its fields with abstract types. SQLite stores five classes of values, and
the fields of some types have no storage class of their own.

## Main definitions

* `FieldType` : the abstract types, with their names.
* `StorageClass` : the storage classes, with their names and codes.
* `FieldType.storageClass` : the class in which a field is stored.
-/

namespace SqliteAccess

/-- The abstract type of a field of a vector layer. -/
inductive FieldType
  | integer
  | integerList
  | real
  | realList
  | string
  | stringList
  | binary
  | date
  | time
  | datetime
  | integer64
  | integer64List
  deriving DecidableEq

/-- The storage classes of SQLite, with one for a field that has none. -/
inductive StorageClass
  | unknown
  | integer
  | float
  | text
  | blob
  deriving DecidableEq

namespace FieldType

/-- Every field type. -/
def all : List FieldType :=
  [integer, integerList, real, realList, string, stringList, binary, date, time, datetime,
    integer64, integer64List]

/-- The name under which a layer declares the type. -/
def name : FieldType → Text
  | integer => "integer".toList
  | integerList => "integer_list".toList
  | real => "real".toList
  | realList => "real_list".toList
  | string => "string".toList
  | stringList => "string_list".toList
  | binary => "binary".toList
  | date => "date".toList
  | time => "time".toList
  | datetime => "datetime".toList
  | integer64 => "integer64".toList
  | integer64List => "integer64_list".toList

/-- The field type of an exact name. -/
def ofName (name : Text) : Except UnknownName FieldType :=
  match all.find? fun t => t.name = name with
  | some t => .ok t
  | none => .error ⟨"FieldType".toList, name⟩

/-- The class in which a field of the type is stored. -/
def storageClass : FieldType → StorageClass
  | integer => .integer
  | real => .float
  | string => .text
  | binary => .blob
  | date => .text
  | datetime => .text
  | _ => .unknown

end FieldType

namespace StorageClass

/-- The name of a storage class. -/
def name : StorageClass → Text
  | unknown => "UNKNOWN".toList
  | integer => "INTEGER".toList
  | float => "FLOAT".toList
  | text => "TEXT".toList
  | blob => "BLOB".toList

/-- The datatype code of a storage class; no class has code zero. -/
def code : StorageClass → Nat
  | unknown => 0
  | integer => 1
  | float => 2
  | text => 3
  | blob => 4

end StorageClass

end SqliteAccess
