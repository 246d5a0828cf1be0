import SqliteAccess.Json.Writer
import SqliteAccess.Log.Level
import SqliteAccess.Log.Redaction

/-!
# Log events and their lines

An event is written as one line that holds one JSON object: the bound fields, the fields of the
call, and then the name of the event, its level, its logger and the time. A field of the same name
keeps its place and takes the later value. Redaction comes last, so that it covers every field.

## Main definitions

* `Log.Event` : an event.
* `Log.Event.record` : the fields of its line.
* `Log.Event.line` : its line.
-/

namespace SqliteAccess.Log

/-- An event. -/
structure Event where
  level : Level
  name : Text
  logger : Text
  /-- The fields that the logger carries. -/
  bound : Fields := []
  /-- The fields of the call. -/
  fields : Fields := []

namespace Event

/-- The fields that hold a trace of the program instead of data. They are not written. -/
def traceFields : List Text := ["stack_info".toList, "exc_info".toList]

/-- All fields of an event, before redaction. No key occurs twice. -/
def assembled (e : Event) (time : Text) : Fields :=
  let given : Fields := (Fields.putAll [] e.bound).putAll e.fields
  (((given.put "event".toList (.text e.name)).put "level".toList (.text e.level.name)).put
    "logger".toList (.text e.logger)).put "timestamp".toList (.text time)

/-- The fields of the line. -/
def record (e : Event) (time : Text) : Fields :=
  (redact (e.assembled time)).filter fun f => !traceFields.contains f.1

/-- The line of an event. -/
def line (e : Event) (time : Text) : Text := (Json.object (e.record time)).write

end Event

/-- The name that a logger shows; the logger without a name is the root of all loggers. -/
def loggerName (name : Text) : Text := if name.isEmpty then "root".toList else name

/-- The logger of events with bound fields. -/
def contextLogger : Text := "gpkg_sqlkit.utils.logging".toList

/-- The lines of the events that reach a threshold. -/
def written (threshold : Nat) (time : Text) (events : List Event) : List Text :=
  (events.filter fun e => threshold ≤ e.level.rank).map fun e => e.line time

end SqliteAccess.Log
