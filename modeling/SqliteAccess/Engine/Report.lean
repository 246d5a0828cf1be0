import SqliteAccess.Connection
import SqliteAccess.Log.Event
import SqliteAccess.Settings.Basic
import SqliteAccess.Statement.Split
import SqliteAccess.Table.Basic

/-!
# Reports of engine calls

A call into the engine yields a report: the result or the reason why there is none, the calls that
were made on the connection, and the events that were logged. Errors of the database are results;
only what does not come from the database ends a call without one.

## Main definitions

* `Engine.Crash` : why a call ends without a result.
* `Engine.Report` : what a call yields.
* `Engine.faultMessage` : the message of an error of the database.
-/

namespace SqliteAccess.Engine

/-- Why a call ends without a result. -/
inductive Crash
  /-- The settings cannot be loaded. -/
  | settings (issues : List Settings.Issue)
  /-- The script cannot be split into statements. -/
  | script (error : Statement.Error)
  /-- The rows do not fit into one table. -/
  | table (error : Table.Error)
  /-- The value spells no integer. -/
  | number (error : Number.Error)
  /-- The first row has no column. -/
  | noColumn
  /-- An error that does not come from the database. -/
  | foreign (message : Text)

/-- The wording of a crash; issues of the settings have their own. -/
def Crash.message : Crash → Text
  | settings _ => []
  | script error => error.message
  | table error => error.message
  | number error => error.message
  | noColumn => "tuple index out of range".toList
  | foreign message => message

/-- What a call yields. -/
structure Report (α : Type) where
  outcome : Except Crash α
  calls : List Call := []
  events : List Log.Event := []

namespace Report

variable {α β : Type}

/-- The report of a call that follows calls and events. -/
def after (calls : List Call) (events : List Log.Event) (r : Report α) : Report α :=
  ⟨r.outcome, calls ++ r.calls, events ++ r.events⟩

/-- A report with another result. -/
def map (f : α → β) (r : Report α) : Report β := ⟨r.outcome.map f, r.calls, r.events⟩

end Report

/-- The logger of the engine. -/
def logger : Text := "gpkg_sqlkit.infrastructure.sql.operations.engine".toList

/-- The trace of a call before it runs. -/
def traceEvents (verbose : Bool) (name sql : Text) : List Log.Event :=
  if verbose then
    [{ level := .debug, name := name, logger := logger, fields := [("sql".toList, .text sql)] }]
  else []

/-- The event of a statement that failed. -/
def failureEvent (name statement message : Text) : Log.Event :=
  { level := .error
    name := name
    logger := logger
    fields := [("sql".toList, .text statement), ("error".toList, .text message)] }

/-- The event of a statement without a row. -/
def noRowEvent (sql : Text) : Log.Event :=
  { level := .debug
    name := "sql.get_no_row".toList
    logger := logger
    fields := [("sql".toList, .text sql)] }

/-- The message of an error of the database: the words of the driver, if there are any. -/
def faultMessage (statement : Text) : Fault → Except Text Text
  | .driver message => .ok message
  | .wordless => .ok (Fault.wordlessMessage statement)
  | .library message => .ok message
  | .foreign message => .error message

/-- The report of a fault: the failure that `result` makes of the message, with its event, or the
crash of an error that does not come from the database. -/
def ofFault {α : Type} (event statement : Text) (fault : Fault) (result : Text → α) : Report α :=
  match faultMessage statement fault with
  | .ok message => ⟨.ok (result message), [], [failureEvent event statement message]⟩
  | .error message => ⟨.error (.foreign message), [], []⟩

/-- Splits a script and goes on with its statements. -/
def withStatements {α : Type} (sql : Text) (run : List Text → Report α) : Report α :=
  match Statement.split sql with
  | .ok statements => run statements
  | .error error => ⟨.error (.script error), [], []⟩

end SqliteAccess.Engine
