import SqliteAccess.Engine.Report

/-!
# Running scripts

A script is run in three ways. A command runs its statements one after the other and drops their
rows; the first statement that fails ends the run. A query gathers the rows of all statements in one
table, whose header comes from the first statement that delivers a row; statements without rows add
nothing, and a statement whose rows have another number of columns ends the query. A single integer
is the first column of the first row of the first statement alone; a script without a statement and
a statement without a row are failures without a message.

## Main definitions

* `Engine.CommandResult`, `Engine.command` : the result and the report of a command.
* `Engine.Gathered` : the header and the rows that a query has gathered so far.
* `Engine.query` : the report of a query.
* `Engine.ScalarResult`, `Engine.scalar` : the result and the report of a request for a single
  integer.
-/

namespace SqliteAccess.Engine

/-! ### Commands -/

/-- The result of a command. -/
structure CommandResult where
  status : Status := .ok
  /-- The message of a failure. -/
  message : Option Text := none
  deriving DecidableEq

/-- The result of a command that failed. -/
def CommandResult.ofFailure (message : Text) : CommandResult := ⟨.failure, some message⟩

/-- Runs statements one after the other. -/
def runCommands (script : Script) : List Text → Report CommandResult
  | [] => ⟨.ok {}, [], []⟩
  | statement :: rest =>
    let (result, calls) := script.next.discard statement
    match result with
    | .ok () => (runCommands script.tail rest).after calls []
    | .error fault =>
      (ofFault "sql.exec_failed".toList statement fault CommandResult.ofFailure).after calls []

/-- The report of a command. -/
def command (verbose : Bool) (script : Script) (sql : Text) : Report CommandResult :=
  (withStatements sql (runCommands script)).after []
    (traceEvents verbose "sql.exec".toList sql)

/-! ### Queries -/

/-- The message of a query whose statements do not fit together. -/
def incompatible : Text :=
  "sqlite3_get_table() called with two or more incompatible queries".toList

/-- The header and the rows so far. -/
structure Gathered where
  columns : List Text := []
  /-- The header and the rows as one buffer. -/
  cells : List Cell := []
  rowCount : Nat := 0
  deriving DecidableEq

namespace Gathered

/-- The cells of rows. -/
def cellsOf (rows : List (List Value)) : List Cell := rows.flatMap fun row => row.map Value.cell

/-- Adds the rows of a statement, unless they do not fit to the header. While the header is empty
the columns of the statement become the header. -/
def add (g : Gathered) (r : Rows) : Option Gathered :=
  if r.rows.isEmpty then some g
  else if g.columns.isEmpty then
    some ⟨r.columns, g.cells ++ r.columns.map some ++ cellsOf r.rows, g.rowCount + r.rows.length⟩
  else if r.columns.length ≠ g.columns.length then none
  else some ⟨g.columns, g.cells ++ cellsOf r.rows, g.rowCount + r.rows.length⟩

/-- The table of all rows. -/
def table (g : Gathered) : Except Table.Error Table :=
  ({} : Table).fill g.columns.length g.rowCount g.cells .ok none

end Gathered

/-- The name of the event of a statement that failed. -/
def queryFailed : Text := "sql.get_table_failed".toList

/-- Runs statements one after the other and gathers their rows. -/
def runQueries (script : Script) (gathered : Gathered) : List Text → Report Table
  | [] => ⟨gathered.table.mapError .table, [], []⟩
  | statement :: rest =>
    let (result, calls) := script.next.fetchAll statement
    match result with
    | .error fault => (ofFault queryFailed statement fault Table.ofFailure).after calls []
    | .ok rows =>
      match gathered.add rows with
      | some gathered => (runQueries script.tail gathered rest).after calls []
      | none =>
        ⟨.ok (Table.ofFailure incompatible), calls,
          [failureEvent queryFailed statement incompatible]⟩

/-- The report of a query. -/
def query (verbose : Bool) (script : Script) (sql : Text) : Report Table :=
  (withStatements sql (runQueries script {})).after []
    (traceEvents verbose "sql.get_table".toList sql)

/-! ### Single integers -/

/-- The result of a request for a single integer. -/
structure ScalarResult where
  /-- The integer, zero for a failure. -/
  value : Int := 0
  status : Status := .ok
  /-- The message of a failure, if there is one. -/
  message : Option Text := none
  deriving DecidableEq

namespace ScalarResult

/-- The result of a request whose statement failed. -/
def ofFailure (message : Text) : ScalarResult := ⟨0, .failure, some message⟩

/-- The result of a request that met no row. -/
def noRow : ScalarResult := ⟨0, .failure, none⟩

end ScalarResult

/-- The report of the first row of a statement. -/
def ofFirstRow (statement : Text) : Option (List Value) → Report ScalarResult
  | none => ⟨.ok .noRow, [], [noRowEvent statement]⟩
  | some [] => ⟨.error .noColumn, [], []⟩
  | some (value :: _) =>
    ⟨(value.toInteger.map fun n => { value := n }).mapError .number, [], []⟩

/-- Runs one statement and reads its first row. -/
def runScalar (reply : Reply) (statement : Text) : Report ScalarResult :=
  match reply with
  | .refusal fault =>
    (ofFault "sql.prepare_failed".toList statement fault ScalarResult.ofFailure).after
      [.execute statement] []
  | .delivery d =>
    let (row, calls) := Reply.fetchFirst d
    let report := match row with
      | .error fault =>
        ofFault "sql.step_failed".toList statement fault ScalarResult.ofFailure
      | .ok row => ofFirstRow statement row
    report.after (.execute statement :: calls) []

/-- The report of a request for a single integer. -/
def scalar (verbose : Bool) (script : Script) (sql : Text) : Report ScalarResult :=
  let run : List Text → Report ScalarResult
    | [] => ⟨.ok .noRow, [], [noRowEvent sql]⟩
    | statement :: _ => runScalar script.next statement
  (withStatements sql run).after [] (traceEvents verbose "sql.get".toList sql)

end SqliteAccess.Engine
