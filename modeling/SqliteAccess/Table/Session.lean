import SqliteAccess.Table.Basic

/-!
# Working with a table

A session is a table together with the row iterators that have been opened on it. Every operation
either answers or fails, and a failing operation leaves the table as it was.

A row iterator is opened without looking at its table. Its first step requires a populated table
and fixes the width of a row and the number of rows; every later step slices the buffer as it is
then. An iterator that has failed or has delivered its last row stays exhausted.

## Main definitions

* `RowIterator` : the position of an iterator.
* `RowIterator.next` : one step against the table as it is now.
* `Table.Operation` : what can be asked of a table.
* `Table.Answer` : what it answers.
* `Table.Session.perform` : one operation.
-/

namespace SqliteAccess

/-- The position of a row iterator. -/
inductive RowIterator
  /-- No step has been made. -/
  | fresh
  /-- The layout is fixed, and `next` is the row of the next step. -/
  | active (width rowCount next : Nat)
  /-- No row is left. -/
  | exhausted
  deriving DecidableEq

namespace RowIterator

/-- A step at a fixed layout. -/
def advance (t : Table) (width rowCount next : Nat) :
    Except Table.Error (List Cell) × RowIterator :=
  if next < rowCount then (.ok (t.slice width next), active width rowCount (next + 1))
  else (.error .exhausted, exhausted)

/-- One step against the table as it is now. -/
def next (i : RowIterator) (t : Table) : Except Table.Error (List Cell) × RowIterator :=
  match i with
  | fresh =>
    match t.requirePopulated with
    | .ok () => advance t t.columnCount t.rowCount 0
    | .error e => (.error e, exhausted)
  | active width rowCount next => advance t width rowCount next
  | exhausted => (.error .exhausted, exhausted)

end RowIterator

namespace Table

/-- What can be asked of a table. -/
inductive Operation
  | fill (columns rows : Int) (cells : List Cell) (status : Status) (error : Option Text)
  | get (column row : Int)
  | getInteger (column row : Int)
  | rows
  | header
  | succeeded
  | failed
  | describe
  | release
  /-- The start of a scope that owns the table. -/
  | enter
  /-- The end of such a scope. -/
  | leave
  | openIterator
  | nextRow (iterator : Nat)

/-- What an operation answers. -/
inductive Answer
  | done
  | flag (value : Bool)
  | text (value : Text)
  | integer (value : Int)
  | cell (value : Cell)
  | row (value : List Cell)
  | rows (value : List (List Cell))
  /-- The number of a new iterator. -/
  | iterator (index : Nat)

/-- A table with the row iterators that have been opened on it. -/
structure Session where
  table : Table := {}
  iterators : List RowIterator := []

namespace Session

/-- An operation that reads the table. -/
def reading {α : Type} (s : Session) (answer : α → Answer) (result : Except Error α) :
    Except Error Answer × Session :=
  (result.map answer, s)

/-- An operation that changes the table if it succeeds. -/
def changing (s : Session) (result : Except Error Table) : Except Error Answer × Session :=
  match result with
  | .ok table => (.ok .done, { s with table := table })
  | .error e => (.error e, s)

/-- A step of an iterator. -/
def nextRow (s : Session) (index : Nat) : Except Error Answer × Session :=
  match s.iterators[index]? with
  | none => (.error .missingCell, s)
  | some iterator =>
    let (result, iterator) := iterator.next s.table
    (result.map .row, { s with iterators := s.iterators.set index iterator })

/-- One operation. -/
def perform (s : Session) : Operation → Except Error Answer × Session
  | .fill columns rows cells status error =>
    s.changing (s.table.fill columns rows cells status error)
  | .get column row => s.reading .cell (s.table.get column row)
  | .getInteger column row => s.reading .integer (s.table.getInteger column row)
  | .rows => s.reading .rows s.table.rows
  | .header => s.reading .row s.table.header
  | .succeeded => (.ok (.flag s.table.succeeded), s)
  | .failed => (.ok (.flag s.table.failed), s)
  | .describe => (.ok (.text s.table.describe), s)
  | .release => s.changing s.table.release
  | .enter => (.ok (.flag true), s)
  | .leave => s.changing (.ok s.table.leave)
  | .openIterator =>
    (.ok (.iterator s.iterators.length), { s with iterators := s.iterators ++ [.fresh] })
  | .nextRow index => s.nextRow index

end Session

end Table

end SqliteAccess
