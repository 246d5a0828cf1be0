import SqliteAccess.Number.IntegerPrefix

/-!
# Result tables

A result table holds the answer of a query as one flat buffer of cells: the column names first,
then the rows one after the other. It is new, then populated once, and released once; a new table
may be released without having been populated. Cells are read only while the table is populated.

## Main definitions

* `Table` : a table with its lifecycle state.
* `Table.fill`, `Table.release` : the two transitions.
* `Table.get`, `Table.getInteger`, `Table.header`, `Table.rows` : the readings.
-/

namespace SqliteAccess

/-- Whether a call into the database succeeded. -/
inductive Status
  | ok
  | failure
  deriving DecidableEq

/-- The name of a status. -/
def Status.name : Status → Text
  | ok => "OK".toList
  | failure => "FAILURE".toList

/-- The text of a cell; the null value has none. -/
abbrev Cell := Option Text

namespace Table

/-- Where a table is in its life. -/
inductive State
  | initialized
  | populated
  | released
  deriving DecidableEq

/-- The name of a state. -/
def State.name : State → Text
  | initialized => "initialized".toList
  | populated => "populated".toList
  | released => "released".toList

/-- Why an operation on a table fails. -/
inductive Error
  /-- The table has been populated or released before. -/
  | notInitialized (state : State)
  /-- A count is negative. -/
  | negativeCount (columns rows : Int)
  /-- A successful answer has a cell too many or too few. -/
  | cellCount (columns rows : Nat) (given : Nat)
  /-- The table has been released before. -/
  | alreadyReleased (state : State)
  /-- The table holds no answer. -/
  | notPopulated (state : State)
  /-- There is no such column. -/
  | columnOutOfRange (column : Int) (count : Nat)
  /-- There is no such row. -/
  | rowOutOfRange (row : Int) (count : Nat)
  /-- The buffer of a failed answer ends before the cell. -/
  | missingCell
  /-- The row iterator has no row left. -/
  | exhausted
  /-- The cell spells no integer. -/
  | number (error : Number.Error)
  deriving DecidableEq

/-- How many cells a successful answer has: one row of names and all other rows. -/
def expectedCells (columns rows : Nat) : Nat := columns * (rows + 1)

/-- The wording of an error. -/
def Error.message : Error → Text
  | notInitialized state =>
    "populate() requires an initialized table, state is ".toList ++ state.name
  | negativeCount columns rows =>
    "Counts must be non-negative, got columns=".toList ++ Text.ofInt columns ++
      ", rows=".toList ++ Text.ofInt rows
  | cellCount columns rows given =>
    "Expected ".toList ++ Text.ofNat (expectedCells columns rows) ++ " cells for ".toList ++
      Text.ofNat columns ++ " columns and ".toList ++ Text.ofNat rows ++ " rows, got ".toList ++
      Text.ofNat given
  | alreadyReleased state => "release() called on a ".toList ++ state.name ++ " table".toList
  | notPopulated state => "table must be populated, state is ".toList ++ state.name
  | columnOutOfRange column count =>
    "column ".toList ++ Text.ofInt column ++ " out of range [0, ".toList ++ Text.ofNat count ++
      ")".toList
  | rowOutOfRange row count =>
    "row ".toList ++ Text.ofInt row ++ " out of range [0, ".toList ++ Text.ofNat count ++
      ")".toList
  | missingCell => "list index out of range".toList
  | exhausted => []
  | number error => error.message

end Table

/-- A result table. -/
structure Table where
  /-- Where the table is in its life. -/
  state : Table.State := .initialized
  /-- The number of columns. -/
  columnCount : Nat := 0
  /-- The number of rows, without the row of names. -/
  rowCount : Nat := 0
  /-- The buffer: the column names, then the rows. -/
  cells : List Cell := []
  /-- Whether the answer is a success. -/
  status : Status := .ok
  /-- The message of a failure. -/
  error : Option Text := none
  deriving DecidableEq

namespace Table

/-- Fills a new table with an answer. The layout of the buffer is checked for a successful answer
only. -/
def fill (t : Table) (columns rows : Int) (cells : List Cell) (status : Status)
    (error : Option Text) : Except Error Table :=
  if t.state ≠ .initialized then .error (.notInitialized t.state)
  else if columns < 0 ∨ rows < 0 then .error (.negativeCount columns rows)
  else
    let columnCount := columns.toNat
    let rowCount := rows.toNat
    if status = .ok ∧ cells.length ≠ expectedCells columnCount rowCount then
      .error (.cellCount columnCount rowCount cells.length)
    else .ok ⟨.populated, columnCount, rowCount, cells, status, error⟩

/-- Drops the buffer and the message. -/
def release (t : Table) : Except Error Table :=
  if t.state = .released then .error (.alreadyReleased t.state)
  else .ok { t with state := .released, cells := [], error := none }

/-- The end of a scope that owns the table: it is released unless it has been before. -/
def leave (t : Table) : Table :=
  match t.release with
  | .ok released => released
  | .error _ => t

/-- Whether the answer is a success. -/
def succeeded (t : Table) : Bool := t.status = .ok

/-- Whether the answer is a failure. -/
def failed (t : Table) : Bool := t.status ≠ .ok

/-- Refuses every table that holds no answer. -/
def requirePopulated (t : Table) : Except Error Unit :=
  if t.state = .populated then .ok () else .error (.notPopulated t.state)

/-- The part of the buffer that holds a row of the given width. -/
def slice (t : Table) (width row : Nat) : List Cell :=
  (t.cells.drop (width + row * width)).take width

/-- The column names. -/
def header (t : Table) : Except Error (List Cell) := do
  t.requirePopulated
  return t.cells.take t.columnCount

/-- All rows, in order. -/
def rows (t : Table) : Except Error (List (List Cell)) := do
  t.requirePopulated
  return (List.range t.rowCount).map (t.slice t.columnCount)

/-- The cell at a column and a row, both counted from zero. -/
def get (t : Table) (column row : Int) : Except Error Cell := do
  t.requirePopulated
  if column < 0 ∨ (t.columnCount : Int) ≤ column then
    throw (.columnOutOfRange column t.columnCount)
  if row < 0 ∨ (t.rowCount : Int) ≤ row then throw (.rowOutOfRange row t.rowCount)
  match t.cells[t.columnCount + row.toNat * t.columnCount + column.toNat]? with
  | some cell => return cell
  | none => throw .missingCell

/-- The integer in front of a cell; the null value counts as zero. -/
def getInteger (t : Table) (column row : Int) : Except Error Int := do
  let cell ← t.get column row
  (Number.integerOfCell cell).mapError .number

/-- The table in one line. -/
def describe (t : Table) : Text :=
  "ResultTable(columns=".toList ++ Text.ofNat t.columnCount ++ ", rows=".toList ++
    Text.ofNat t.rowCount ++ ", status=".toList ++ t.status.name ++ ", state=".toList ++
    t.state.name ++ ")".toList

/-- A failed call: no columns, no rows, and the message. -/
def ofFailure (message : Text) : Table := ⟨.populated, 0, 0, [], .failure, some message⟩

/-- The end of a scope never fails and leaves the table released. -/
theorem leave_state (t : Table) : t.leave.state = .released := by
  unfold leave release
  by_cases h : t.state = .released <;> simp [h]

end Table

end SqliteAccess
