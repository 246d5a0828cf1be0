import SqliteAccess.Table.Basic

/-!
# The buffer of a table

The buffer of a table holds its header and then its rows, one after the other. Where every row is as
wide as the header, the rows are found again by their position alone.

## Main definitions

* `Table.Holds` : a table with the answer of a successful call.
* `Table.HoldsFailure` : a table with the message of a failed call.

## Main results

* `Table.header_eq` : the header is the front of the buffer.
* `Table.rows_eq` : the rows are what was laid out behind the header.
* `Table.get_eq` : a cell is found by its column and its row.
* `Table.exists_fill_eq_ok` : a new table is filled with a header and rows of its width.
-/

namespace SqliteAccess.Table

/-- In a row of pieces of one width each piece is found by its position. -/
theorem take_drop_flatten {α : Type} {width : Nat} {rows : List (List α)}
    (hwidth : ∀ row ∈ rows, row.length = width) {i : Nat} (hi : i < rows.length) :
    (rows.flatten.drop (i * width)).take width = rows[i] := by
  induction rows generalizing i with
  | nil => exact absurd hi (Nat.not_lt_zero i)
  | cons row rows ih =>
    obtain ⟨hrow, hrows⟩ := List.forall_mem_cons.1 hwidth
    cases i with
    | zero =>
      rw [Nat.zero_mul, List.drop_zero, List.flatten_cons, ← hrow, List.take_left]
      rfl
    | succ i =>
      have hskip : (i + 1) * width = row.length + i * width := by
        rw [hrow, Nat.succ_mul, Nat.add_comm]
      rw [hskip, List.flatten_cons, ← List.drop_drop, List.drop_left,
        ih hrows (Nat.lt_of_succ_lt_succ hi)]
      rfl

theorem length_flatten_of_width {α : Type} {width : Nat} {rows : List (List α)}
    (hwidth : ∀ row ∈ rows, row.length = width) : rows.flatten.length = width * rows.length := by
  induction rows with
  | nil => rfl
  | cons row rows ih =>
    obtain ⟨hrow, hrows⟩ := List.forall_mem_cons.1 hwidth
    rw [List.flatten_cons, List.length_append, hrow, ih hrows, List.length_cons, Nat.mul_succ,
      Nat.add_comm]

variable {t : Table} {header : List Cell} {rows : List (List Cell)}

theorem header_eq (hstate : t.state = .populated) (hcolumns : t.columnCount = header.length)
    (hcells : t.cells = header ++ rows.flatten) : t.header = .ok header := by
  simp only [Table.header, requirePopulated, hstate, if_true, hcolumns, hcells, List.take_left]
  rfl

theorem rows_eq (hstate : t.state = .populated) (hcolumns : t.columnCount = header.length)
    (hrows : t.rowCount = rows.length) (hcells : t.cells = header ++ rows.flatten)
    (hwidth : ∀ row ∈ rows, row.length = header.length) : t.rows = .ok rows := by
  have hslices : (List.range rows.length).map (t.slice header.length) = rows := by
    refine List.ext_getElem (by simp) fun i _ hi => ?_
    rw [List.getElem_map, List.getElem_range, slice, hcells, ← List.drop_drop, List.drop_left,
      take_drop_flatten hwidth hi]
  simp only [Table.rows, requirePopulated, hstate, if_true, hcolumns, hrows, hslices]
  rfl

/-- A cell is found by its column and its row. -/
theorem get_eq (hstate : t.state = .populated) (hrows : t.rows = .ok rows) {column row : Nat}
    {cells : List Cell} {cell : Cell} (hrow : rows[row]? = some cells)
    (hcell : cells[column]? = some cell) : t.get column row = .ok cell := by
  simp only [Table.rows, requirePopulated, hstate, if_true] at hrows
  obtain rfl := Except.ok.inj hrows
  obtain ⟨hlength, rfl⟩ := List.getElem?_eq_some_iff.1 hrow
  rw [List.getElem_map, List.getElem_range, slice, List.getElem?_take,
    Option.ite_none_right_eq_some, List.getElem?_drop] at hcell
  obtain ⟨hcolumn, hcell⟩ := hcell
  have hrowCount : row < t.rowCount := by simpa using hlength
  have hbounds : ¬((column : Int) < 0 ∨ (t.columnCount : Int) ≤ column) ∧
      ¬((row : Int) < 0 ∨ (t.rowCount : Int) ≤ row) := by omega
  simp only [Table.get, requirePopulated, hstate, if_true, if_neg hbounds.1, if_neg hbounds.2,
    Int.toNat_natCast, hcell]
  rfl

/-- A table with the answer of a successful call. -/
structure Holds (t : Table) (header : List Cell) (rows : List (List Cell)) : Prop where
  state : t.state = .populated
  status : t.status = .ok
  error : t.error = none
  columnCount : t.columnCount = header.length
  rowCount : t.rowCount = rows.length
  header : t.header = .ok header
  rows : t.rows = .ok rows

theorem Holds.get_eq (h : t.Holds header rows) {column row : Nat} {cells : List Cell} {cell : Cell}
    (hrow : rows[row]? = some cells) (hcell : cells[column]? = some cell) :
    t.get column row = .ok cell :=
  Table.get_eq h.state h.rows hrow hcell

/-- A new table is filled with a header and rows of its width. -/
theorem exists_fill_eq_ok {header : List Cell} {rows : List (List Cell)}
    (hwidth : ∀ row ∈ rows, row.length = header.length) :
    ∃ t, ({} : Table).fill header.length rows.length (header ++ rows.flatten) .ok none = .ok t ∧
      t.Holds header rows := by
  have hcount : (header ++ rows.flatten).length = expectedCells header.length rows.length := by
    rw [List.length_append, length_flatten_of_width hwidth, expectedCells, Nat.mul_succ,
      Nat.add_comm]
  refine ⟨⟨.populated, header.length, rows.length, header ++ rows.flatten, .ok, none⟩,
    by simp [fill, hcount], ?_⟩
  exact ⟨rfl, rfl, rfl, rfl, rfl, header_eq rfl rfl rfl, rows_eq rfl rfl rfl rfl hwidth⟩

/-- A table with the message of a failed call and nothing else. -/
structure HoldsFailure (t : Table) (message : Text) : Prop where
  state : t.state = .populated
  status : t.status = .failure
  error : t.error = some message
  columnCount : t.columnCount = 0
  rowCount : t.rowCount = 0
  cells : t.cells = []

/-- A new table is filled with any message. -/
theorem fill_failure (message : Text) :
    ({} : Table).fill 0 0 [] .failure (some message) = .ok (ofFailure message) := rfl

theorem holdsFailure_ofFailure (message : Text) : (ofFailure message).HoldsFailure message :=
  ⟨rfl, rfl, rfl, rfl, rfl, rfl⟩

end SqliteAccess.Table
