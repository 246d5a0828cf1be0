import SqliteAccess.Proofs.Number.Prefix
import SqliteAccess.Proofs.Table.Reading

/-!
# Integers in a table

A cell is read as the integer in front of its text. A cell in range of a successful answer is
always there, so the reading of an integer fails for one reason only: the text has more digits than
are converted.

## Main results

* `Table.exists_get_eq_ok` : a cell in range of a successful answer is there.
* `Table.reads_numeral` : texts and cells are read as their numerals.
-/

namespace SqliteAccess.Table

open Number

/-- A cell in range of a successful answer is there. -/
theorem exists_get_eq_ok {t₀ t : Table} {columns rowCount : Int} {cells : List Cell}
    {error : Option Text} (hfill : t₀.fill columns rowCount cells .ok error = .ok t)
    {column row : Int} (hcolumn : 0 ≤ column ∧ column < columns)
    (hrow : 0 ≤ row ∧ row < rowCount) : ∃ cell, t.get column row = .ok cell := by
  obtain ⟨-, hfits, hanswers⟩ := fill_eq_ok_iff.1 hfill
  obtain ⟨header, rows, hcolumns, hcount, hwidth, hcells⟩ :=
    exists_layout ((hanswers.wellFormed hfits).populated hanswers.state hanswers.status)
  have hlaidOut := laidOut hanswers.state hcolumns.symm hcount.symm hcells hwidth
  have hcolumnCount := hanswers.columnCount
  have hrowCount := hanswers.rowCount
  obtain ⟨cell, -, hcell⟩ := hlaidOut.get column.toNat row.toNat (by omega) (by omega)
  rw [Int.toNat_of_nonneg hcolumn.1, Int.toNat_of_nonneg hrow.1] at hcell
  exact ⟨cell, hcell⟩

theorem getInteger_eq {t : Table} {column row : Int} {cell : Cell}
    (h : t.get column row = .ok cell) :
    t.getInteger column row = (integerOfCell cell).mapError .number := by
  rw [getInteger, h]
  rfl

/-- **Texts and cells are read as their numerals.** Every text has one numeral, and is read as its
integer exactly when its digits are not too many; otherwise the text is refused. The same holds of
a cell with the text in range of a successful answer. Every cell in range of one is there, and it is
zero where it is null. -/
theorem reads_numeral (text : Text) :
    ∃ n : Numeral text, (∀ m : Numeral text, m = n) ∧ n.ReadAs id (integerPrefix text) ∧
      ∀ (t₀ t : Table) (columns rowCount : Int) (cells : List Cell) (error : Option Text),
        t₀.fill columns rowCount cells .ok error = .ok t →
          ∀ column row : Int, 0 ≤ column ∧ column < columns → 0 ≤ row ∧ row < rowCount →
            ∃ cell, t.get column row = .ok cell ∧
              (cell = none → t.getInteger column row = .ok 0) ∧
              (cell = some text → n.ReadAs .number (t.getInteger column row)) := by
  refine ⟨.ofText text, Numeral.eq_ofText, ?_, ?_⟩
  · have hread := (Numeral.ofText text).readAs_integerPrefix id
    cases hinteger : integerPrefix text <;> rwa [hinteger] at hread
  · intro t₀ t columns rowCount cells error hfill column row hcolumn hrow
    obtain ⟨cell, hcell⟩ := exists_get_eq_ok hfill hcolumn hrow
    refine ⟨cell, hcell, ?_, ?_⟩
    · rintro rfl
      exact getInteger_eq hcell
    · rintro rfl
      rw [getInteger_eq hcell]
      exact (Numeral.ofText text).readAs_integerPrefix Error.number

/-- A cell with blanks, a sign, zeros in front and a fraction. -/
theorem reads_numeral_signed :
    let text : Text := "\t -0042.5".toList
    let t : Table := ⟨.populated, 2, 1, [some ['a'], some ['b'], none, some text], .ok, none⟩
    ({} : Table).fill 2 1 t.cells .ok none = .ok t ∧ integerPrefix text = .ok (-42) ∧
      t.get 1 0 = .ok (some text) ∧ t.getInteger 1 0 = .ok (-42) := by
  intro text t
  have hfill : ({} : Table).fill 2 1 t.cells .ok none = .ok t := rfl
  obtain ⟨n, -, htext, htables⟩ := reads_numeral text
  obtain ⟨cell, hcell, -, hread⟩ :=
    htables {} t 2 1 t.cells none hfill 1 0 (by decide) (by decide)
  have hsome : cell = some text := (Except.ok.inj hcell).symm
  have hvalue : n.value = -42 ∧ n.digits.length ≤ digitLimit := by
    rw [n.eq_ofText]
    decide
  refine ⟨hfill, ?_, hsome ▸ hcell, ?_⟩
  · exact hvalue.1 ▸ htext.eq_ok_iff.2 hvalue.2
  · exact hvalue.1 ▸ (hread hsome).eq_ok_iff.2 hvalue.2

/-- Zeros in front of a digit are refused when there are too many of them, while the numeral is
that of the digit. -/
theorem integerPrefix_zeros :
    let text : Text := List.replicate digitLimit '0' ++ ['7']
    (∃ n : Numeral text, n.value = 7) ∧
      integerPrefix text = .error (.tooManyDigits (digitLimit + 1)) := by
  intro text
  have hdigit : ∀ c ∈ text, c.isDigit = true := by
    intro c hc
    rcases List.mem_append.1 hc with hzero | hseven
    · rw [List.eq_of_mem_replicate hzero]
      rfl
    · rw [List.mem_singleton.1 hseven]
      rfl
  have hlength : text.length = digitLimit + 1 := by
    rw [List.length_append, List.length_replicate, List.length_singleton]
  have hinteger := (Numeral.ofDigits hdigit).integerPrefix_eq
  rw [if_pos (hlength ▸ Nat.lt_succ_self digitLimit)] at hinteger
  refine ⟨⟨.ofDigits hdigit, ?_⟩, hlength ▸ hinteger⟩
  exact congrArg Int.ofNat (positional_zeros_append digitLimit ['7'])

end SqliteAccess.Table
