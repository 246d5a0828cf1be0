import SqliteAccess.Proofs.Table.Lifecycle

/-!
# Row iterators on a table

A populated table may be read through any number of row iterators, in any order, and it may be
released at any point in between. While it is populated, the step of an iterator yields the row at
the position of the iterator, which is the number of its steps so far. The state of the table is
judged at the first step of an iterator only: an iterator that has not been advanced before the
release is refused behind it, but one that is at work goes on over the empty buffer, and each row
that it has left comes out without a cell.

What an iterator has become is read off the steps that were made with it (`Table.iteratorAfter`).
This holds in front of every step of a run (`Table.Session.Tracks`), and it fixes what the step
yields.

## Main definitions

* `Table.position`, `Table.Started` : the position of an iterator, and whether it has been set to
  work, read off the steps in front.
* `Table.Step.Contract` : what is promised of the step of an iterator.
* `Table.Session.Tracks` : the invariant of a run.

## Main results

* `Table.Session.Tracks.perform` : every operation keeps the invariant.
* `Table.Session.nextRow_contract_iff` : the steps of a run that keep the promise, and what the
  others yield.
-/

namespace SqliteAccess.Table

/-! ### The steps of an iterator -/

/-- Whether a step opens an iterator. -/
def Step.opens (step : Step) : Bool :=
  match step.operation with
  | .openIterator => true
  | _ => false

/-- Whether a step advances an iterator. An iterator that has not been opened is not advanced. -/
def Step.advances (index : Nat) (step : Step) : Bool :=
  match step.operation, step.outcome with
  | .nextRow _, .error .missingCell => false
  | .nextRow i, _ => i = index
  | _, _ => false

/-- The position of an iterator behind some steps: how often it has been advanced. -/
def position (index : Nat) (earlier : List Step) : Nat :=
  (earlier.filter (Step.advances index)).length

/-- An iterator that has been advanced, the first time on a populated table. -/
def Started (index : Nat) (earlier : List Step) : Prop :=
  ∃ first ∈ (earlier.filter (Step.advances index)).head?, first.before.state = .populated

/-- An iterator that has not been advanced, or that has a row left. -/
def Unexhausted (rows : List (List Cell)) (index : Nat) (earlier : List Step) : Prop :=
  position index earlier = 0 ∨ Started index earlier ∧ position index earlier < rows.length

/-- What is promised of the step of an iterator on a table with some rows: each row that it yields
is the row at its position and has all columns, and behind the release of the table an iterator
that is not exhausted is refused. -/
structure Step.Contract (step : Step) (width : Nat) (rows : List (List Cell)) (index : Nat)
    (earlier : List Step) : Prop where
  row : ∀ row, step.outcome = .ok (.row row) →
    rows[position index earlier]? = some row ∧ row.length = width
  refused : step.before.state = .released → Unexhausted rows index earlier →
    step.outcome = .error (.notPopulated .released)

/-! ### Iterators by their steps -/

/-- The iterator that has made some steps on a table or behind its release. -/
def iteratorAfter (t : Table) : List Step → RowIterator
  | [] => .fresh
  | first :: rest =>
    if first.before.state = .populated ∧ rest.length < t.rowCount then
      .active t.columnCount t.rowCount (rest.length + 1)
    else .exhausted

theorem slice_of_cells_eq_nil {t : Table} (h : t.cells = []) (width row : Nat) :
    t.slice width row = [] := by
  rw [slice, h, List.drop_nil, List.take_nil]

/-- The rows of a populated table by their positions. -/
theorem rows_eq_map {t : Table} {rows : List (List Cell)} (ht : t.state = .populated)
    (hrows : t.rows = .ok rows) : rows = (List.range t.rowCount).map (t.slice t.columnCount) := by
  simp only [Table.rows, requirePopulated, ht, if_true] at hrows
  exact (Except.ok.inj hrows).symm

section Next

variable {t t' : Table} {first step : Step} {rest : List Step}

theorem advance_eq (t : Table) (width rowCount next : Nat) :
    RowIterator.advance t width rowCount next =
      (if next < rowCount then .ok (t.slice width next) else .error .exhausted,
        if next < rowCount then .active width rowCount (next + 1) else .exhausted) := by
  unfold RowIterator.advance
  split_ifs <;> rfl

theorem next_fresh_of_populated (h : t.state = .populated) :
    RowIterator.fresh.next t = RowIterator.advance t t.columnCount t.rowCount 0 := by
  simp only [RowIterator.next, requirePopulated, h, if_true]

theorem next_fresh_of_released (h : t.state = .released) :
    RowIterator.fresh.next t = (.error (.notPopulated .released), .exhausted) := by
  simp only [RowIterator.next, requirePopulated_of_eq h]

theorem iteratorAfter_cons (hfirst : first.before.state = .populated) :
    iteratorAfter t (first :: rest) =
      if rest.length < t.rowCount then .active t.columnCount t.rowCount (rest.length + 1)
      else .exhausted := by
  simp only [iteratorAfter, hfirst, true_and]

theorem iteratorAfter_cons_of_ne (hfirst : first.before.state ≠ .populated) :
    iteratorAfter t (first :: rest) = .exhausted := by
  simp only [iteratorAfter, hfirst, false_and, if_false]

/-- An iterator that has been set to work goes on at its position, whatever has become of its
table. -/
theorem next_iteratorAfter_cons (hfirst : first.before.state = .populated) :
    (iteratorAfter t (first :: rest)).next t' =
      RowIterator.advance t' t.columnCount t.rowCount (rest.length + 1) := by
  rw [iteratorAfter_cons hfirst]
  split_ifs with hrest
  · rfl
  · have hnext : ¬rest.length + 1 < t.rowCount := fun h => hrest (Nat.lt_of_succ_lt h)
    rw [advance_eq, if_neg hnext, if_neg hnext]
    rfl

/-- A step takes an iterator to where one more step has been made. -/
theorem snd_next_iteratorAfter {made : List Step} (ht : t.state = .populated)
    (hstep : step.before = t ∨ step.before.state = .released) :
    ((iteratorAfter t made).next step.before).2 = iteratorAfter t (made ++ [step]) := by
  cases made with
  | nil =>
    rcases hstep with hstep | hstep
    · have hstate : step.before.state = .populated := hstep ▸ ht
      rw [List.nil_append, iteratorAfter_cons hstate, hstep]
      simp only [iteratorAfter, next_fresh_of_populated ht, advance_eq, List.length_nil]
    · rw [List.nil_append, iteratorAfter_cons_of_ne (by simp [hstep])]
      simp only [iteratorAfter, next_fresh_of_released hstep]
  | cons first rest =>
    rw [List.cons_append]
    by_cases hfirst : first.before.state = .populated
    · rw [next_iteratorAfter_cons hfirst, iteratorAfter_cons hfirst, advance_eq,
        List.length_append, List.length_singleton]
    · rw [iteratorAfter_cons_of_ne hfirst, iteratorAfter_cons_of_ne hfirst]
      rfl

/-- No iterator looks for a cell that is missing. -/
theorem fst_next_ne_missingCell (i : RowIterator) (t : Table) :
    (i.next t).1 ≠ .error .missingCell := by
  have hadvance (width rowCount next : Nat) :
      (RowIterator.advance t width rowCount next).1 ≠ .error .missingCell := by
    rw [advance_eq]
    split_ifs <;> simp
  cases i with
  | fresh =>
    simp only [RowIterator.next, requirePopulated]
    split_ifs
    · exact hadvance _ _ _
    · simp
  | active width rowCount next => exact hadvance _ _ _
  | exhausted => simp [RowIterator.next]

end Next

/-! ### Runs -/

/-- A table that has been filled is left as it is or emptied. -/
theorem Transition.eq_or_emptied {t t' : Table} {operation : Operation}
    {outcome : Except Error Answer} (h : Transition t operation outcome t')
    (hstate : t.state ≠ .initialized) : t' = t ∨ t' = t.emptied := by
  cases h with
  | filled hnew => exact absurd hnew hstate
  | released => exact .inr rfl
  | _ => exact .inl rfl

namespace Session

/-- What holds behind the steps of a run that begins with a populated table and no iterator. -/
structure Tracks (s : Session) (t : Table) (earlier : List Step) : Prop where
  table : s.table = t ∨ s.table.state = .released ∧ s.table.cells = []
  before : s.table = t → ∀ step ∈ earlier, step.before = t
  length_iterators : s.iterators.length = earlier.countP Step.opens
  unopened : ∀ index, s.iterators.length ≤ index → earlier.filter (Step.advances index) = []
  iterator : ∀ index i, s.iterators[index]? = some i →
    i = iteratorAfter t (earlier.filter (Step.advances index))

variable {s : Session} {t : Table} {earlier : List Step}

theorem tracks_nil (t : Table) : Tracks ⟨t, []⟩ t [] where
  table := .inl rfl
  before _ _ hstep := absurd hstep List.not_mem_nil
  length_iterators := rfl
  unopened _ _ := rfl
  iterator index i hi := by simp at hi

/-- A filled table is left as it is or emptied, whatever the iterators do. -/
theorem Tracks.table_perform (h : s.Tracks t earlier) (ht : t.state = .populated)
    (operation : Operation) :
    (s.perform operation).2.table = s.table ∨
      (s.perform operation).2.table.state = .released ∧
        (s.perform operation).2.table.cells = [] := by
  have hstate : s.table.state ≠ .initialized := by
    rcases h.table with htable | ⟨hreleased, -⟩
    · simp [htable, ht]
    · simp [hreleased]
  rcases (s.transition_step operation).eq_or_emptied hstate with hsame | hemptied
  · exact .inl hsame
  · have htable : (s.perform operation).2.table = s.table.emptied := hemptied
    rw [htable]
    exact .inr ⟨rfl, rfl⟩

/-- An operation keeps what holds of a run if its step is noted with the iterators. -/
theorem Tracks.of_iterators (h : s.Tracks t earlier) (ht : t.state = .populated)
    {operation : Operation}
    (hlength : (s.perform operation).2.iterators.length =
      s.iterators.length + if (s.step operation).opens then 1 else 0)
    (hadvances : ∀ index, (s.step operation).advances index = true → index < s.iterators.length)
    (hiterator : ∀ index i, (s.perform operation).2.iterators[index]? = some i →
      i = iteratorAfter t ((earlier ++ [s.step operation]).filter (Step.advances index))) :
    (s.perform operation).2.Tracks t (earlier ++ [s.step operation]) where
  table := by
    rcases h.table_perform ht operation with hsame | hreleased
    · rw [hsame]
      exact h.table
    · exact .inr hreleased
  before htable := by
    have hbefore : s.table = t := by
      rcases h.table_perform ht operation with hsame | ⟨hreleased, -⟩
      · exact hsame.symm.trans htable
      · rw [htable, ht] at hreleased
        exact nomatch hreleased
    intro step hstep
    rcases List.mem_append.1 hstep with hstep | hstep
    · exact h.before hbefore step hstep
    · rw [List.mem_singleton.1 hstep]
      exact hbefore
  length_iterators := by
    rw [hlength, h.length_iterators, List.countP_append, List.countP_singleton]
  unopened index hindex := by
    have hle : s.iterators.length ≤ index := by omega
    rw [List.filter_append, h.unopened index hle, List.nil_append, List.filter_eq_nil_iff]
    intro step hstep hadvance
    rw [List.mem_singleton.1 hstep] at hadvance
    exact absurd (hadvances index hadvance) (Nat.not_lt.2 hle)
  iterator := hiterator

theorem filter_append_of_not_advances {step : Step} {index : Nat}
    (h : step.advances index = false) :
    (earlier ++ [step]).filter (Step.advances index) = earlier.filter (Step.advances index) := by
  rw [List.filter_append, List.filter_cons_of_neg (by simp [h]), List.filter_nil, List.append_nil]

theorem iterators_changing (s : Session) (result : Except Error Table) :
    (s.changing result).2.iterators = s.iterators := by
  cases result <;> rfl

/-- An operation without iterators leaves them as they are. -/
theorem Tracks.perform_of_iterators_eq (h : s.Tracks t earlier) (ht : t.state = .populated)
    {operation : Operation} (hiterators : (s.perform operation).2.iterators = s.iterators)
    (hopens : (s.step operation).opens = false)
    (hadvances : ∀ index, (s.step operation).advances index = false) :
    (s.perform operation).2.Tracks t (earlier ++ [s.step operation]) := by
  refine h.of_iterators ht (by simp [hiterators, hopens]) (by simp [hadvances]) ?_
  intro index i hi
  rw [filter_append_of_not_advances (hadvances index)]
  exact h.iterator index i (hiterators ▸ hi)

theorem Step.advances_of_ne {step : Step} {index : Nat}
    (hoperation : step.operation = .nextRow index)
    (houtcome : step.outcome ≠ .error .missingCell) (other : Nat) :
    step.advances other = decide (index = other) := by
  unfold Step.advances
  split <;> simp_all

/-- A step of an iterator that has been opened. -/
theorem perform_nextRow {index : Nat} {i : RowIterator} (hget : s.iterators[index]? = some i) :
    s.perform (.nextRow index) = ((i.next s.table).1.map .row,
      { s with iterators := s.iterators.set index (i.next s.table).2 }) := by
  simp only [Session.perform, nextRow, hget]

theorem advances_step_nextRow {index : Nat} {i : RowIterator}
    (hget : s.iterators[index]? = some i) (other : Nat) :
    (s.step (.nextRow index)).advances other = decide (index = other) := by
  refine Step.advances_of_ne rfl ?_ other
  have hnext := fst_next_ne_missingCell i s.table
  simp only [step, perform_nextRow hget]
  cases hresult : (i.next s.table).1 with
  | ok row => simp [Except.map]
  | error e =>
    rintro ⟨⟩
    exact hnext hresult

/-- Every operation keeps what holds of a run. -/
theorem Tracks.perform (h : s.Tracks t earlier) (ht : t.state = .populated)
    (operation : Operation) :
    (s.perform operation).2.Tracks t (earlier ++ [s.step operation]) := by
  cases operation with
  | openIterator =>
    refine h.of_iterators ht (by simp [Session.perform, Step.opens, step]) nofun ?_
    intro index i hi
    have hi : (s.iterators ++ [.fresh])[index]? = some i := hi
    rw [filter_append_of_not_advances rfl]
    rcases Nat.lt_or_ge index s.iterators.length with hlt | hge
    · exact h.iterator index i ((List.getElem?_append_left hlt).symm.trans hi)
    · rw [List.getElem?_append_right hge, List.getElem?_singleton,
        Option.ite_none_right_eq_some] at hi
      rw [h.unopened index hge]
      exact (Option.some.inj hi.2).symm
  | nextRow index =>
    cases hget : s.iterators[index]? with
    | none =>
      have hperform : s.perform (.nextRow index) = (.error .missingCell, s) := by
        simp only [Session.perform, nextRow, hget]
      refine h.perform_of_iterators_eq ht (by rw [hperform]) rfl fun other => ?_
      simp [Step.advances, step, hperform]
    | some i =>
      have hadvances := advances_step_nextRow hget
      have hlt : index < s.iterators.length := (List.getElem?_eq_some_iff.1 hget).1
      refine h.of_iterators ht (by simp [perform_nextRow hget, Step.opens, step]) ?_ ?_
      · intro other hother
        rw [hadvances, decide_eq_true_iff] at hother
        exact hother ▸ hlt
      · intro other j hj
        rw [perform_nextRow hget, List.getElem?_set] at hj
        by_cases hother : index = other
        · subst hother
          rw [if_pos rfl, if_pos hlt] at hj
          obtain rfl := Option.some.inj hj
          rw [List.filter_append, List.filter_cons_of_pos (by simp [hadvances]), List.filter_nil,
            h.iterator index i hget]
          have hbefore : (s.step (.nextRow index)).before = t ∨
              (s.step (.nextRow index)).before.state = .released := h.table.imp_right And.left
          exact snd_next_iteratorAfter ht hbefore
        · rw [if_neg hother] at hj
          rw [filter_append_of_not_advances (by simp [hadvances, hother])]
          exact h.iterator other j hj
  | fill columns rows cells status error =>
    exact h.perform_of_iterators_eq ht (iterators_changing s _) rfl fun _ => rfl
  | release => exact h.perform_of_iterators_eq ht (iterators_changing s _) rfl fun _ => rfl
  | _ => exact h.perform_of_iterators_eq ht rfl rfl fun _ => rfl

/-- In front of every step of a run the iterators are what the steps before have made of them. -/
theorem Tracks.exists_of_steps (h : s.Tracks t earlier) (ht : t.state = .populated)
    {operations : List Operation} {before later : List Step} {step : Step}
    (hsteps : s.steps operations = before ++ step :: later) :
    ∃ s' : Session, s'.Tracks t (earlier ++ before) ∧ step = s'.step step.operation := by
  induction operations generalizing s earlier before with
  | nil => simp [steps] at hsteps
  | cons operation rest ih =>
    rw [steps] at hsteps
    cases before with
    | nil =>
      obtain ⟨rfl, -⟩ := List.cons.inj hsteps
      exact ⟨s, by rwa [List.append_nil], rfl⟩
    | cons first before =>
      obtain ⟨rfl, hrest⟩ := List.cons.inj hsteps
      obtain ⟨s', hs', hstep⟩ := ih (h.perform ht operation) hrest
      exact ⟨s', by simpa using hs', hstep⟩

/-! ### What a step of an iterator yields -/

variable {index : Nat}

theorem Tracks.outcome_nextRow (h : s.Tracks t earlier) (hopen : index < s.iterators.length) :
    (s.step (.nextRow index)).outcome =
      ((iteratorAfter t (earlier.filter (Step.advances index))).next s.table).1.map .row := by
  obtain ⟨i, hget⟩ : ∃ i, s.iterators[index]? = some i := ⟨_, List.getElem?_eq_getElem hopen⟩
  simp only [step, perform_nextRow hget, h.iterator index i hget]

/-- On the populated table an iterator yields the row at its position. -/
theorem Tracks.outcome_of_populated (h : s.Tracks t earlier) (hopen : index < s.iterators.length)
    (ht : t.state = .populated) (htable : s.table = t) {rows : List (List Cell)}
    (hrows : t.rows = .ok rows) :
    (s.step (.nextRow index)).outcome =
      (rows[position index earlier]?).elim (.error .exhausted) fun row => .ok (.row row) := by
  have hbefore : ∀ step ∈ earlier.filter (Step.advances index), step.before.state = .populated :=
    fun step hstep => h.before htable step (List.mem_filter.1 hstep).1 ▸ ht
  have hnext : (iteratorAfter t (earlier.filter (Step.advances index))).next t =
      RowIterator.advance t t.columnCount t.rowCount (position index earlier) := by
    rw [position]
    cases hmade : earlier.filter (Step.advances index) with
    | nil => exact next_fresh_of_populated ht
    | cons first rest =>
      rw [hmade] at hbefore
      exact next_iteratorAfter_cons (hbefore first List.mem_cons_self)
  rw [h.outcome_nextRow hopen, htable, hnext, advance_eq, rows_eq_map ht hrows, List.getElem?_map]
  by_cases hlt : position index earlier < t.rowCount
  · rw [List.getElem?_range hlt, if_pos hlt]
    rfl
  · rw [List.getElem?_eq_none (by simpa using hlt), if_neg hlt]
    rfl

/-- Behind the release an iterator that has not been advanced is refused. -/
theorem Tracks.outcome_of_fresh (h : s.Tracks t earlier) (hopen : index < s.iterators.length)
    (hreleased : s.table.state = .released) (hfresh : position index earlier = 0) :
    (s.step (.nextRow index)).outcome = .error (.notPopulated .released) := by
  rw [h.outcome_nextRow hopen, List.length_eq_zero_iff.1 hfresh, iteratorAfter,
    next_fresh_of_released hreleased]
  rfl

/-- Behind the release an iterator at work goes on over the empty buffer. -/
theorem Tracks.outcome_of_started (h : s.Tracks t earlier) (hopen : index < s.iterators.length)
    (hcells : s.table.cells = []) (hstarted : Started index earlier) :
    (s.step (.nextRow index)).outcome =
      if position index earlier < t.rowCount then .ok (.row []) else .error .exhausted := by
  obtain ⟨first, hhead, hfirst⟩ := hstarted
  obtain ⟨rest, hmade⟩ := List.head?_eq_some_iff.1 hhead
  rw [h.outcome_nextRow hopen, position, hmade, next_iteratorAfter_cons hfirst, advance_eq,
    slice_of_cells_eq_nil hcells, List.length_cons]
  split_ifs <;> rfl

/-- An iterator that has been refused is exhausted. -/
theorem Tracks.outcome_of_not_started (h : s.Tracks t earlier)
    (hopen : index < s.iterators.length) (hposition : position index earlier ≠ 0)
    (hstarted : ¬Started index earlier) :
    (s.step (.nextRow index)).outcome = .error .exhausted := by
  rw [h.outcome_nextRow hopen]
  rw [position] at hposition
  cases hmade : earlier.filter (Step.advances index) with
  | nil => exact absurd (by rw [hmade]; rfl) hposition
  | cons first rest =>
    have hfirst : first.before.state ≠ .populated := fun hfirst =>
      hstarted ⟨first, by rw [hmade]; rfl, hfirst⟩
    rw [iteratorAfter_cons_of_ne hfirst]
    rfl

/-- Each row of a successful answer has all columns. -/
theorem length_slice {t : Table} (h : t.WellFormed) (ht : t.state = .populated)
    (hstatus : t.status = .ok) {row : Nat} (hrow : row < t.rowCount) :
    (t.slice t.columnCount row).length = t.columnCount := by
  have hcells := h.populated ht hstatus
  have hle : (row + 1) * t.columnCount ≤ t.rowCount * t.columnCount :=
    Nat.mul_le_mul_right _ hrow
  rw [slice, List.length_take, List.length_drop, hcells, Nat.mul_succ,
    Nat.mul_comm t.columnCount]
  rw [Nat.succ_mul] at hle
  omega

theorem Tracks.contract_of_populated (h : s.Tracks t earlier) (hopen : index < s.iterators.length)
    (hwellFormed : t.WellFormed) (ht : t.state = .populated) (hstatus : t.status = .ok)
    (htable : s.table = t) {rows : List (List Cell)} (hrows : t.rows = .ok rows) :
    (s.step (.nextRow index)).Contract t.columnCount rows index earlier where
  row row hrow := by
    rw [h.outcome_of_populated hopen ht htable hrows] at hrow
    cases hget : rows[position index earlier]? with
    | none => simp [hget] at hrow
    | some found =>
      obtain rfl : found = row := by simpa [hget] using hrow
      rw [rows_eq_map ht hrows, List.getElem?_map, Option.map_eq_some_iff] at hget
      obtain ⟨p, hp, rfl⟩ := hget
      have hmem : p ∈ List.range t.rowCount := List.mem_of_getElem? hp
      exact ⟨rfl, length_slice hwellFormed ht hstatus (List.mem_range.1 hmem)⟩
  refused hreleased := by
    have hstate : t.state = .released := htable ▸ hreleased
    exact nomatch ht.symm.trans hstate

theorem Tracks.contract_of_released (h : s.Tracks t earlier) (hopen : index < s.iterators.length)
    (hreleased : s.table.state = .released) (hcells : s.table.cells = [])
    {rows : List (List Cell)} (hlength : rows.length = t.rowCount) (width : Nat)
    (hleft : ¬(Started index earlier ∧ position index earlier < rows.length)) :
    (s.step (.nextRow index)).Contract width rows index earlier := by
  by_cases hfresh : position index earlier = 0
  · have houtcome := h.outcome_of_fresh hopen hreleased hfresh
    exact ⟨fun row hrow => (nomatch houtcome.symm.trans hrow), fun _ _ => houtcome⟩
  · have houtcome : (s.step (.nextRow index)).outcome = .error .exhausted := by
      by_cases hstarted : Started index earlier
      · have hposition : ¬position index earlier < t.rowCount := fun hlt =>
          hleft ⟨hstarted, hlength ▸ hlt⟩
        rw [h.outcome_of_started hopen hcells hstarted, if_neg hposition]
      · exact h.outcome_of_not_started hopen hfresh hstarted
    refine ⟨fun row hrow => (nomatch houtcome.symm.trans hrow), fun _ hunexhausted => ?_⟩
    rcases hunexhausted with hzero | hunexhausted
    · exact absurd hzero hfresh
    · exact absurd hunexhausted hleft

/-- **An iterator at work does not notice the release of its table.** Whatever is asked of a table
and its iterators behind a successful answer, in any order, an iterator on the populated table
yields the row at its position as long as there is one. A step of an iterator keeps its contract
unless the table has been released, the iterator was set to work before, and it has a row left.
Such a step is not refused but yields a row without cells. -/
theorem nextRow_contract_iff {columns rowCount : Int} {cells : List Cell} {error : Option Text}
    {t : Table} {rows : List (List Cell)}
    (hfill : ({} : Table).fill columns rowCount cells .ok error = .ok t) (hrows : t.rows = .ok rows)
    {operations : List Operation} {earlier later : List Step} {step : Step} {index : Nat}
    (hsteps : (⟨t, []⟩ : Session).steps operations = earlier ++ step :: later)
    (hoperation : step.operation = .nextRow index) (hopen : index < earlier.countP Step.opens) :
    (step.before.state = .populated →
      step.outcome =
        (rows[position index earlier]?).elim (.error .exhausted) fun row => .ok (.row row)) ∧
      (step.Contract t.columnCount rows index earlier ↔
        ¬(step.before.state = .released ∧ Started index earlier ∧
          position index earlier < rows.length)) ∧
      (step.before.state = .released → Started index earlier →
        position index earlier < rows.length → step.outcome = .ok (.row [])) := by
  obtain ⟨-, hfits, hanswers⟩ := fill_eq_ok_iff.1 hfill
  have ht := hanswers.state
  have hlength : rows.length = t.rowCount := by simp [rows_eq_map ht hrows]
  obtain ⟨s, hs, hstep⟩ := (tracks_nil t).exists_of_steps ht hsteps
  rw [List.nil_append] at hs
  rw [hoperation] at hstep
  subst hstep
  rw [← hs.length_iterators] at hopen
  change (s.table.state = .populated → _) ∧ (_ ↔ ¬(s.table.state = .released ∧ _)) ∧
    (s.table.state = .released → _)
  rcases hs.table with htable | ⟨hreleased, hcells⟩
  · have hstate : s.table.state = .populated := htable ▸ ht
    have hcontract := hs.contract_of_populated hopen (hanswers.wellFormed hfits) ht hanswers.status
      htable hrows
    refine ⟨fun _ => hs.outcome_of_populated hopen ht htable hrows, iff_of_true hcontract ?_, ?_⟩
    · simp [hstate]
    · simp [hstate]
  · have hempty (hstarted : Started index earlier) (hleft : position index earlier < rows.length) :
        (s.step (.nextRow index)).outcome = .ok (.row []) := by
      rw [hs.outcome_of_started hopen hcells hstarted, if_pos (hlength ▸ hleft)]
    refine ⟨by simp [hreleased], ⟨fun hcontract ⟨_, hstarted, hleft⟩ => ?_, fun hsound => ?_⟩,
      fun _ => hempty⟩
    · have hrefused := hcontract.refused hreleased (.inr ⟨hstarted, hleft⟩)
      exact nomatch hrefused.symm.trans (hempty hstarted hleft)
    · exact hs.contract_of_released hopen hreleased hcells hlength _ fun h => hsound ⟨hreleased, h⟩

/-- The second step of an iterator, behind one of another iterator and the reading of a cell. -/
theorem nextRow_contract_iff_interleaved :
    let cells : List Cell := [some ['a'], some ['b'], none, some ['1'], some ['2'], none]
    let t : Table := ⟨.populated, 2, 2, cells, .ok, none⟩
    let rows : List (List Cell) := [[none, some ['1']], [some ['2'], none]]
    let operations : List Operation :=
      [.openIterator, .openIterator, .nextRow 0, .get 1 0, .nextRow 1, .nextRow 0, .release]
    let steps := (⟨t, []⟩ : Session).steps operations
    let step : Step := ⟨t, .nextRow 0, .ok (.row [some ['2'], none]), t⟩
    ({} : Table).fill 2 2 cells .ok none = .ok t ∧ t.rows = .ok rows ∧
      steps = steps.take 5 ++ step :: steps.drop 6 ∧ 0 < (steps.take 5).countP Step.opens ∧
      position 0 (steps.take 5) = 1 ∧ step.Contract 2 rows 0 (steps.take 5) := by
  intro cells t rows operations steps step
  have hfill : ({} : Table).fill 2 2 cells .ok none = .ok t := rfl
  have hrows : t.rows = .ok rows := rfl
  have hsteps : steps = steps.take 5 ++ step :: steps.drop 6 := rfl
  have hopen : 0 < (steps.take 5).countP Step.opens := by decide
  have h := nextRow_contract_iff hfill hrows hsteps rfl hopen
  exact ⟨hfill, hrows, hsteps, hopen, rfl, h.2.1.2 fun hreleased => nomatch hreleased.1⟩

/-- An iterator on a table of one column is advanced, the table is released, and the iterator yields
a row without cells instead of being refused. -/
theorem nextRow_contract_released :
    let cells : List Cell := [some ['a'], some ['1'], some ['2']]
    let t : Table := ⟨.populated, 1, 2, cells, .ok, none⟩
    let rows : List (List Cell) := [[some ['1']], [some ['2']]]
    let earlier := (⟨t, []⟩ : Session).steps [.openIterator, .nextRow 0, .release]
    let step : Step := ⟨t.emptied, .nextRow 0, .ok (.row []), t.emptied⟩
    ({} : Table).fill 1 2 cells .ok none = .ok t ∧ t.rows = .ok rows ∧
      (⟨t, []⟩ : Session).steps [.openIterator, .nextRow 0, .release, .nextRow 0] =
        earlier ++ [step] ∧
      Unexhausted rows 0 earlier ∧ ¬step.Contract 1 rows 0 earlier := by
  intro cells t rows earlier step
  have hunexhausted : Unexhausted rows 0 earlier := .inr ⟨⟨_, rfl, rfl⟩, by decide⟩
  refine ⟨rfl, rfl, rfl, hunexhausted, fun hcontract => ?_⟩
  exact nomatch hcontract.refused rfl hunexhausted

end Session

end SqliteAccess.Table
