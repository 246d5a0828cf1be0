import Mathlib.Tactic.SplitIfs
import SqliteAccess.Table.Session

/-!
# The life of a table

A table is new, may be filled once, and is released once, by hand or at the end of the scope that
owns it. In between anything may be asked of it in any order and with any arguments. An operation
that fails leaves the table as it was, so that a new table which has refused an answer still takes
the next one. Behind the release every access to cells, a further answer and a further release
fail, while the scope of the table may still end.

What one operation does to the table is one of five things (`Table.Transition`). Each property of a
single step is read off these cases, and each property of a run follows from those of its steps.

## Main definitions

* `Table.State.Moves` : the moves in the life of a table.
* `Table.WellFormed` : the invariant of all tables.
* `Table.Transition` : what one operation does to a table.
* `Table.Step`, `Table.Session.steps` : the steps of a run.
* `Table.Step.Sound`, `Table.Step.Refused` : what holds of every step, and of those on a released
  table.

## Main results

* `Table.Session.transition_step` : every step makes one of the five transitions.
* `Table.Session.countP_steps_le` : what can happen only before a gate closes happens once.
* `Table.Session.lifecycle` : the runs on a new table.
-/

namespace SqliteAccess.Table

/-- The moves in the life of a table. -/
inductive State.Moves : State → State → Prop
  | fill : Moves .initialized .populated
  | release : Moves .populated .released
  | discard : Moves .initialized .released

/-- The answers that a table takes: no count is negative, and the buffer of a success holds one row
of names and all other rows. -/
structure Fits (columns rows : Int) (cells : List Cell) (status : Status) : Prop where
  columns_nonneg : 0 ≤ columns
  rows_nonneg : 0 ≤ rows
  length_cells : status = .ok → (cells.length : Int) = columns * (rows + 1)

/-- A table that holds an answer as it was given. -/
structure Answers (t : Table) (columns rows : Int) (cells : List Cell) (status : Status)
    (error : Option Text) : Prop where
  state : t.state = .populated
  columnCount : (t.columnCount : Int) = columns
  rowCount : (t.rowCount : Int) = rows
  cells : t.cells = cells
  status : t.status = status
  error : t.error = error

/-- The invariant of all tables: a new one holds nothing, the buffer of a success has its layout,
and a released one holds neither a buffer nor a message. -/
structure WellFormed (t : Table) : Prop where
  initialized : t.state = .initialized → t = {}
  populated : t.state = .populated → t.status = .ok →
    t.cells.length = t.columnCount * (t.rowCount + 1)
  released : t.state = .released → t.cells = [] ∧ t.error = none

theorem wellFormed_new : ({} : Table).WellFormed :=
  ⟨fun _ => rfl, nofun, nofun⟩

/-- A table after its release. -/
def emptied (t : Table) : Table := { t with state := .released, cells := [], error := none }

/-! ### Filling and releasing -/

section Fill

variable {t t' : Table} {columns rows : Int} {cells : List Cell} {status : Status}
  {error : Option Text}

theorem length_eq_expectedCells_iff (hcolumns : 0 ≤ columns) (hrows : 0 ≤ rows) :
    cells.length = expectedCells columns.toNat rows.toNat ↔
      (cells.length : Int) = columns * (rows + 1) := by
  rw [expectedCells, ← Int.natCast_inj, Int.natCast_mul, Int.natCast_add,
    Int.toNat_of_nonneg hcolumns, Int.toNat_of_nonneg hrows]
  rfl

theorem Fits.answers (h : Fits columns rows cells status) (error : Option Text) :
    Table.Answers ⟨.populated, columns.toNat, rows.toNat, cells, status, error⟩ columns rows cells
      status error :=
  ⟨rfl, Int.toNat_of_nonneg h.columns_nonneg, Int.toNat_of_nonneg h.rows_nonneg, rfl, rfl, rfl⟩

/-- A new table takes exactly the answers that fit, and holds them as they were given. -/
theorem fill_eq_ok_iff : t.fill columns rows cells status error = .ok t' ↔
    t.state = .initialized ∧ Fits columns rows cells status ∧
      t'.Answers columns rows cells status error := by
  constructor
  · intro h
    simp only [fill] at h
    split_ifs at h with hstate hnegative hcells
    rw [not_or, Int.not_lt, Int.not_lt] at hnegative
    obtain ⟨hcolumns, hrows⟩ := hnegative
    obtain rfl := Except.ok.inj h
    have hfits : Fits columns rows cells status := by
      refine ⟨hcolumns, hrows, fun hok => ?_⟩
      rw [← length_eq_expectedCells_iff hcolumns hrows]
      exact Decidable.not_not.1 fun hlength => hcells ⟨hok, hlength⟩
    exact ⟨Decidable.not_not.1 hstate, hfits, hfits.answers error⟩
  · rintro ⟨hstate, ⟨hcolumns, hrows, hcells⟩, hanswers⟩
    rw [fill, if_neg (not_not_intro hstate), if_neg (by omega), if_neg]
    · obtain ⟨state, columnCount, rowCount, cells', status', error'⟩ := t'
      obtain ⟨rfl, rfl, rfl, rfl, rfl, rfl⟩ := hanswers
      rfl
    · rintro ⟨hok, hlength⟩
      exact hlength ((length_eq_expectedCells_iff hcolumns hrows).2 (hcells hok))

theorem Answers.wellFormed (h : t.Answers columns rows cells status error)
    (hfits : Fits columns rows cells status) : t.WellFormed where
  initialized hstate := nomatch h.state.symm.trans hstate
  populated _ hok := by
    have hlength := hfits.length_cells (h.status.symm.trans hok)
    rw [← h.columnCount, ← h.rowCount, ← h.cells] at hlength
    exact_mod_cast hlength
  released hstate := nomatch h.state.symm.trans hstate

end Fill

theorem release_of_ne {t : Table} (h : t.state ≠ .released) : t.release = .ok t.emptied :=
  if_neg h

theorem release_of_eq {t : Table} (h : t.state = .released) :
    t.release = .error (.alreadyReleased .released) := by
  rw [release, if_pos h, h]

theorem wellFormed_emptied (t : Table) : t.emptied.WellFormed :=
  ⟨nofun, nofun, fun _ => ⟨rfl, rfl⟩⟩

theorem leave_eq (t : Table) : t.leave = if t.state = .released then t else t.emptied := by
  rw [leave]
  split_ifs with h
  · rw [release_of_eq h]
  · rw [release_of_ne h]

/-! ### Single steps -/

/-- Whether an operation changes the table wherever it succeeds. -/
def Operation.isChange : Operation → Bool
  | fill .. | release | leave => true
  | _ => false

/-- What an operation does to a table. -/
inductive Transition (t : Table) : Operation → Except Error Answer → Table → Prop
  /-- It fails. -/
  | failed {operation : Operation} {e : Error} (hleave : operation ≠ .leave) :
      Transition t operation (.error e) t
  /-- It reads. -/
  | read {operation : Operation} {answer : Answer} (hread : operation.isChange = false) :
      Transition t operation (.ok answer) t
  /-- It fills a new table. -/
  | filled {columns rows : Int} {cells : List Cell} {status : Status} {error : Option Text}
      {t' : Table} (hstate : t.state = .initialized) (hfits : Fits columns rows cells status)
      (hanswers : t'.Answers columns rows cells status error) :
      Transition t (.fill columns rows cells status error) (.ok .done) t'
  /-- It releases a table, by hand or at the end of a scope. -/
  | released {operation : Operation} (hstate : t.state ≠ .released)
      (hoperation : operation = .release ∨ operation = .leave) :
      Transition t operation (.ok .done) t.emptied
  /-- The scope of a table ends that has been released before. -/
  | left (hstate : t.state = .released) : Transition t .leave (.ok .done) t

/-- A step of a run: the table in front of an operation, what the operation answers, and the table
behind it. -/
structure Step where
  before : Table
  operation : Operation
  outcome : Except Error Answer
  after : Table

namespace Session

/-- The step of an operation. -/
def step (s : Session) (operation : Operation) : Step :=
  ⟨s.table, operation, (s.perform operation).1, (s.perform operation).2.table⟩

/-- The steps of operations one after the other. -/
def steps (s : Session) : List Operation → List Step
  | [] => []
  | operation :: rest => s.step operation :: (s.perform operation).2.steps rest

end Session

/-- Every step makes one of the five transitions. -/
theorem Session.transition_step (s : Session) (operation : Operation) :
    Transition s.table operation (s.step operation).outcome (s.step operation).after := by
  -- what is read from a table leaves the table behind, whether it succeeds or fails
  have hreading {α : Type} (answer : α → Answer) (result : Except Error α) {operation : Operation}
      (hread : operation.isChange = false) :
      Transition s.table operation (s.reading answer result).1 s.table := by
    cases result with
    | error e => exact .failed (by rintro rfl; exact absurd hread (by decide))
    | ok a => exact .read hread
  cases operation with
  | fill columns rows cells status error =>
    simp only [step, perform, changing]
    cases hfill : s.table.fill columns rows cells status error with
    | error e => exact .failed nofun
    | ok t' =>
      obtain ⟨hstate, hfits, hanswers⟩ := fill_eq_ok_iff.1 hfill
      exact .filled hstate hfits hanswers
  | release =>
    by_cases hstate : s.table.state = .released
    · simp only [step, perform, changing, release_of_eq hstate]
      exact .failed nofun
    · simp only [step, perform, changing, release_of_ne hstate]
      exact .released hstate (.inl rfl)
  | leave =>
    simp only [step, perform, changing, leave_eq]
    split_ifs with hstate
    · exact .left hstate
    · exact .released hstate (.inr rfl)
  | nextRow index =>
    simp only [step, perform, nextRow]
    cases s.iterators[index]? with
    | none => exact .failed nofun
    | some iterator => exact hreading .row (iterator.next s.table).1 rfl
  | succeeded => exact .read rfl
  | failed => exact .read rfl
  | describe => exact .read rfl
  | enter => exact .read rfl
  | openIterator => exact .read rfl
  | _ => exact hreading _ _ rfl

namespace Transition

variable {t t' : Table} {operation : Operation} {outcome : Except Error Answer}
  (h : Transition t operation outcome t')
include h

theorem state_eq_or_moves : t'.state = t.state ∨ t.state.Moves t'.state := by
  cases h with
  | filled hstate _ hanswers =>
    rw [hstate, hanswers.state]
    exact .inr .fill
  | released hstate _ =>
    cases hfrom : t.state with
    | initialized => exact .inr .discard
    | populated => exact .inr .release
    | released => exact absurd hfrom hstate
  | _ => exact .inl rfl

theorem eq_of_error {e : Error} (houtcome : outcome = .error e) : t' = t := by
  cases h with
  | failed => rfl
  | _ => exact nomatch houtcome

theorem wellFormed (ht : t.WellFormed) : t'.WellFormed := by
  cases h with
  | filled _ hfits hanswers => exact hanswers.wellFormed hfits
  | released => exact wellFormed_emptied t
  | _ => exact ht

end Transition

/-! ### Every step -/

/-- Only a new table is filled, and it takes every answer that fits. -/
theorem Session.step_fill (s : Session) (columns rows : Int) (cells : List Cell) (status : Status)
    (error : Option Text) :
    ((s.step (.fill columns rows cells status error)).outcome.isOk ↔
      s.table.state = .initialized ∧ Fits columns rows cells status) ∧
    ((s.step (.fill columns rows cells status error)).outcome.isOk →
      (s.step (.fill columns rows cells status error)).after.Answers columns rows cells status
        error) := by
  simp only [step, perform, changing]
  cases hfill : s.table.fill columns rows cells status error with
  | error e =>
    refine ⟨⟨nofun, fun ⟨hstate, hfits⟩ => ?_⟩, nofun⟩
    have hok := fill_eq_ok_iff.2 ⟨hstate, hfits, hfits.answers error⟩
    exact nomatch hfill.symm.trans hok
  | ok t' =>
    obtain ⟨hstate, hfits, hanswers⟩ := fill_eq_ok_iff.1 hfill
    exact ⟨⟨fun _ => ⟨hstate, hfits⟩, fun _ => rfl⟩, fun _ => hanswers⟩

/-- A table is released by hand unless it has been released before. -/
theorem Session.step_release (s : Session) :
    ((s.step .release).outcome.isOk ↔ s.table.state ≠ .released) ∧
      ((s.step .release).outcome.isOk → (s.step .release).after.state = .released) := by
  simp only [step, perform, changing]
  by_cases hstate : s.table.state = .released
  · rw [release_of_eq hstate]
    exact ⟨⟨nofun, fun hne => absurd hstate hne⟩, nofun⟩
  · rw [release_of_ne hstate]
    exact ⟨⟨fun _ => hstate, fun _ => rfl⟩, fun _ => rfl⟩

/-- What holds of every step. -/
structure Step.Sound (step : Step) : Prop where
  moves : step.after.state = step.before.state ∨ step.before.state.Moves step.after.state
  unchanged : ∀ e, step.outcome = .error e → step.after = step.before
  wellFormed : step.before.WellFormed ∧ step.after.WellFormed
  filled : ∀ columns rows cells status error,
    step.operation = .fill columns rows cells status error →
      (step.outcome.isOk ↔ step.before.state = .initialized ∧ Fits columns rows cells status) ∧
        (step.outcome.isOk → step.after.Answers columns rows cells status error)
  released : step.operation = .release →
    (step.outcome.isOk ↔ step.before.state ≠ .released) ∧
      (step.outcome.isOk → step.after.state = .released)
  /-- The end of a scope never fails. -/
  left : step.operation = .leave → step.outcome = .ok .done ∧ step.after.state = .released

theorem Session.sound_step {s : Session} (hs : s.table.WellFormed) (operation : Operation) :
    (s.step operation).Sound where
  moves := (s.transition_step operation).state_eq_or_moves
  unchanged _ houtcome := (s.transition_step operation).eq_of_error houtcome
  wellFormed := ⟨hs, (s.transition_step operation).wellFormed hs⟩
  filled columns rows cells status error hoperation := by
    obtain rfl : operation = .fill columns rows cells status error := hoperation
    exact s.step_fill columns rows cells status error
  released hoperation := by
    obtain rfl : operation = .release := hoperation
    exact s.step_release
  left hoperation := by
    obtain rfl : operation = .leave := hoperation
    exact ⟨rfl, leave_state s.table⟩

theorem Session.sound_of_mem_steps {s : Session} (hs : s.table.WellFormed)
    (operations : List Operation) : ∀ step ∈ s.steps operations, step.Sound := by
  induction operations generalizing s with
  | nil => exact fun _ hstep => nomatch hstep
  | cons operation rest ih =>
    have hsound := sound_step hs operation
    exact List.forall_mem_cons.2 ⟨hsound, ih hsound.wellFormed.2⟩

/-! ### Steps on a released table -/

/-- How an operation that a released table refuses fails on it. -/
def Operation.refusal? : Operation → Option Error
  | fill .. => some (.notInitialized .released)
  | get .. | getInteger .. | rows | header => some (.notPopulated .released)
  | release => some (.alreadyReleased .released)
  | _ => none

/-- A step that leaves a released table as it is and fails wherever the table is needed. -/
structure Step.Refused (step : Step) : Prop where
  before : step.before.state = .released
  unchanged : step.after = step.before
  outcome : ∀ e ∈ step.operation.refusal?, step.outcome = .error e

theorem Transition.eq_of_released {t t' : Table} {operation : Operation}
    {outcome : Except Error Answer} (h : Transition t operation outcome t')
    (hstate : t.state = .released) : t' = t := by
  cases h with
  | filled hnew => exact nomatch hnew.symm.trans hstate
  | released hne => exact absurd hstate hne
  | _ => rfl

theorem requirePopulated_of_eq {t : Table} (h : t.state = .released) :
    t.requirePopulated = .error (.notPopulated .released) := by
  rw [requirePopulated, h]
  rfl

theorem get_of_eq {t : Table} (h : t.state = .released) (column row : Int) :
    t.get column row = .error (.notPopulated .released) := by
  rw [get, requirePopulated_of_eq h]
  rfl

theorem Session.refused_step {s : Session} (hs : s.table.state = .released)
    (operation : Operation) : (s.step operation).Refused := by
  refine ⟨hs, (s.transition_step operation).eq_of_released hs, fun e he => ?_⟩
  cases operation with
  | fill columns rows cells status error =>
    obtain rfl := Option.some.inj he
    simp [step, perform, changing, fill, hs]
  | get column row =>
    obtain rfl := Option.some.inj he
    simp only [step, perform, reading, get_of_eq hs]
    rfl
  | getInteger column row =>
    obtain rfl := Option.some.inj he
    simp only [step, perform, reading, getInteger, get_of_eq hs]
    rfl
  | rows =>
    obtain rfl := Option.some.inj he
    simp only [step, perform, reading, Table.rows, requirePopulated_of_eq hs]
    rfl
  | header =>
    obtain rfl := Option.some.inj he
    simp only [step, perform, reading, Table.header, requirePopulated_of_eq hs]
    rfl
  | release =>
    obtain rfl := Option.some.inj he
    simp only [step, perform, changing, release_of_eq hs]
  | _ => exact nomatch he

theorem Session.refused_of_mem_steps {s : Session} (hs : s.table.state = .released)
    (operations : List Operation) : ∀ step ∈ s.steps operations, step.Refused := by
  induction operations generalizing s with
  | nil => exact fun _ hstep => nomatch hstep
  | cons operation rest ih =>
    have hrefused := refused_step hs operation
    refine List.forall_mem_cons.2 ⟨hrefused, ih ?_⟩
    exact (congrArg Table.state hrefused.unchanged).trans hs

/-- Behind a release every step is refused. -/
theorem Session.pairwise_steps (s : Session) (operations : List Operation) :
    (s.steps operations).Pairwise fun earlier later =>
      earlier.after.state = .released → later.Refused := by
  induction operations generalizing s with
  | nil => exact .nil
  | cons operation rest ih =>
    refine List.pairwise_cons.2 ⟨fun later hlater hreleased => ?_, ih _⟩
    exact refused_of_mem_steps hreleased rest later hlater

/-! ### What happens once -/

/-- Whether a step fills its table. -/
def Step.fills (step : Step) : Bool :=
  match step.operation with
  | .fill .. => step.outcome.isOk
  | _ => false

/-- Whether a step releases its table, by hand or at the end of a scope. -/
def Step.releases (step : Step) : Bool :=
  match step.operation with
  | .release => step.outcome.isOk
  | .leave => step.before.state ≠ .released
  | _ => false

/-- What happens only while a gate is open, and closes it, happens once if no move opens the gate
again. -/
theorem Session.countP_steps_le {event : Step → Bool} (gate : State → Prop) [DecidablePred gate]
    (hevent : ∀ (s : Session) operation, event (s.step operation) = true →
      gate s.table.state ∧ ¬gate (s.step operation).after.state)
    (hgate : ∀ a b : State, a.Moves b → gate b → gate a) (s : Session)
    (operations : List Operation) :
    (s.steps operations).countP event ≤ if gate s.table.state then 1 else 0 := by
  induction operations generalizing s with
  | nil => exact Nat.zero_le _
  | cons operation rest ih =>
    have hrest : ((s.perform operation).2.steps rest).countP event ≤
        if gate (s.step operation).after.state then 1 else 0 := ih (s.perform operation).2
    have hback : gate (s.step operation).after.state → gate s.table.state := by
      rcases (s.transition_step operation).state_eq_or_moves with hstate | hmoves
      · rw [hstate]
        exact id
      · exact hgate _ _ hmoves
    rw [steps, List.countP_cons]
    by_cases hhappens : event (s.step operation) = true
    · obtain ⟨hopen, hclosed⟩ := hevent s operation hhappens
      rw [if_neg hclosed] at hrest
      rw [if_pos hhappens, if_pos hopen]
      omega
    · rw [if_neg hhappens]
      refine Nat.le_trans hrest ?_
      split_ifs with hafter hbefore
      · exact Nat.le_refl 1
      · exact absurd (hback hafter) hbefore
      · exact Nat.zero_le 1
      · exact Nat.le_refl 0

theorem Session.state_of_fills {s : Session} {operation : Operation}
    (h : (s.step operation).fills = true) :
    s.table.state = .initialized ∧ (s.step operation).after.state = .populated := by
  cases operation with
  | fill columns rows cells status error =>
    obtain ⟨hok, hanswers⟩ := s.step_fill columns rows cells status error
    exact ⟨(hok.1 h).1, (hanswers h).state⟩
  | _ => exact nomatch h

theorem Session.state_of_releases {s : Session} {operation : Operation}
    (h : (s.step operation).releases = true) :
    s.table.state ≠ .released ∧ (s.step operation).after.state = .released := by
  cases operation with
  | release => exact ⟨s.step_release.1.1 h, s.step_release.2 h⟩
  | leave => exact ⟨of_decide_eq_true h, leave_state s.table⟩
  | _ => exact nomatch h

/-- **A table is filled once and released once.** Whatever is asked of a new table, in any order and
with any arguments, its state only moves forward, a failing operation changes nothing, and every
table on the way is well formed. It takes the first answer that fits, whatever it has refused
before. Behind its release an access to cells, a further answer and a further release fail, and no
scope ever fails to end. -/
theorem Session.lifecycle (operations : List Operation) :
    (∀ step ∈ ({} : Session).steps operations, step.Sound) ∧
      (({} : Session).steps operations).countP Step.fills ≤ 1 ∧
      (({} : Session).steps operations).countP Step.releases ≤ 1 ∧
      (({} : Session).steps operations).Pairwise fun earlier later =>
        earlier.after.state = .released → later.Refused := by
  refine ⟨sound_of_mem_steps wellFormed_new operations, ?_, ?_, pairwise_steps {} operations⟩
  · refine countP_steps_le (· = .initialized) (fun s operation h => ?_) ?_ {} operations
    · obtain ⟨hbefore, hafter⟩ := state_of_fills h
      exact ⟨hbefore, by simp [hafter]⟩
    · rintro a b (_ | _ | _) hb
      all_goals exact nomatch hb
  · refine countP_steps_le (· ≠ .released) (fun s operation h => ?_) ?_ {} operations
    · obtain ⟨hbefore, hafter⟩ := state_of_releases h
      exact ⟨hbefore, not_not_intro hafter⟩
    · rintro a b (_ | _ | _) -
      all_goals exact nofun

/-- A refused answer, one that fits, the end of the scope, and two operations behind it. -/
example :
    (({} : Session).steps [.fill 1 1 [] .ok none, .fill 1 0 [some ['a']] .ok none, .leave, .release,
      .get 0 0]).map (fun step => (step.outcome.isOk, step.after.state)) =
      [(false, .initialized), (true, .populated), (true, .released), (false, .released),
        (false, .released)] := by
  decide

end SqliteAccess.Table
