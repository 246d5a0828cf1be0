import Mathlib.Data.List.Infix
import SqliteAccess.Proofs.Engine.Running
import SqliteAccess.Proofs.Table.Buffer

/-!
# The table of a query

A query on a connection without faults answers with the rows of all its statements, in order and
under the header of the first of them, as long as all of them have the same number of columns. The
first one with another number of columns ends the query with a failure. The counts and the cells
that a table is filled with always fit together.

## Main definitions

* `Rows.IsRectangular` : rows with as many values as there are columns.
* `Rows.headerOf`, `Rows.bodyOf` : the header and the rows of a table of results.
* `Engine.FirstMisfit` : the first statement of a query whose rows do not fit to the others.

## Main results

* `Engine.gather_eq_of_uniform` : what is gathered from results of one width.
* `Engine.runQueries_of_uniform` : the run of a query whose results have one width.
* `Engine.Session.perform_query` : the answer of a query.
-/

namespace SqliteAccess

/-- Rows with as many values as there are columns, of which there is at least one. -/
structure Rows.IsRectangular (r : Rows) : Prop where
  columns_ne_nil : r.columns ≠ []
  width : ∀ row ∈ r.rows, row.length = r.columns.length

/-- Results with the same number of columns. -/
def Rows.Uniform (results : List Rows) : Prop :=
  ∀ a ∈ results, ∀ b ∈ results, a.columns.length = b.columns.length

/-- The header of the table of results: the columns of the first one. -/
def Rows.headerOf (results : List Rows) : List Cell :=
  ((results.head?.map Rows.columns).getD []).map some

/-- The rows of the table of results: the rows of all of them in order, value by value. -/
def Rows.bodyOf (results : List Rows) : List (List Cell) :=
  (results.flatMap Rows.rows).map fun row => row.map Value.cell

theorem Rows.length_of_mem_bodyOf {results : List Rows} (huniform : Rows.Uniform results)
    (hshape : ∀ r ∈ results, r.IsRectangular) {row : List Cell}
    (hrow : row ∈ Rows.bodyOf results) : row.length = (Rows.headerOf results).length := by
  obtain ⟨values, hvalues, rfl⟩ := List.mem_map.1 hrow
  obtain ⟨r, hr, hmem⟩ := List.mem_flatMap.1 hvalues
  obtain ⟨first, rest, rfl⟩ := List.exists_cons_of_ne_nil (List.ne_nil_of_mem hr)
  rw [List.length_map, (hshape r hr).width values hmem, huniform r hr first List.mem_cons_self]
  simp [Rows.headerOf]

/-! ### Replies one after the other -/

namespace Script

theorem replies_add (script : Script) (m n : Nat) :
    script.replies (m + n) = script.replies m ++ Script.replies (script.drop m) n := by
  induction m generalizing script with
  | zero => simp [replies]
  | succ m ih => rw [Nat.succ_add, replies, ih, replies, List.drop_tail, List.cons_append]

theorem results_add (script : Script) (m n : Nat) :
    script.results (m + n) = script.results m ++ Script.results (script.drop m) n := by
  rw [results, replies_add, List.filterMap_append]
  rfl

/-- The first result that lacks a property comes from one of the statements. -/
theorem exists_first_result {p : Rows → Prop} {script : Script} {statements : List Text}
    (h : ¬ ∀ r ∈ script.results statements.length, p r) :
    ∃ before statement after rows, statements = before ++ statement :: after ∧
      (∀ r ∈ script.results before.length, p r) ∧
      (Script.next (script.drop before.length)).filled? = some rows ∧ ¬ p rows := by
  induction statements generalizing script with
  | nil => exact absurd (fun r hr => nomatch hr) h
  | cons statement statements ih =>
    rw [List.length_cons, Nat.add_comm, results_add, List.forall_mem_append, not_and_or] at h
    by_cases hfirst : ∀ r ∈ script.results 1, p r
    · obtain ⟨before, found, after, rows, rfl, hbefore, hfilled, hp⟩ :=
        ih (h.resolve_left (not_not_intro hfirst))
      refine ⟨statement :: before, found, after, rows, rfl, ?_, ?_, hp⟩
      · rw [List.length_cons, Nat.add_comm, results_add]
        exact List.forall_mem_append.2 ⟨hfirst, hbefore⟩
      · rwa [List.drop_drop, Nat.add_comm] at hfilled
    · obtain ⟨rows, hfilled, hp⟩ : ∃ rows, script.next.filled? = some rows ∧ ¬ p rows := by
        simpa [results, replies] using hfirst
      exact ⟨[], statement, statements, rows, rfl, by simp [results, replies], hfilled, hp⟩

end Script

namespace Engine

/-! ### Gathering all results -/

/-- Results of one width are gathered under the header of the first of them. -/
theorem gather_eq_of_uniform {results : List Rows} (hrows : ∀ r ∈ results, r.rows ≠ [])
    (hshape : ∀ r ∈ results, r.IsRectangular) (huniform : Rows.Uniform results) :
    gather {} results = some ⟨(results.head?.map Rows.columns).getD [],
      Rows.headerOf results ++ (Rows.bodyOf results).flatten, (Rows.bodyOf results).length⟩ := by
  cases results with
  | nil => rfl
  | cons first rest =>
    rw [gather_cons_of_open rfl (hrows first List.mem_cons_self)
      (hshape first List.mem_cons_self).columns_ne_nil
      fun r hr => huniform r (List.mem_cons_of_mem _ hr) first List.mem_cons_self]
    simp [Rows.headerOf, Rows.bodyOf, Gathered.cellsOf, List.flatMap_def, Function.comp_def]

/-- The table of what has been gathered from results of one width. -/
theorem exists_table_of_uniform {results : List Rows} (hrows : ∀ r ∈ results, r.rows ≠ [])
    (hshape : ∀ r ∈ results, r.IsRectangular) (huniform : Rows.Uniform results) :
    ∃ g t, gather {} results = some g ∧ g.table = .ok t ∧
      t.Holds (Rows.headerOf results) (Rows.bodyOf results) := by
  obtain ⟨t, hfill, hholds⟩ := Table.exists_fill_eq_ok
    fun _ hrow => Rows.length_of_mem_bodyOf huniform hshape hrow
  refine ⟨_, t, gather_eq_of_uniform hrows hshape huniform, ?_, hholds⟩
  simpa [Gathered.table, Rows.headerOf] using hfill

/-- A query without a fault, whose results have one width, executes all statements and fills a
table with their rows. -/
theorem runQueries_of_uniform {script : Script} {statements : List Text}
    (hfault : ∀ reply ∈ script.replies statements.length, reply.fault? .query = none)
    (hshape : ∀ r ∈ script.results statements.length, r.IsRectangular)
    (huniform : Rows.Uniform (script.results statements.length)) :
    ∃ calls t, Call.executed calls = statements ∧
      runQueries script {} statements = ⟨.ok t, calls, []⟩ ∧
      t.Holds (Rows.headerOf (script.results statements.length))
        (Rows.bodyOf (script.results statements.length)) := by
  obtain ⟨g, t, hgather, htable, hholds⟩ := exists_table_of_uniform
    (fun r hr => Script.rows_ne_nil_of_mem_results hr) hshape huniform
  obtain ⟨calls, hexecuted, hrun⟩ := runQueries_append hfault hgather
  have hall := hrun []
  rw [List.append_nil, runQueries, htable] at hall
  refine ⟨calls, t, hexecuted, ?_, hholds⟩
  simpa [Report.after, Except.mapError] using hall

/-! ### The first misfit -/

/-- The first result of a query that has another number of columns than the first one of all is that
of `statement`, which follows the statements `before`. -/
structure FirstMisfit (script : Script) (statements before : List Text) (statement : Text) :
    Prop where
  position : before ++ [statement] <+: statements
  misfit : ∃ first rows, (script.results before.length).head? = some first ∧
    (∀ r ∈ script.results before.length, r.columns.length = first.columns.length) ∧
    (Script.next (script.drop before.length)).filled? = some rows ∧
    rows.columns.length ≠ first.columns.length

theorem exists_firstMisfit {script : Script} {statements : List Text}
    (h : ¬ Rows.Uniform (script.results statements.length)) :
    ∃ before statement, FirstMisfit script statements before statement := by
  obtain ⟨first, rest, hresults⟩ : ∃ first rest, script.results statements.length = first :: rest :=
    List.exists_cons_of_ne_nil fun hnil => h (by simp [Rows.Uniform, hnil])
  have hnot : ¬ ∀ r ∈ script.results statements.length,
      r.columns.length = first.columns.length :=
    fun hall => h fun a ha b hb => (hall a ha).trans (hall b hb).symm
  obtain ⟨before, statement, after, rows, rfl, hbefore, hfilled, hrows⟩ :=
    Script.exists_first_result hnot
  refine ⟨before, statement, ⟨after, by simp⟩, first, rows, ?_, hbefore, hfilled, hrows⟩
  -- the first result of all is not the misfit itself, so that it comes before it
  rw [List.length_append, Script.results_add] at hresults
  cases hbeforeResults : script.results before.length with
  | nil =>
    rw [hbeforeResults, List.nil_append, List.length_cons, Script.results, Script.replies,
      List.filterMap_cons_some hfilled] at hresults
    exact absurd (congrArg (·.columns.length) (List.cons.inj hresults).1) hrows
  | cons r rs =>
    rw [hbeforeResults] at hresults
    exact congrArg some (List.cons.inj hresults).1

/-- The run of a query with a misfit executes the statements up to the misfit. -/
theorem FirstMisfit.run_eq {script : Script} {statements before : List Text} {statement : Text}
    (h : FirstMisfit script statements before statement)
    (hfault : ∀ reply ∈ script.replies statements.length, reply.fault? .query = none)
    (hshape : ∀ r ∈ script.results statements.length, r.IsRectangular) :
    ∃ calls, Call.executed calls = before ++ [statement] ∧ runQueries script {} statements =
      ⟨.ok (Table.ofFailure incompatible), calls,
        [failureEvent queryFailed statement incompatible]⟩ := by
  obtain ⟨⟨after, rfl⟩, first, rows, hhead, hbefore, hfilled, hlength⟩ := h
  rw [List.append_assoc, List.singleton_append, List.length_append] at hfault hshape
  rw [Script.replies_add, List.forall_mem_append, List.length_cons, Script.replies,
    List.forall_mem_cons] at hfault
  rw [Script.results_add, List.forall_mem_append] at hshape
  obtain ⟨hfaultBefore, hfaultMisfit, -⟩ := hfault
  -- the header is that of the first result, which has a column
  obtain ⟨g, hgather, hheader⟩ : ∃ g, gather {} (script.results before.length) = some g ∧
      g.columns = first.columns :=
    ⟨_, gather_eq_of_uniform (fun r hr => Script.rows_ne_nil_of_mem_results hr) hshape.1
      fun a ha b hb => (hbefore a ha).trans (hbefore b hb).symm, by simp [hhead]⟩
  have hcolumns : first.columns ≠ [] :=
    (hshape.1 first (List.mem_of_head? hhead)).columns_ne_nil
  have hadd : g.add (Script.next (script.drop before.length)).fetched = none := by
    rw [add_fetched, hfilled]
    exact add_eq_none (Reply.rows_ne_nil_of_filled? hfilled) (hheader ▸ hcolumns)
      (hheader ▸ hlength)
  obtain ⟨calls, hexecuted, hrun⟩ := runQueries_append hfaultBefore hgather
  obtain ⟨last, hlast, hmisfit⟩ :=
    runQueries_incompatible hfaultMisfit hadd statement after
  refine ⟨calls ++ last, ?_, ?_⟩
  · rw [Call.executed_append, hexecuted, hlast]
  · rw [List.append_assoc, List.singleton_append, hrun, hmisfit]
    rfl

/-- **The table of a query.** On a connection that raises no fault, a query whose results have one
width executes all statements in order and answers with all rows under the header of the first
result. Any other query executes nothing behind the first misfit and answers with a failure. Neither
table is refused when it is filled. -/
theorem Session.perform_query {s : Session} {settings : Settings} {sql : Text}
    {statements : List Text} {script : Script} (hsettings : s.settings.get.result = .ok settings)
    (hsplit : Statement.split sql = .ok statements)
    (hfault : ∀ reply ∈ script.replies statements.length, reply.fault? .query = none)
    (hshape : ∀ r ∈ script.results statements.length, r.IsRectangular) :
    (Rows.Uniform (script.results statements.length) →
      Call.executed (s.perform .query script sql).1.calls = statements ∧
        ∃ t, (s.perform .query script sql).1.outcome = .ok (.query t) ∧
          t.Holds (Rows.headerOf (script.results statements.length))
            (Rows.bodyOf (script.results statements.length))) ∧
      (¬ Rows.Uniform (script.results statements.length) →
        ∃ before statement, FirstMisfit script statements before statement ∧
          Call.executed (s.perform .query script sql).1.calls = before ++ [statement] ∧
          ∃ t, (s.perform .query script sql).1.outcome = .ok (.query t) ∧
            ({} : Table).fill 0 0 [] .failure (some incompatible) = .ok t ∧
            t.HoldsFailure incompatible) := by
  rw [perform_of_split hsettings hsplit, Report.calls_after, List.nil_append,
    Report.outcome_after, Request.run, Report.calls_map, Report.outcome_map]
  refine ⟨fun huniform => ?_, fun hmixed => ?_⟩
  · obtain ⟨calls, t, hexecuted, hrun, hholds⟩ := runQueries_of_uniform hfault hshape huniform
    rw [hrun]
    exact ⟨hexecuted, t, rfl, hholds⟩
  · obtain ⟨before, statement, hmisfit⟩ := exists_firstMisfit hmixed
    obtain ⟨calls, hexecuted, hrun⟩ := hmisfit.run_eq hfault hshape
    refine ⟨before, statement, hmisfit, ?_, Table.ofFailure incompatible, ?_,
      Table.fill_failure incompatible, Table.holdsFailure_ofFailure incompatible⟩
    · rw [hrun, hexecuted]
    · rw [hrun]
      rfl

/-- Rows of two statements under the header of the first of them. -/
theorem Session.perform_query_union :
    let s : Session := ⟨⟨[], some {}⟩, ⟨20, none⟩⟩
    let first : Rows := ⟨["a".toList, "b".toList], [[.integer 1, .null], [.integer 2, .null]]⟩
    let second : Rows := ⟨["c".toList, "d".toList], [[.text "x".toList, .boolean true]]⟩
    let script : Script := [.delivery {}, .delivery ⟨true, first.columns, first.rows, none⟩,
      .delivery ⟨true, second.columns, second.rows, none⟩]
    let statements := ["BEGIN;".toList, "SELECT * FROM t;".toList, "SELECT * FROM u".toList]
    let report := (s.perform .query script "BEGIN; SELECT * FROM t; SELECT * FROM u".toList).1
    (∀ reply ∈ script.replies statements.length, reply.fault? .query = none) ∧
      script.results statements.length = [first, second] ∧
      (∀ r ∈ [first, second], r.IsRectangular) ∧ Rows.Uniform [first, second] ∧
      Call.executed report.calls = statements ∧
      ∃ t, report.outcome = .ok (.query t) ∧
        t.Holds [some "a".toList, some "b".toList]
          [[some "1".toList, none], [some "2".toList, none],
            [some "x".toList, some "1".toList]] := by
  intro s first second script statements report
  have hsplit : Statement.split "BEGIN; SELECT * FROM t; SELECT * FROM u".toList =
      .ok statements := by decide +kernel
  have hfault : ∀ reply ∈ script.replies statements.length, reply.fault? .query = none := by
    simp [script, statements, Script.replies, Script.next, Reply.fault?]
  have hresults : script.results statements.length = [first, second] := rfl
  have hshape : ∀ r ∈ [first, second], r.IsRectangular := by
    simp only [List.forall_mem_cons, List.not_mem_nil, false_imp_iff, implies_true, and_true]
    exact ⟨⟨by decide, by decide⟩, ⟨by decide, by decide⟩⟩
  have huniform : Rows.Uniform [first, second] := by simp [Rows.Uniform, first, second]
  exact ⟨hfault, hresults, hshape, huniform,
    (Session.perform_query rfl hsplit hfault hshape).1 huniform⟩

end Engine

end SqliteAccess
