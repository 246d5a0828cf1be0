import SqliteAccess.Proofs.Engine.Requests

/-!
# Running statements

A run goes past every statement that raises no fault, and what it does from there on is what it
would do with the replies that are left. A query goes past a statement only if its rows fit to the
header that has been gathered.

## Main definitions

* `Reply.fault?` : the fault that a reply raises in a request.
* `Engine.gather` : what is gathered from results.
* `Engine.Compatible` : results whose rows can be gathered in one table.

## Main results

* `Engine.runCommands_append` : a command behind statements without faults.
* `Engine.runQueries_append` : a query behind statements without faults.
* `Engine.exists_gather_iff` : the results that are gathered are the compatible ones.
-/

namespace SqliteAccess

/-- The fault that a reply raises in a request: when the statement is executed, or when the rows of
its result are fetched, which a command does not do. -/
def Reply.fault? (request : Engine.Request) : Reply → Option Fault
  | refusal fault => some fault
  | delivery d => if request ≠ .command ∧ d.hasRows then d.fetchFault else none

namespace Reply

/-- What a query reads from a reply without a fault. -/
def fetched : Reply → Rows
  | refusal _ => ⟨[], []⟩
  | delivery d => if d.hasRows then ⟨d.columns, d.rows⟩ else ⟨[], []⟩

theorem discard_of_fault?_eq_none {reply : Reply} (h : reply.fault? .command = none)
    (statement : Text) : reply.discard statement = (.ok (), [.execute statement, .close]) := by
  cases reply with
  | refusal fault => simp [fault?] at h
  | delivery d => rfl

theorem discard_of_fault?_eq_some {reply : Reply} {fault : Fault}
    (h : reply.fault? .command = some fault) (statement : Text) :
    reply.discard statement = (.error fault, [.execute statement]) := by
  cases reply with
  | refusal fault' =>
    obtain rfl : fault' = fault := by simpa [fault?] using h
    rfl
  | delivery d => simp [fault?] at h

theorem fetchAll_of_fault?_eq_none {reply : Reply} (h : reply.fault? .query = none)
    (statement : Text) :
    ∃ reads, (∀ c ∈ reads, c.isReading = true) ∧ reply.fetchAll statement =
      (.ok reply.fetched, .execute statement :: (reads ++ [.close])) := by
  cases reply with
  | refusal fault => simp [fault?] at h
  | delivery d =>
    cases hrows : d.hasRows with
    | false => exact ⟨[], by simp, by simp [fetchAll, fetched, hrows]⟩
    | true =>
      have hfetch : d.fetchFault = none := by simpa [fault?, hrows] using h
      exact ⟨[.columns, .fetchAll], by decide,
        by simp [fetchAll, fetched, hrows, Delivery.all, hfetch]⟩

theorem fetchAll_of_fault?_eq_some {reply : Reply} {fault : Fault}
    (h : reply.fault? .query = some fault) (statement : Text) :
    ∃ calls, Call.executed calls = [statement] ∧
      reply.fetchAll statement = (.error fault, calls) := by
  cases reply with
  | refusal fault' =>
    obtain rfl : fault' = fault := by simpa [fault?] using h
    exact ⟨[.execute statement], rfl, rfl⟩
  | delivery d =>
    cases hrows : d.hasRows with
    | false => simp [fault?, hrows] at h
    | true =>
      have hfetch : d.fetchFault = some fault := by simpa [fault?, hrows] using h
      exact ⟨[.execute statement, .columns, .fetchAll, .close], rfl,
        by simp [fetchAll, hrows, Delivery.all, hfetch]⟩

theorem rows_ne_nil_of_filled? {reply : Reply} {r : Rows} (h : reply.filled? = some r) :
    r.rows ≠ [] := by
  cases reply with
  | refusal fault => simp [filled?] at h
  | delivery d =>
    rw [filled?, Option.ite_none_right_eq_some] at h
    obtain ⟨⟨-, hrows⟩, h⟩ := h
    obtain rfl := Option.some.inj h
    exact hrows

end Reply

theorem Script.rows_ne_nil_of_mem_results {script : Script} {n : Nat} {r : Rows}
    (h : r ∈ script.results n) : r.rows ≠ [] := by
  obtain ⟨reply, -, hfilled⟩ := List.mem_filterMap.1 h
  exact Reply.rows_ne_nil_of_filled? hfilled

namespace Engine

/-! ### Commands -/

theorem runCommands_step {script : Script} (hfault : script.next.fault? .command = none)
    (statement : Text) (rest : List Text) :
    runCommands script (statement :: rest) =
      (runCommands script.tail rest).after [.execute statement, .close] [] := by
  rw [runCommands, Reply.discard_of_fault?_eq_none hfault]

theorem runCommands_fault {script : Script} {fault : Fault}
    (hfault : script.next.fault? .command = some fault) (statement : Text) (rest : List Text) :
    runCommands script (statement :: rest) =
      (ofFault "sql.exec_failed".toList statement fault CommandResult.ofFailure).after
        [.execute statement] [] := by
  rw [runCommands, Reply.discard_of_fault?_eq_some hfault]

/-- A command goes past statements without faults. -/
theorem runCommands_append {script : Script} {before : List Text}
    (h : ∀ reply ∈ script.replies before.length, reply.fault? .command = none) :
    ∃ calls, Call.executed calls = before ∧ ∀ rest,
      runCommands script (before ++ rest) =
        (runCommands (script.drop before.length) rest).after calls [] := by
  induction before generalizing script with
  | nil => exact ⟨[], rfl, fun rest => rfl⟩
  | cons statement before ih =>
    obtain ⟨hfault, h⟩ := List.forall_mem_cons.1 h
    obtain ⟨calls, hexecuted, hrun⟩ := ih h
    refine ⟨[.execute statement, .close] ++ calls, ?_, fun rest => ?_⟩
    · rw [Call.executed_append, hexecuted]
      rfl
    · rw [List.cons_append, runCommands_step hfault, hrun rest, Report.after_after,
        List.drop_tail]
      rfl

/-! ### Queries -/

/-- Gathers results in order. -/
def gather (g : Gathered) (results : List Rows) : Option Gathered := results.foldlM Gathered.add g

theorem gather_cons (g : Gathered) (r : Rows) (results : List Rows) :
    gather g (r :: results) = (g.add r).bind fun g => gather g results := rfl

theorem add_fetched (g : Gathered) (reply : Reply) :
    g.add reply.fetched = (reply.filled?.map g.add).getD (some g) := by
  cases reply with
  | refusal fault => rfl
  | delivery d =>
    by_cases hrows : d.hasRows = true
    · by_cases hnil : d.rows = []
      · simp [Reply.fetched, Reply.filled?, hrows, hnil, Gathered.add]
      · simp [Reply.fetched, Reply.filled?, hrows, hnil]
    · simp [Reply.fetched, Reply.filled?, hrows, Gathered.add]

/-- What is read from the first reply is gathered first, even if it has no rows. -/
theorem gather_results_succ (g : Gathered) (script : Script) (count : Nat) :
    gather g (script.results (count + 1)) =
      (g.add script.next.fetched).bind fun g => gather g (Script.results script.tail count) := by
  rw [Script.results, Script.replies, add_fetched]
  cases hfilled : script.next.filled? with
  | none => rw [List.filterMap_cons_none hfilled]; rfl
  | some rows => rw [List.filterMap_cons_some hfilled, gather_cons]; rfl

theorem runQueries_step {script : Script} {g next : Gathered}
    (hfault : script.next.fault? .query = none) (hadd : g.add script.next.fetched = some next)
    (statement : Text) :
    ∃ calls, Call.executed calls = [statement] ∧ ∀ rest,
      runQueries script g (statement :: rest) =
        (runQueries script.tail next rest).after calls [] := by
  obtain ⟨reads, hreads, hfetch⟩ := Reply.fetchAll_of_fault?_eq_none hfault statement
  refine ⟨.execute statement :: (reads ++ [.close]), ?_, fun rest => ?_⟩
  · rw [Call.executed_execute_cons, Call.executed_append, Call.executed_of_isReading hreads]
    rfl
  · rw [runQueries, hfetch]
    simp only [hadd]

/-- Rows that do not fit end a query. -/
theorem runQueries_incompatible {script : Script} {g : Gathered}
    (hfault : script.next.fault? .query = none) (hadd : g.add script.next.fetched = none)
    (statement : Text) (rest : List Text) :
    ∃ calls, Call.executed calls = [statement] ∧ runQueries script g (statement :: rest) =
      ⟨.ok (Table.ofFailure incompatible), calls,
        [failureEvent queryFailed statement incompatible]⟩ := by
  obtain ⟨reads, hreads, hfetch⟩ := Reply.fetchAll_of_fault?_eq_none hfault statement
  refine ⟨.execute statement :: (reads ++ [.close]), ?_, ?_⟩
  · rw [Call.executed_execute_cons, Call.executed_append, Call.executed_of_isReading hreads]
    rfl
  · rw [runQueries, hfetch]
    simp only [hadd]

theorem runQueries_fault {script : Script} {fault : Fault}
    (hfault : script.next.fault? .query = some fault) (statement : Text) (g : Gathered)
    (rest : List Text) :
    ∃ calls, Call.executed calls = [statement] ∧ runQueries script g (statement :: rest) =
      (ofFault queryFailed statement fault Table.ofFailure).after calls [] := by
  obtain ⟨calls, hexecuted, hfetch⟩ := Reply.fetchAll_of_fault?_eq_some hfault statement
  exact ⟨calls, hexecuted, by rw [runQueries, hfetch]⟩

/-- A query goes past statements without faults whose rows it can gather. -/
theorem runQueries_append {script : Script} {g g' : Gathered} {before : List Text}
    (h : ∀ reply ∈ script.replies before.length, reply.fault? .query = none)
    (hgather : gather g (script.results before.length) = some g') :
    ∃ calls, Call.executed calls = before ∧ ∀ rest,
      runQueries script g (before ++ rest) =
        (runQueries (script.drop before.length) g' rest).after calls [] := by
  -- every statement may add to what has been gathered in front of it
  induction before generalizing script g with
  | nil =>
    obtain rfl : g = g' := by simpa [gather, Script.results, Script.replies] using hgather
    exact ⟨[], rfl, fun rest => rfl⟩
  | cons statement before ih =>
    obtain ⟨hfault, h⟩ := List.forall_mem_cons.1 h
    rw [List.length_cons, gather_results_succ] at hgather
    obtain ⟨next, hadd, hgather⟩ := Option.bind_eq_some_iff.1 hgather
    obtain ⟨first, hfirst, hstep⟩ := runQueries_step hfault hadd statement
    obtain ⟨calls, hexecuted, hrun⟩ := ih h hgather
    refine ⟨first ++ calls, ?_, fun rest => ?_⟩
    · rw [Call.executed_append, hfirst, hexecuted, List.singleton_append]
    · rw [List.cons_append, hstep, hrun rest, Report.after_after, List.drop_tail]
      rfl

/-! ### Single integers -/

theorem runScalar_fault {reply : Reply} {fault : Fault} (h : reply.fault? .scalar = some fault)
    (statement : Text) :
    ∃ name calls, Call.executed calls = [statement] ∧ runScalar reply statement =
      (ofFault name statement fault ScalarResult.ofFailure).after calls [] := by
  cases reply with
  | refusal fault' =>
    obtain rfl : fault' = fault := by simpa [Reply.fault?] using h
    exact ⟨"sql.prepare_failed".toList, [.execute statement], rfl, rfl⟩
  | delivery d =>
    cases hrows : d.hasRows with
    | false => simp [Reply.fault?, hrows] at h
    | true =>
      have hfetch : d.fetchFault = some fault := by simpa [Reply.fault?, hrows] using h
      refine ⟨"sql.step_failed".toList, [.execute statement, .fetchFirst, .close], rfl, ?_⟩
      simp only [runScalar, Reply.fetchFirst, hrows, if_true, Delivery.first, hfetch]

/-- A statement without a fault is read as its first row. -/
theorem outcome_runScalar {reply : Reply} (h : reply.fault? .scalar = none) (statement : Text) :
    (runScalar reply statement).outcome =
      (ofFirstRow statement (reply.filled?.bind fun r => r.rows.head?)).outcome := by
  cases reply with
  | refusal fault => simp [Reply.fault?] at h
  | delivery d =>
    cases hrows : d.hasRows with
    | false => simp [runScalar, Reply.fetchFirst, Reply.filled?, hrows]
    | true =>
      have hfetch : d.fetchFault = none := by simpa [Reply.fault?, hrows] using h
      have hfirst : (Reply.delivery d).filled?.bind (fun r => r.rows.head?) = d.rows.head? := by
        cases hd : d.rows with
        | nil => simp [Reply.filled?, hd]
        | cons row rows => simp [Reply.filled?, hrows, hd]
      simp [runScalar, Reply.fetchFirst, Delivery.first, hrows, hfetch, hfirst]

/-! ### Gathering -/

theorem add_of_open {g : Gathered} {r : Rows} (hopen : g.columns = []) (hrows : r.rows ≠ []) :
    g.add r = some ⟨r.columns, g.cells ++ r.columns.map some ++ Gathered.cellsOf r.rows,
      g.rowCount + r.rows.length⟩ := by
  simp [Gathered.add, hopen, hrows]

theorem add_of_header {g : Gathered} {r : Rows} (hheader : g.columns ≠ [])
    (hlength : r.columns.length = g.columns.length) :
    g.add r =
      some ⟨g.columns, g.cells ++ Gathered.cellsOf r.rows, g.rowCount + r.rows.length⟩ := by
  by_cases hrows : r.rows = []
  · simp [Gathered.add, hrows, Gathered.cellsOf]
  · simp [Gathered.add, hrows, hheader, hlength]

theorem add_eq_none {g : Gathered} {r : Rows} (hrows : r.rows ≠ []) (hheader : g.columns ≠ [])
    (hlength : r.columns.length ≠ g.columns.length) : g.add r = none := by
  simp [Gathered.add, hrows, hheader, hlength]

/-- Behind a header every result of its width adds its rows. -/
theorem gather_of_header {g : Gathered} {results : List Rows} (hheader : g.columns ≠ [])
    (hlength : ∀ r ∈ results, r.columns.length = g.columns.length) :
    gather g results = some ⟨g.columns,
      g.cells ++ Gathered.cellsOf (results.flatMap Rows.rows),
      g.rowCount + (results.flatMap Rows.rows).length⟩ := by
  induction results generalizing g with
  | nil => simp [gather, Gathered.cellsOf]
  | cons r results ih =>
    obtain ⟨hr, hresults⟩ := List.forall_mem_cons.1 hlength
    rw [gather_cons, add_of_header hheader hr, Option.bind_some, ih]
    · simp [Gathered.cellsOf, Nat.add_assoc]
    · exact hheader
    · exact hresults

/-- The first result with a column becomes the header. -/
theorem gather_cons_of_open {g : Gathered} {first : Rows} {results : List Rows}
    (hopen : g.columns = []) (hrows : first.rows ≠ []) (hcolumns : first.columns ≠ [])
    (hlength : ∀ r ∈ results, r.columns.length = first.columns.length) :
    gather g (first :: results) = some ⟨first.columns,
      g.cells ++ first.columns.map some ++
        Gathered.cellsOf ((first :: results).flatMap Rows.rows),
      g.rowCount + ((first :: results).flatMap Rows.rows).length⟩ := by
  rw [gather_cons, add_of_open hopen hrows, Option.bind_some, gather_of_header hcolumns hlength]
  simp [Gathered.cellsOf, Nat.add_assoc]

/-- Behind a header the results that are gathered are those of its width. -/
theorem exists_gather_iff_of_header {g : Gathered} {results : List Rows} (hheader : g.columns ≠ [])
    (hrows : ∀ r ∈ results, r.rows ≠ []) :
    (∃ g', gather g results = some g') ↔
      ∀ r ∈ results, r.columns.length = g.columns.length := by
  refine ⟨?_, fun hlength => ⟨_, gather_of_header hheader hlength⟩⟩
  rintro ⟨g', h⟩
  induction results generalizing g with
  | nil => simp
  | cons r results ih =>
    obtain ⟨hr, hrows⟩ := List.forall_mem_cons.1 hrows
    have hlength : r.columns.length = g.columns.length :=
      Decidable.byContradiction fun hne => by
        simp [gather_cons, add_eq_none hr hheader hne] at h
    rw [gather_cons, add_of_header hheader hlength, Option.bind_some] at h
    have hrest := ih (by exact hheader) hrows h
    exact List.forall_mem_cons.2 ⟨hlength, hrest⟩

/-- Results whose rows can be gathered in one table: all results have as many columns as the first
one with a column. Results without columns in front of that one leave the header open. -/
def Compatible (results : List Rows) : Prop :=
  let headed := results.dropWhile fun r => r.columns.isEmpty
  ∀ a ∈ headed, ∀ b ∈ headed, a.columns.length = b.columns.length

theorem compatible_cons_of_nil {r : Rows} (hcolumns : r.columns = []) (results : List Rows) :
    Compatible (r :: results) ↔ Compatible results := by
  simp [Compatible, hcolumns]

theorem compatible_cons_of_ne_nil {r : Rows} (hcolumns : r.columns ≠ []) (results : List Rows) :
    Compatible (r :: results) ↔ ∀ a ∈ results, a.columns.length = r.columns.length := by
  unfold Compatible
  rw [List.dropWhile_cons_of_neg (by simpa using hcolumns)]
  refine ⟨fun h a ha => h a (List.mem_cons_of_mem _ ha) r List.mem_cons_self, fun h => ?_⟩
  have hall : ∀ a ∈ r :: results, a.columns.length = r.columns.length :=
    List.forall_mem_cons.2 ⟨rfl, h⟩
  exact fun a ha b hb => (hall a ha).trans (hall b hb).symm

/-- The results that are gathered are the compatible ones. -/
theorem exists_gather_iff {g : Gathered} {results : List Rows} (hopen : g.columns = [])
    (hrows : ∀ r ∈ results, r.rows ≠ []) :
    (∃ g', gather g results = some g') ↔ Compatible results := by
  induction results generalizing g with
  | nil => simp [gather, Compatible]
  | cons r results ih =>
    obtain ⟨hr, hrows⟩ := List.forall_mem_cons.1 hrows
    rw [gather_cons, add_of_open hopen hr, Option.bind_some]
    by_cases hcolumns : r.columns = []
    · rw [compatible_cons_of_nil hcolumns]
      exact ih hcolumns hrows
    · rw [compatible_cons_of_ne_nil hcolumns]
      exact exists_gather_iff_of_header hcolumns hrows

end Engine

end SqliteAccess
