import Mathlib.Data.List.Infix
import SqliteAccess.Proofs.Engine.Discipline
import SqliteAccess.Proofs.Engine.Running
import SqliteAccess.Proofs.Table.Buffer

/-!
# The boundary of failures

The first fault that a request reaches ends it. A fault of the database becomes the result of the
request, with the message of the fault and one event that names the statement; any other fault ends
the request without a result. Which statements have been executed is the same in both cases: those
in front of the fault, and the one that raised it.

## Main definitions

* `Engine.FirstFault` : the first fault that a request reaches.
* `Engine.Request.Fails` : the results of a failed request.
* `Engine.Report.FailsWith` : the reports of a failed request.

## Main results

* `Engine.FirstFault.run_eq` : the run of a request that reaches a fault.
* `Engine.firstFault_iff` : the first fault is the only one among the statements that are executed.
* `Engine.Session.perform_firstFault` : the report of such a request.
-/

namespace SqliteAccess.Engine

/-- Whether a request comes as far as the statement behind `before`, given that none of the
statements in front of it raises a fault. A query stops at rows that do not fit to the others, and
a request for an integer goes no further than the first statement. -/
def Request.Reaches (script : Script) (before : List Text) : Request → Prop
  | command => True
  | query => Compatible (script.results before.length)
  | scalar => before = []

/-- The first fault that a request reaches among its statements is raised by `statement`, which
follows the statements `before`. -/
structure FirstFault (request : Request) (script : Script) (statements before : List Text)
    (statement : Text) (fault : Fault) : Prop where
  position : before ++ [statement] <+: statements
  earlier : ∀ reply ∈ script.replies before.length, reply.fault? request = none
  reached : request.Reaches script before
  raised : (Script.next (script.drop before.length)).fault? request = some fault

/-- The results of a failed request: a message, and nothing of what had been read before. -/
def Request.Fails (message : Text) : Request → Result → Prop
  | command, .command r => r.status = .failure ∧ r.message = some message
  | query, .query t => t.HoldsFailure message
  | scalar, .scalar r => r.value = 0 ∧ r.status = .failure ∧ r.message = some message
  | _, _ => False

/-- The reports of a failed request: a failure as its result, and one error event, which carries the
statement and the message. -/
structure Report.FailsWith (r : Report Result) (request : Request) (statement message : Text) :
    Prop where
  result : ∃ result, r.outcome = .ok result ∧ request.Fails message result
  event : ∃ e, r.events.filter (fun e => e.level = .error) = [e] ∧
    e.fields = [("sql".toList, .text statement), ("error".toList, .text message)]

/-- The result that a request makes of the message of a fault. -/
def Request.failure : Request → Text → Result
  | command, message => .command (.ofFailure message)
  | query, message => .query (.ofFailure message)
  | scalar, message => .scalar (.ofFailure message)

theorem Request.fails_failure (request : Request) (message : Text) :
    request.Fails message (request.failure message) := by
  cases request with
  | command => exact ⟨rfl, rfl⟩
  | query => exact Table.holdsFailure_ofFailure message
  | scalar => exact ⟨rfl, rfl, rfl⟩

/-! ### Runs up to a fault -/

/-- The run of a request that reaches a fault executes the statements up to the one that raises it,
and then reports the fault. -/
theorem FirstFault.run_eq {request : Request} {script : Script} {statements before : List Text}
    {statement : Text} {fault : Fault}
    (h : FirstFault request script statements before statement fault) (sql : Text) :
    ∃ name calls, Call.executed calls = before ++ [statement] ∧
      request.run script sql statements =
        (ofFault name statement fault request.failure).after calls [] := by
  obtain ⟨⟨after, rfl⟩, hearlier, hreached, hraised⟩ := h
  rw [List.append_assoc, List.singleton_append]
  cases request with
  | command =>
    obtain ⟨calls, hexecuted, hrun⟩ := runCommands_append hearlier
    refine ⟨"sql.exec_failed".toList, calls ++ [.execute statement], ?_, ?_⟩
    · rw [Call.executed_append, hexecuted]
      rfl
    · rw [Request.run, hrun, runCommands_fault hraised statement, Report.after_after]
      exact congrArg (Report.after _ _) (map_ofFault _ _ _ _ _)
  | query =>
    obtain ⟨g, hgather⟩ := (exists_gather_iff (g := {}) rfl fun _ hr =>
      Script.rows_ne_nil_of_mem_results hr).2 hreached
    obtain ⟨calls, hexecuted, hrun⟩ := runQueries_append hearlier hgather
    obtain ⟨last, hlast, hfault⟩ := runQueries_fault hraised statement g after
    refine ⟨queryFailed, calls ++ last, ?_, ?_⟩
    · rw [Call.executed_append, hexecuted, hlast]
    · rw [Request.run, hrun, hfault, Report.after_after]
      exact congrArg (Report.after _ _) (map_ofFault _ _ _ _ _)
  | scalar =>
    obtain rfl : before = [] := hreached
    obtain ⟨name, calls, hexecuted, hfault⟩ := runScalar_fault hraised statement
    refine ⟨name, calls, hexecuted, ?_⟩
    rw [List.nil_append, Request.run, runFirst]
    exact (congrArg (Report.map _) hfault).trans (congrArg (Report.after _ _)
      (map_ofFault _ _ _ _ _))

/-! ### Faults that are reached -/

/-- A command that comes to a further statement has met no fault. -/
theorem fault?_eq_none_of_executed_runCommands {script : Script} {statements before : List Text}
    {statement : Text}
    (h : before ++ [statement] <+: Call.executed (runCommands script statements).calls) :
    ∀ reply ∈ script.replies before.length, reply.fault? .command = none := by
  induction before generalizing script statements with
  | nil => exact fun _ hreply => nomatch hreply
  | cons first before ih =>
    cases statements with
    | nil => simp [runCommands, Call.executed] at h
    | cons head rest =>
      cases hfault : script.next.fault? .command with
      | some fault =>
        rw [runCommands_fault hfault] at h
        simpa [Call.executed] using h.length_le
      | none =>
        rw [runCommands_step hfault, Report.calls_after, Call.executed_append] at h
        exact List.forall_mem_cons.2 ⟨hfault, ih (List.cons_prefix_cons.1 h).2⟩

/-- A query that comes to a further statement has met no fault and has gathered all results. -/
theorem gather_of_executed_runQueries {script : Script} {g : Gathered}
    {statements before : List Text} {statement : Text}
    (h : before ++ [statement] <+: Call.executed (runQueries script g statements).calls) :
    (∀ reply ∈ script.replies before.length, reply.fault? .query = none) ∧
      ∃ g', gather g (script.results before.length) = some g' := by
  induction before generalizing script g statements with
  | nil => exact ⟨fun _ hreply => (nomatch hreply), g, rfl⟩
  | cons first before ih =>
    cases statements with
    | nil => simp [runQueries, Call.executed] at h
    | cons head rest =>
      -- a fault and a misfit end the run, so that there is no further statement
      cases hfault : script.next.fault? .query with
      | some fault =>
        obtain ⟨calls, hexecuted, hrun⟩ := runQueries_fault hfault head g rest
        rw [hrun, Report.calls_after, calls_ofFault, List.append_nil, hexecuted] at h
        simpa using h.length_le
      | none =>
        cases hadd : g.add script.next.fetched with
        | none =>
          obtain ⟨calls, hexecuted, hrun⟩ := runQueries_incompatible hfault hadd head rest
          rw [hrun, hexecuted] at h
          simpa using h.length_le
        | some next =>
          obtain ⟨calls, hexecuted, hrun⟩ := runQueries_step hfault hadd head
          rw [hrun, Report.calls_after, Call.executed_append, hexecuted] at h
          obtain ⟨hearlier, hgather⟩ := ih (List.cons_prefix_cons.1 h).2
          rw [List.length_cons, gather_results_succ, hadd]
          exact ⟨List.forall_mem_cons.2 ⟨hfault, hearlier⟩, hgather⟩

/-- The first fault that a request reaches is the fault of a statement that it executes. -/
theorem firstFault_iff {request : Request} {script : Script} {statements before : List Text}
    {statement : Text} {fault : Fault} (sql : Text) :
    FirstFault request script statements before statement fault ↔
      before ++ [statement] <+: Call.executed (request.run script sql statements).calls ∧
        (Script.next (script.drop before.length)).fault? request = some fault := by
  refine ⟨fun h => ?_, fun ⟨hexecuted, hraised⟩ => ?_⟩
  · obtain ⟨name, calls, hexecuted, hrun⟩ := h.run_eq sql
    rw [hrun, Report.calls_after, calls_ofFault, List.append_nil, hexecuted]
    exact ⟨List.prefix_rfl, h.raised⟩
  · cases request with
    | command =>
      have hearlier := fault?_eq_none_of_executed_runCommands hexecuted
      exact ⟨hexecuted.trans (follow_runCommands script statements).executed, hearlier, trivial,
        hraised⟩
    | query =>
      obtain ⟨hearlier, hgather⟩ := gather_of_executed_runQueries hexecuted
      have hcompatible : Compatible (script.results before.length) :=
        (exists_gather_iff rfl fun _ hr => Script.rows_ne_nil_of_mem_results hr).1 hgather
      exact ⟨hexecuted.trans (follow_runQueries script {} statements).executed, hearlier,
        hcompatible, hraised⟩
    | scalar =>
      have hfollow := (follow_runFirst script sql statements).executed
      have hposition := hexecuted.trans hfollow
      obtain rfl : before = [] := by
        have hlength := Nat.le_trans hposition.length_le (List.length_take_le 1 statements)
        simpa using hlength
      exact ⟨hposition.trans (List.take_prefix 1 statements), fun _ hreply => (nomatch hreply), rfl,
        hraised⟩

/-! ### Reports of faults -/

/-- A fault of the database is reported as a failure with its message. -/
theorem failsWith_of_faultMessage {request : Request} {statement message : Text} {fault : Fault}
    (h : faultMessage statement fault = .ok message) (name : Text) (calls : List Call)
    (verbose : Bool) (trace sql : Text) :
    (((ofFault name statement fault request.failure).after calls []).after []
      (traceEvents verbose trace sql)).FailsWith request statement message where
  result := ⟨request.failure message, by simp [ofFault, h], request.fails_failure message⟩
  event := by
    refine ⟨failureEvent name statement message, ?_, rfl⟩
    simp only [Report.events_after, List.nil_append, List.filter_append, filter_traceEvents,
      ofFault, h]
    rfl

/-- **The first fault ends a request.** What has been executed are the statements up to the one that
raises it, each once and in order. A fault of the database becomes a failure with the words of the
driver, if there are any, and one error event about the statement; every other fault ends the
request as it is. -/
theorem Session.perform_firstFault {s : Session} {settings : Settings} {sql : Text}
    {statements before : List Text} {request : Request} {script : Script} {statement : Text}
    {fault : Fault} (hsettings : s.settings.get.result = .ok settings)
    (hsplit : Statement.split sql = .ok statements)
    (h : FirstFault request script statements before statement fault) :
    Call.executed (s.perform request script sql).1.calls = before ++ [statement] ∧
      match fault with
      | .driver words =>
        (s.perform request script sql).1.FailsWith request statement words
      | .wordless =>
        (s.perform request script sql).1.FailsWith request statement
          (Fault.wordlessMessage statement)
      | .library words =>
        (s.perform request script sql).1.FailsWith request statement words
      | .foreign words => (s.perform request script sql).1.outcome = .error (.foreign words) := by
  obtain ⟨name, calls, hexecuted, hrun⟩ := h.run_eq sql
  rw [perform_of_split hsettings hsplit, hrun]
  refine ⟨?_, ?_⟩
  · simpa using hexecuted
  · cases fault with
    | driver words => exact failsWith_of_faultMessage rfl name calls _ _ _
    | wordless => exact failsWith_of_faultMessage rfl name calls _ _ _
    | library words => exact failsWith_of_faultMessage rfl name calls _ _ _
    | foreign words => rfl

/-- The second of three statements raises a fault when its rows are fetched. The row of the first
one is not in the result. -/
theorem Session.perform_firstFault_fetch :
    let s : Session := ⟨⟨[], some {}⟩, ⟨20, none⟩⟩
    let script : Script :=
      [.delivery { hasRows := true, columns := ["a".toList], rows := [[.integer 1]] },
        .delivery { hasRows := true, columns := ["a".toList, "b".toList],
                    fetchFault := some (.driver "disk I/O error".toList) }]
    let statements :=
      ["SELECT a FROM t;".toList, "SELECT * FROM u;".toList, "SELECT 3".toList]
    let report := (s.perform .query script "SELECT a FROM t; SELECT * FROM u; SELECT 3".toList).1
    FirstFault .query script statements ["SELECT a FROM t;".toList] "SELECT * FROM u;".toList
        (.driver "disk I/O error".toList) ∧
      Call.executed report.calls = ["SELECT a FROM t;".toList, "SELECT * FROM u;".toList] ∧
      report.FailsWith .query "SELECT * FROM u;".toList "disk I/O error".toList := by
  intro s script statements report
  have hfirst : FirstFault .query script statements ["SELECT a FROM t;".toList]
      "SELECT * FROM u;".toList (.driver "disk I/O error".toList) := by
    refine ⟨by decide, fun reply hreply => ?_, ?_, rfl⟩
    · obtain rfl : reply = script.next := by simpa [Script.replies] using hreply
      rfl
    · simp [Request.Reaches, Compatible, script, Script.results, Script.replies, Script.next,
        Reply.filled?]
  have hsplit : Statement.split "SELECT a FROM t; SELECT * FROM u; SELECT 3".toList =
      .ok statements := by decide +kernel
  exact ⟨hfirst, Session.perform_firstFault rfl hsplit hfirst⟩

end SqliteAccess.Engine

