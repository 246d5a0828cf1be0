import SqliteAccess.Engine.Session

/-!
# Requests in a session

Every request starts with the settings and the statements of its text. If the settings cannot be
loaded or the text cannot be split, nothing is done on the connection. Otherwise the request runs
the statements, and its report is that of the run behind the trace of the request.

## Main definitions

* `Engine.Request.run` : the run of a request on given statements.

## Main results

* `Engine.Session.perform_of_split` : the report of a request is that of its run.
* `Engine.Session.calls_eq_nil` : a request without settings or statements makes no call.
-/

namespace SqliteAccess.Engine

namespace Report

variable {α β : Type}

@[simp]
theorem outcome_after (calls : List Call) (events : List Log.Event) (r : Report α) :
    (r.after calls events).outcome = r.outcome := rfl

@[simp]
theorem calls_after (calls : List Call) (events : List Log.Event) (r : Report α) :
    (r.after calls events).calls = calls ++ r.calls := rfl

@[simp]
theorem events_after (calls : List Call) (events : List Log.Event) (r : Report α) :
    (r.after calls events).events = events ++ r.events := rfl

@[simp]
theorem map_after (f : α → β) (calls : List Call) (events : List Log.Event) (r : Report α) :
    (r.after calls events).map f = (r.map f).after calls events := rfl

theorem after_nil (r : Report α) : r.after [] [] = r := rfl

theorem after_after (calls calls' : List Call) (events events' : List Log.Event) (r : Report α) :
    (r.after calls' events').after calls events =
      r.after (calls ++ calls') (events ++ events') := by
  simp [after]

@[simp]
theorem outcome_map (f : α → β) (r : Report α) : (r.map f).outcome = r.outcome.map f := rfl

@[simp]
theorem calls_map (f : α → β) (r : Report α) : (r.map f).calls = r.calls := rfl

end Report

section Fault

variable {α β : Type} (event statement : Text) (fault : Fault) (result : Text → α)

/-- The report of a fault makes no call of its own. -/
@[simp]
theorem calls_ofFault : (ofFault event statement fault result).calls = [] := by
  unfold ofFault
  cases faultMessage statement fault <;> rfl

theorem map_ofFault (f : α → β) :
    (ofFault event statement fault result).map f =
      ofFault event statement fault fun message => f (result message) := by
  unfold ofFault
  cases faultMessage statement fault <;> rfl

end Fault

/-- Runs the first statement of a script, if there is one. -/
def runFirst (script : Script) (sql : Text) : List Text → Report ScalarResult
  | [] => ⟨.ok .noRow, [], [noRowEvent sql]⟩
  | statement :: _ => runScalar script.next statement

namespace Request

/-- The name of the trace of a request. -/
def traceName : Request → Text
  | command => "sql.exec".toList
  | query => "sql.get_table".toList
  | scalar => "sql.get".toList

/-- The run of a request on the statements of its text. -/
def run (script : Script) (sql : Text) (statements : List Text) : Request → Report Result
  | command => (runCommands script statements).map .command
  | query => (runQueries script {} statements).map .query
  | scalar => (runFirst script sql statements).map .scalar

end Request

/-- The report of a request under given settings is the trace of the request and the run of its
statements. -/
theorem answer_eq (settings : Settings) (script : Script) (sql : Text) (request : Request) :
    answer settings script sql request =
      (withStatements sql fun statements => request.run script sql statements).after []
        (traceEvents settings.verbose request.traceName sql) := by
  cases request <;>
    · simp only [answer, command, query, scalar, withStatements]
      cases Statement.split sql with
      | error => rfl
      | ok statements => cases statements <;> rfl

namespace Session

variable {s : Session} {settings : Settings} {sql : Text}

/-- Settings that can be loaded are loaded without a word. -/
theorem events_get_of_ok (h : s.settings.get.result = .ok settings) :
    s.settings.get.events = [] := by
  unfold Settings.Cache.get at h ⊢
  split at h
  · rfl
  · split at h
    · rfl
    · simp at h

/-- The report of a request is that of its run, behind the trace of the request. -/
theorem perform_of_split {statements : List Text} (hsettings : s.settings.get.result = .ok settings)
    (hsplit : Statement.split sql = .ok statements) (request : Request) (script : Script) :
    (s.perform request script sql).1 =
      (request.run script sql statements).after []
        (traceEvents settings.verbose request.traceName sql) := by
  simp only [perform, hsettings, events_get_of_ok hsettings, Report.after_nil, answer_eq,
    withStatements, hsplit]

/-- Without a trace the report of a request is that of its run. -/
theorem perform_of_split_of_silent {statements : List Text}
    (hsettings : s.settings.get.result = .ok settings) (hverbose : settings.verbose = false)
    (hsplit : Statement.split sql = .ok statements) (request : Request) (script : Script) :
    (s.perform request script sql).1 = request.run script sql statements := by
  rw [perform_of_split hsettings hsplit, hverbose]
  rfl

/-- The report of a request on a text that cannot be split. -/
theorem perform_of_split_eq_error {error : Statement.Error}
    (hsettings : s.settings.get.result = .ok settings) (hsplit : Statement.split sql = .error error)
    (request : Request) (script : Script) :
    (s.perform request script sql).1 =
      ⟨.error (.script error), [], traceEvents settings.verbose request.traceName sql⟩ := by
  simp [perform, hsettings, events_get_of_ok hsettings, answer_eq, withStatements, hsplit,
    Report.after]

/-- Without settings or statements nothing is done on the connection. -/
theorem calls_eq_nil (request : Request) (script : Script)
    (h : ∀ settings statements, s.settings.get.result = .ok settings →
      Statement.split sql ≠ .ok statements) : (s.perform request script sql).1.calls = [] := by
  cases hsettings : s.settings.get.result with
  | error issues => simp [perform, hsettings]
  | ok settings =>
    cases hsplit : Statement.split sql with
    | error error => rw [perform_of_split_eq_error hsettings hsplit]
    | ok statements => exact absurd hsplit (h settings statements hsettings)

end Session

/-- The trace of a request is no error. -/
theorem filter_traceEvents (verbose : Bool) (name sql : Text) :
    (traceEvents verbose name sql).filter (fun e => e.level = .error) = [] := by
  cases verbose <;> rfl

end SqliteAccess.Engine
