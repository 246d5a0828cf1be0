import SqliteAccess.Engine.Running
import SqliteAccess.Log.Configuration

/-!
# Engine sessions

A session is a process that has configured its log and then calls the engine. Every call starts
with the settings of the process. If they cannot be loaded, the call ends before anything is done
on its connection.

## Main definitions

* `Engine.Request` : what is asked of the engine.
* `Engine.Result` : what it answers.
* `Engine.Session` : the settings and the log of a process.
* `Engine.Session.perform` : one request.
-/

namespace SqliteAccess.Engine

/-- What is asked of the engine. -/
inductive Request
  | command
  | query
  | scalar
  deriving DecidableEq

/-- What the engine answers. -/
inductive Result
  | command (result : CommandResult)
  | query (table : Table)
  | scalar (result : ScalarResult)

/-- The report of a request under given settings. -/
def answer (settings : Settings) (script : Script) (sql : Text) : Request → Report Result
  | .command => (command settings.verbose script sql).map .command
  | .query => (query settings.verbose script sql).map .query
  | .scalar => (scalar settings.verbose script sql).map .scalar

/-- The settings and the log of a process. -/
structure Session where
  settings : Settings.Cache
  log : Log.Configuration

namespace Session

/-- A process with an environment and no settings, which configures its log first. -/
def start (env : Environment) (day : Text) : Except Log.ThresholdError Session :=
  let (log, settings) := Log.configure ⟨env, none⟩ day
  log.map fun log => ⟨settings, log⟩

/-- Sets variables of the environment. -/
def set (s : Session) (assignments : Environment) : Session :=
  { s with settings := s.settings.set assignments }

/-- Forgets the loaded settings. -/
def clear (s : Session) : Session := { s with settings := s.settings.clear }

/-- One request on a connection of its own. -/
def perform (s : Session) (request : Request) (script : Script) (sql : Text) :
    Report Result × Session :=
  let reading := s.settings.get
  let report := match reading.result with
    | .ok settings => answer settings script sql request
    | .error issues => ⟨.error (.settings issues), [], []⟩
  (report.after [] reading.events, { s with settings := reading.cache })

/-- The lines that a report writes to the log. -/
def lines {α : Type} (s : Session) (time : Text) (r : Report α) : List Text :=
  s.log.lines time r.events

end Session

end SqliteAccess.Engine
