import Mathlib.Data.List.Forall2
import SqliteAccess.Proofs.Engine.Requests

/-!
# Diagnostics

A process loads its settings and configures its log once, and then its calls go through the same
session. The settings decide only whether a call is traced, and the threshold of the log only which
events become lines. So two processes that are called alike do the same on their connections and
give the same results, whatever their settings are, and a process that shows more has all lines of
one that shows less.

## Main definitions

* `Engine.Invocation` : one call of a process.
* `Engine.Observation` : what one call shows.
* `Engine.Observation.Agrees` : observations of a call in two processes.
* `Engine.Session.observe` : what the calls of a process show, one after the other.

## Main results

* `Engine.Session.exists_start` : a process with valid settings starts with them.
* `Engine.Session.perform_of_cached` : a call under loaded settings leaves the session as it is.
* `Engine.Session.agrees_answer` : one call in two sessions.
* `Engine.Session.observe_agrees` : two sessions that are called alike.
* `Engine.Session.observe_start` : two processes that are called alike.
-/

namespace SqliteAccess

/-! ### Lines -/

/-- A log with a lower threshold that is given more events has all lines of the other one. -/
theorem Log.written_sublist {low high : Nat} (hthreshold : low ≤ high) (time : Text)
    {events more : List Log.Event} (h : events.Sublist more) :
    (Log.written high time events).Sublist (Log.written low time more) := by
  have hreach (e : Log.Event) (he : decide (high ≤ e.level.rank) = true) :
      decide (low ≤ e.level.rank) = true :=
    decide_eq_true (Nat.le_trans hthreshold (of_decide_eq_true he))
  exact ((List.monotone_filter_right events hreach).trans (h.filter _)).map _

namespace Engine

/-- A call that is traced only if another one is has at most the trace of the other one. -/
theorem traceEvents_sublist {verbose verbose' : Bool} (h : verbose = true → verbose' = true)
    (name sql : Text) :
    (traceEvents verbose name sql).Sublist (traceEvents verbose' name sql) := by
  cases verbose with
  | false => exact List.nil_sublist _
  | true => rw [h rfl]

/-! ### Calls in a row -/

/-- One call of a process: a request with its text, on a connection that gives some replies. -/
structure Invocation where
  request : Request
  script : Script
  sql : Text

/-- What one call shows: its result or exception, the calls on its connection, and its lines. -/
structure Observation where
  outcome : Except Crash Result
  calls : List Call
  lines : List Text

/-- Observations of a call in two processes: the results and the calls on the connection are the
same, and the second process has all lines of the first one in their order, if it shows more. -/
structure Observation.Agrees (more : Prop) (first second : Observation) : Prop where
  outcome : first.outcome = second.outcome
  calls : first.calls = second.calls
  lines : more → first.lines.Sublist second.lines

namespace Session

variable {s s₁ s₂ : Session} {settings settings₁ settings₂ : Settings}

/-- What a report shows. -/
def observation (s : Session) (time : Text) (r : Report Result) : Observation :=
  ⟨r.outcome, r.calls, s.lines time r⟩

/-- What the calls of a process show, one after the other, with the same time in all lines. -/
def observe (s : Session) (time : Text) : List Invocation → List Observation
  | [] => []
  | i :: rest =>
    let (report, next) := s.perform i.request i.script i.sql
    next.observation time report :: next.observe time rest

/-- A call under loaded settings is answered, and leaves the session as it is. -/
theorem perform_of_cached (h : s.settings.cached = some settings) (request : Request)
    (script : Script) (sql : Text) :
    s.perform request script sql = (answer settings script sql request, s) := by
  rw [perform, Settings.Cache.get_of_cached h]
  rfl

theorem observe_cons (h : s.settings.cached = some settings) (time : Text) (i : Invocation)
    (rest : List Invocation) :
    s.observe time (i :: rest) =
      s.observation time (answer settings i.script i.sql i.request) :: s.observe time rest := by
  rw [observe, perform_of_cached h]

/-- What the settings decide about a call is in its lines only. -/
theorem agrees_answer (s₁ s₂ : Session) (settings₁ settings₂ : Settings) (time : Text)
    (i : Invocation) :
    Observation.Agrees
      (s₂.log.threshold ≤ s₁.log.threshold ∧
        (settings₁.verbose = true → settings₂.verbose = true))
      (s₁.observation time (answer settings₁ i.script i.sql i.request))
      (s₂.observation time (answer settings₂ i.script i.sql i.request)) := by
  rw [answer_eq, answer_eq]
  refine ⟨rfl, rfl, fun ⟨hthreshold, hverbose⟩ => Log.written_sublist hthreshold time ?_⟩
  exact (traceEvents_sublist hverbose i.request.traceName i.sql).append (List.Sublist.refl _)

/-- Two sessions that are called alike show the same in every call, up to lines. -/
theorem observe_agrees (h₁ : s₁.settings.cached = some settings₁)
    (h₂ : s₂.settings.cached = some settings₂) (time : Text) (invocations : List Invocation) :
    List.Forall₂
      (Observation.Agrees (s₂.log.threshold ≤ s₁.log.threshold ∧
        (settings₁.verbose = true → settings₂.verbose = true)))
      (s₁.observe time invocations) (s₂.observe time invocations) := by
  induction invocations with
  | nil => exact .nil
  | cons i rest ih =>
    rw [observe_cons h₁, observe_cons h₂]
    exact .cons (agrees_answer s₁ s₂ settings₁ settings₂ time i) ih

/-! ### Processes -/

/-- A process with valid settings and a valid threshold starts with these. -/
theorem exists_start {env : Environment} {level : Nat}
    (hload : Settings.load (Settings.processSources env) = .ok settings)
    (hlevel : Log.threshold settings.logLevel = .ok level) (day : Text) :
    ∃ s, start env day = .ok s ∧ s.settings.cached = some settings ∧ s.log.threshold = level := by
  refine ⟨⟨⟨env, some settings⟩, ⟨level, Log.fileOf env day⟩⟩, ?_, rfl, rfl⟩
  simp [start, Log.configure, Settings.Cache.get, hload, Log.levelName, hlevel, Except.map]

/-- **Diagnostics do not take part in what a process does.** Two processes with valid settings and
thresholds start. If they are called alike, every call has the same result or exception and does the
same on its connection, whatever the settings are. If the second process has no higher threshold and
traces its calls if the first one does, every call has in the second process all lines that it has
in the first one. -/
theorem observe_start {env₁ env₂ : Environment} {level₁ level₂ : Nat}
    (hload₁ : Settings.load (Settings.processSources env₁) = .ok settings₁)
    (hload₂ : Settings.load (Settings.processSources env₂) = .ok settings₂)
    (hlevel₁ : Log.threshold settings₁.logLevel = .ok level₁)
    (hlevel₂ : Log.threshold settings₂.logLevel = .ok level₂) (day time : Text)
    (invocations : List Invocation) :
    ∃ s₁ s₂, start env₁ day = .ok s₁ ∧ start env₂ day = .ok s₂ ∧
      List.Forall₂
        (Observation.Agrees
          (level₂ ≤ level₁ ∧ (settings₁.verbose = true → settings₂.verbose = true)))
        (s₁.observe time invocations) (s₂.observe time invocations) := by
  obtain ⟨s₁, hstart₁, hcached₁, rfl⟩ := exists_start hload₁ hlevel₁ day
  obtain ⟨s₂, hstart₂, hcached₂, rfl⟩ := exists_start hload₂ hlevel₂ day
  exact ⟨s₁, s₂, hstart₁, hstart₂, observe_agrees hcached₁ hcached₂ time invocations⟩

/-- A command that fails and a request that meets no row, in a silent process and in one that shows
everything. -/
theorem observe_start_verbose :
    let env₁ : Environment := [("LOG_LEVEL".toList, "error".toList)]
    let env₂ : Environment := [("LOG_LEVEL".toList, "DEBUG".toList),
      ("GPKG_DEBUG_VERBOSE".toList, "yes".toList), ("ENVIRONMENT".toList, "prod".toList)]
    let settings₁ : Settings := { logLevel := "error".toList }
    let settings₂ : Settings :=
      { deployment := .production, logLevel := "DEBUG".toList, verbose := true }
    let invocations : List Invocation :=
      [⟨.command, [.refusal (.driver "no such table: t".toList)], "DELETE FROM t".toList⟩,
        ⟨.scalar, [.delivery {}], "SELECT 1".toList⟩]
    Settings.load (Settings.processSources env₁) = .ok settings₁ ∧
      Settings.load (Settings.processSources env₂) = .ok settings₂ ∧
      Log.threshold settings₁.logLevel = .ok 40 ∧ Log.threshold settings₂.logLevel = .ok 10 ∧
      ∃ s₁ s₂, start env₁ [] = .ok s₁ ∧ start env₂ [] = .ok s₂ ∧
        (s₁.observe [] invocations).map (·.lines.length) = [1, 0] ∧
        (s₂.observe [] invocations).map (·.lines.length) = [2, 2] ∧
        List.Forall₂ (Observation.Agrees True) (s₁.observe [] invocations)
          (s₂.observe [] invocations) := by
  intro env₁ env₂ settings₁ settings₂ invocations
  have hload₁ : Settings.load (Settings.processSources env₁) = .ok settings₁ := rfl
  have hload₂ : Settings.load (Settings.processSources env₂) = .ok settings₂ := rfl
  have hlevel₁ : Log.threshold settings₁.logLevel = .ok 40 := rfl
  have hlevel₂ : Log.threshold settings₂.logLevel = .ok 10 := rfl
  obtain ⟨s₁, s₂, hstart₁, hstart₂, hagrees⟩ :=
    observe_start hload₁ hload₂ hlevel₁ hlevel₂ [] [] invocations
  refine ⟨hload₁, hload₂, hlevel₁, hlevel₂, s₁, s₂, hstart₁, hstart₂, ?_, ?_, ?_⟩
  · obtain rfl := Except.ok.inj hstart₁
    decide +kernel
  · obtain rfl := Except.ok.inj hstart₂
    decide +kernel
  · refine hagrees.imp fun first second h => ⟨h.outcome, h.calls, fun _ => h.lines ?_⟩
    exact ⟨by decide, fun _ => rfl⟩

end Session

end Engine

end SqliteAccess
