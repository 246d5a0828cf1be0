import SqliteAccess.Proofs.Engine.Diagnostics
import SqliteAccess.Proofs.Settings.Disclosing

/-!
# Which settings a call has

The environment of a process may change at any time, and the settings may be forgotten at any time.
What a call has of this is told by a history: the environment, and the environments in which the
settings were asked for since they were last forgotten. The start of a process is such a moment,
because the log is configured there. The settings of a process are always those of the first
environment of its history that gives valid ones.

So a call under an invalid environment is refused only if no earlier environment of the history was
valid. It adds an environment to the history that gives no settings, and nothing that happens later
depends on it.

## Main definitions

* `Environment.Change` : a change of an environment.
* `Settings.Cache.Step` : what happens to cached settings.
* `Settings.History` : the environments that count.
* `Settings.firstLoaded?` : the settings of the first environment that gives valid ones.
* `Engine.Step` : what happens to a process.

## Main results

* `Settings.firstLoaded?_eq_some_iff` : what the first valid environment of a list is.
* `Settings.Cache.Reflects.run` : cached settings are those of their history.
* `Engine.Session.run_refused` : a refused call is without consequences.
* `Engine.Session.settings_of_call` : the settings of every call of a process.
-/

namespace SqliteAccess

/-- A change of an environment. -/
inductive Environment.Change
  | set (assignments : Environment)
  | unset (names : List Text)

/-- The environment after a change. -/
def Environment.apply (env : Environment) : Change → Environment
  | .set assignments => env.setAll assignments
  | .unset names => names.foldl Environment.unset env

namespace Settings

/-- The settings that an environment gives, if they are valid. -/
def loaded? (env : Environment) : Option Settings := (load (processSources env)).toOption

/-- The settings of the first environment that gives valid ones. -/
def firstLoaded? (environments : List Environment) : Option Settings :=
  environments.findSome? loaded?

/-- What counts of the past of cached settings. -/
structure History where
  environment : Environment
  /-- The environments in which the settings were asked for since they were last forgotten. -/
  asked : List Environment := []

/-- The environments that decide about the settings of a request: those in which the settings were
asked for before, and the present one. -/
def History.consulted (h : History) : List Environment := h.asked ++ [h.environment]

namespace Cache

/-- What happens to cached settings. -/
inductive Step
  | change (change : Environment.Change)
  | clear
  /-- The settings are asked for. -/
  | get

/-- Changes the environment. -/
def change (c : Cache) : Environment.Change → Cache
  | .set assignments => c.set assignments
  | .unset names => c.unset names

/-- The cache after a step. -/
def step (c : Cache) : Step → Cache
  | .change change => c.change change
  | .clear => c.clear
  | .get => c.get.cache

end Cache

/-- The history after a step. -/
def History.step (h : History) : Cache.Step → History
  | .change change => { h with environment := h.environment.apply change }
  | .clear => { h with asked := [] }
  | .get => { h with asked := h.consulted }

/-- The cache after a history: its environment, and the settings of the first valid environment in
which they were asked for. -/
def History.cache (h : History) : Cache := ⟨h.environment, firstLoaded? h.asked⟩

/-! ### The first valid environment -/

theorem loaded?_eq_some_iff {env : Environment} {settings : Settings} :
    loaded? env = some settings ↔ load (processSources env) = .ok settings := by
  rw [loaded?]
  cases load (processSources env) <;> simp [Except.toOption]

theorem loaded?_eq_none_iff {env : Environment} :
    loaded? env = none ↔ IsRefused (processSources env) := by
  rw [loaded?, IsRefused]
  cases load (processSources env) <;> simp [Except.toOption]

/-- The first valid environment of a list: all environments in front of it are refused. -/
theorem firstLoaded?_eq_some_iff {environments : List Environment} {settings : Settings} :
    firstLoaded? environments = some settings ↔
      ∃ before env after, environments = before ++ env :: after ∧
        load (processSources env) = .ok settings ∧
          ∀ e ∈ before, IsRefused (processSources e) := by
  simp only [firstLoaded?, List.findSome?_eq_some_iff, loaded?_eq_some_iff, loaded?_eq_none_iff]

theorem firstLoaded?_concat (environments : List Environment) (env : Environment) :
    firstLoaded? (environments ++ [env]) = (firstLoaded? environments).or (loaded? env) := by
  rw [firstLoaded?, List.findSome?_append, List.findSome?_singleton]
  rfl

/-! ### Cached settings and their history -/

namespace Cache

theorem change_eq (c : Cache) (change : Environment.Change) :
    c.change change = { c with environment := c.environment.apply change } := by
  cases change <;> rfl

/-- Settings that are asked for are loaded if there are none. -/
theorem cache_get (c : Cache) :
    c.get.cache = { c with cached := c.cached.or (loaded? c.environment) } := by
  obtain ⟨env, cached⟩ := c
  cases cached with
  | some settings => rfl
  | none =>
    rw [Option.none_or, loaded?]
    cases hload : load (processSources env) <;> simp [get, hload, Except.toOption]

/-- The settings that are found are those that are cached then. -/
theorem result_get_eq_ok_iff {c : Cache} {settings : Settings} :
    c.get.result = .ok settings ↔ c.get.cache.cached = some settings := by
  cases hcached : c.cached with
  | some kept => simp [get_of_cached hcached, hcached]
  | none =>
    cases hload : load (processSources c.environment) <;> simp [get, hcached, hload]

end Cache

namespace History

/-- Asking for the settings finds those of the first valid environment that is consulted. -/
theorem cache_get (h : History) :
    h.cache.get.cache = ⟨h.environment, firstLoaded? h.consulted⟩ := by
  rw [Cache.cache_get, consulted, firstLoaded?_concat]
  rfl

/-- The cache of a history goes on to be that of its history. -/
theorem step_cache (h : History) (s : Cache.Step) : h.cache.step s = (h.step s).cache := by
  cases s with
  | change change => exact Cache.change_eq h.cache change
  | clear => rfl
  | get => exact cache_get h

theorem run_cache (h : History) (steps : List Cache.Step) :
    steps.foldl Cache.step h.cache = (steps.foldl step h).cache := by
  induction steps generalizing h with
  | nil => rfl
  | cons s steps ih => rw [List.foldl_cons, step_cache, ih, List.foldl_cons]

end History

end Settings

namespace Engine

open Settings

/-- What happens to a process after its start. -/
inductive Step
  | settings (step : Cache.Step)
  | call (invocation : Invocation)

namespace Step

/-- What a step does to the cached settings: a call asks for them. -/
def onSettings : Step → Cache.Step
  | settings step => step
  | call _ => .get

/-- A change of the environment of a process. -/
def change (change : Environment.Change) : Step := settings (.change change)

end Step

/-- The history of a process that was started in an environment, after some steps. -/
def history (env : Environment) (steps : List Step) : History :=
  (steps.map Step.onSettings).foldl History.step ⟨env, [env]⟩

namespace Session

variable {s : Session} {settings : Settings}

/-- One call of a process. -/
def invoke (s : Session) (i : Invocation) : Report Result × Session :=
  s.perform i.request i.script i.sql

/-- The session after a step. -/
def step (s : Session) : Step → Session
  | .settings step => { s with settings := s.settings.step step }
  | .call i => (s.invoke i).2

/-- The session after some steps. -/
def run (s : Session) (steps : List Step) : Session := steps.foldl step s

/-! ### Calls -/

theorem settings_step (s : Session) (step : Step) :
    (s.step step).settings = s.settings.step step.onSettings := by
  cases step <;> rfl

theorem settings_run (s : Session) (steps : List Step) :
    (s.run steps).settings = (steps.map Step.onSettings).foldl Cache.step s.settings := by
  induction steps generalizing s with
  | nil => rfl
  | cons step steps ih =>
    rw [List.map_cons, List.foldl_cons, ← settings_step]
    exact ih (s.step step)

/-- A call has the settings that are cached after it. -/
theorem fst_invoke (h : s.settings.get.cache.cached = some settings) (i : Invocation) :
    (s.invoke i).1 = answer settings i.script i.sql i.request := by
  have hresult := Cache.result_get_eq_ok_iff.2 h
  simp only [invoke, perform, hresult, events_get_of_ok hresult, Report.after_nil]

/-- A call without settings is refused before it makes a connection call, and leaves the session
as it is. -/
theorem invoke_refused (hcached : s.settings.cached = none) {issues : List Issue}
    (hload : load (processSources s.settings.environment) = .error issues) (i : Invocation) :
    s.invoke i = (⟨.error (.settings issues), [], loadEvents (.error issues)⟩, s) := by
  obtain ⟨⟨env, cached⟩, log⟩ := s
  obtain rfl : cached = none := hcached
  obtain ⟨_, hissues, hperform⟩ := perform_of_refused ⟨issues, hload⟩ log i.request i.script i.sql
  rw [invoke, hperform, hissues]
  rw [hload] at hissues
  rw [Except.error.inj hissues]

/-! ### Processes -/

/-- The start asks for the settings once, and the process goes on with what was found. -/
theorem settings_start {env : Environment} {day : Text} (hstart : start env day = .ok s) :
    s.settings = History.cache ⟨env, [env]⟩ := by
  have hcache : (Cache.mk env none).get.cache = History.cache ⟨env, [env]⟩ :=
    History.step_cache ⟨env, []⟩ .get
  simp only [start, Log.configure] at hstart
  cases hlevel : Log.threshold (Log.levelName env (Cache.mk env none).get.result) with
  | error error => simp [hlevel, Except.map] at hstart
  | ok level =>
    simp only [hlevel, Except.map, Except.ok.injEq] at hstart
    rw [← hstart, ← hcache]

/-- The settings of a process are those of its history. -/
theorem settings_run_start {env : Environment} {day : Text} (hstart : start env day = .ok s)
    (steps : List Step) : (s.run steps).settings = (history env steps).cache := by
  rw [settings_run, settings_start hstart, History.run_cache, history]

theorem run_append (s : Session) (steps later : List Step) :
    s.run (steps ++ later) = (s.run steps).run later := List.foldl_append

/-- A refused call is without consequences: whatever happens later happens as without it. -/
theorem run_refused {steps : List Step} (hcached : (s.run steps).settings.cached = none)
    {issues : List Issue}
    (hload : load (processSources (s.run steps).settings.environment) = .error issues)
    (i : Invocation) (later : List Step) :
    s.run (steps ++ .call i :: later) = s.run (steps ++ later) := by
  have hcall : (s.run steps).step (.call i) = s.run steps := by
    rw [step, invoke_refused hcached hload]
  rw [run_append, run_append, run, List.foldl_cons, hcall]
  rfl

/-- Changes of the environment leave what was asked for as it is. -/
theorem history_append_changes (env : Environment) (steps : List Step)
    (changes : List Environment.Change) :
    history env (steps ++ changes.map .change) =
      ⟨changes.foldl Environment.apply (history env steps).environment,
        (history env steps).asked⟩ := by
  rw [history, List.map_append, List.foldl_append, ← history]
  generalize history env steps = h
  induction changes generalizing h with
  | nil => rfl
  | cons change changes ih => exact ih (h.step (.change change))

/-- **The settings of every call.** Whatever has happened to a process since its start, a call has
the settings of the first valid environment among those in which the settings were asked for since
they were last forgotten, the start and the call itself included. A call that finds no settings
cached and an invalid environment is refused without a connection call. It leaves the process as it
was, so that everything later happens as without it, and the next call after a repair of the
environment has the settings of the repaired environment. -/
theorem settings_of_call {env : Environment} {day : Text} (hstart : start env day = .ok s)
    (steps : List Step) :
    let now := s.run steps
    let h := history env steps
    now.settings = ⟨h.environment, firstLoaded? h.asked⟩ ∧
      (∀ before valid after settings, h.consulted = before ++ valid :: after →
        (∀ e ∈ before, IsRefused (processSources e)) →
          load (processSources valid) = .ok settings → ∀ i : Invocation,
            (now.invoke i).1 = answer settings i.script i.sql i.request ∧
              (now.invoke i).2.settings = ⟨h.environment, some settings⟩) ∧
      ∀ issues, now.settings.cached = none →
        load (processSources now.settings.environment) = .error issues → ∀ i : Invocation,
          now.invoke i = (⟨.error (.settings issues), [], loadEvents (.error issues)⟩, now) ∧
          (∀ later, s.run (steps ++ .call i :: later) = s.run (steps ++ later)) ∧
          ∀ (changes : List Environment.Change) (settings : Settings),
            load (processSources (changes.foldl Environment.apply h.environment)) = .ok settings →
              ∀ i' : Invocation,
                ((s.run (steps ++ .call i :: changes.map .change)).invoke i').1 =
                  answer settings i'.script i'.sql i'.request := by
  intro now h
  have hnow : now.settings = h.cache := settings_run_start hstart steps
  refine ⟨hnow, fun before valid after settings hconsulted hbefore hvalid i => ?_,
    fun issues hcached hload i => ⟨?_, ?_, ?_⟩⟩
  · have hafter : now.settings.get.cache = ⟨h.environment, some settings⟩ := by
      rw [hnow, History.cache_get,
        firstLoaded?_eq_some_iff.2 ⟨before, valid, after, hconsulted, hvalid, hbefore⟩]
    exact ⟨fst_invoke (congrArg Cache.cached hafter) i, hafter⟩
  · exact invoke_refused hcached hload i
  · exact run_refused hcached hload i
  · intro changes settings hrepaired i'
    have hnone : firstLoaded? h.asked = none := by rwa [hnow] at hcached
    have hfirst : firstLoaded? (history env (steps ++ changes.map .change)).consulted =
        some settings := by
      rw [history_append_changes, History.consulted, firstLoaded?_concat, hnone, Option.none_or,
        loaded?_eq_some_iff]
      exact hrepaired
    rw [run_refused hcached hload]
    refine fst_invoke ?_ i'
    rw [settings_run_start hstart, History.cache_get, hfirst]

/-- A process that starts under an invalid environment: a call is refused, the next one has the
settings of the repaired environment, a later change has no effect before the settings are
forgotten. -/
theorem settings_of_call_repaired :
    let env : Environment := [("DATABASE_URL".toList, "postgresql://localhost/roads".toList)]
    let i : Invocation := ⟨.command, [.delivery {}], "DELETE FROM t".toList⟩
    let repair : Environment.Change := .set [("DATABASE_URL".toList, "roads.gpkg".toList),
      ("GPKG_DEBUG_VERBOSE".toList, "1".toList)]
    let silence : Environment.Change := .unset ["GPKG_DEBUG_VERBOSE".toList]
    let settings : Settings := { database := "roads.gpkg".toList, verbose := true }
    let silent : Settings := { database := "roads.gpkg".toList }
    ∃ s issues, start env [] = .ok s ∧
      s.invoke i = (⟨.error (.settings issues), [], loadEvents (.error issues)⟩, s) ∧
      ((s.run [.call i, .change repair]).invoke i).1 =
        answer settings i.script i.sql i.request ∧
      ((s.run [.call i, .change repair, .call i, .change silence]).invoke i).1 =
        answer settings i.script i.sql i.request ∧
      ((s.run [.call i, .change repair, .call i, .change silence,
          .settings .clear]).invoke i).1 =
        answer silent i.script i.sql i.request := by
  intro env i repair silence settings silent
  have hstart : start env [] = .ok ⟨⟨env, none⟩, ⟨20, none⟩⟩ := rfl
  obtain ⟨-, -, hrefused⟩ := settings_of_call hstart []
  obtain ⟨hcall, -, hrepaired⟩ := hrefused _ rfl rfl i
  obtain ⟨-, hkept, -⟩ :=
    settings_of_call hstart [.call i, .change repair, .call i, .change silence]
  obtain ⟨-, hforgotten, -⟩ :=
    settings_of_call hstart [.call i, .change repair, .call i, .change silence, .settings .clear]
  have hstarted : IsRefused (processSources env) := ⟨_, rfl⟩
  have hasked : ∀ e ∈ [env, env], IsRefused (processSources e) :=
    List.forall_mem_cons.2 ⟨hstarted, List.forall_mem_singleton.2 hstarted⟩
  exact ⟨_, _, hstart, hcall, hrepaired [repair] settings rfl i,
    (hkept [env, env] _ _ settings rfl hasked rfl i).1,
    (hforgotten [] _ _ silent rfl (List.forall_mem_nil _) rfl i).1⟩

end Session

end Engine

end SqliteAccess
