import SqliteAccess.Settings.Source

/-!
# Cached settings

The settings of a process are loaded when they are first asked for and kept from then on, whatever
happens to the environment, until they are cleared. A failing load keeps nothing, so that the next
request loads again.

## Main definitions

* `Settings.Cache` : an environment with the settings that were loaded from it.
* `Settings.Cache.get` : the settings, loaded if necessary.
-/

namespace SqliteAccess.Settings

/-- An environment with the settings that were loaded from it. -/
structure Cache where
  environment : Environment := []
  cached : Option Settings := none

namespace Cache

/-- Sets variables of the environment. -/
def set (c : Cache) (assignments : Environment) : Cache :=
  { c with environment := c.environment.setAll assignments }

/-- Removes variables of the environment. -/
def unset (c : Cache) (names : List Text) : Cache :=
  { c with environment := names.foldl Environment.unset c.environment }

/-- Forgets the loaded settings. -/
def clear (c : Cache) : Cache := { c with cached := none }

/-- What an attempt to load the settings yields. -/
structure Reading where
  result : Except (List Issue) Settings
  /-- What is logged by the attempt. -/
  events : List Log.Event
  /-- The state afterwards. -/
  cache : Cache

/-- The settings, loaded if necessary. -/
def get (c : Cache) : Reading :=
  match c.cached with
  | some s => ⟨.ok s, [], c⟩
  | none =>
    match load (processSources c.environment) with
    | .ok s => ⟨.ok s, [], { c with cached := some s }⟩
    | .error issues => ⟨.error issues, loadEvents (.error issues), c⟩

/-- Loaded settings answer every request. -/
theorem get_of_cached {c : Cache} {s : Settings} (h : c.cached = some s) :
    c.get = ⟨.ok s, [], c⟩ := by
  simp [get, h]

/-- Settings that have been loaded are read again as they are. -/
theorem get_get {c : Cache} {s : Settings} (h : c.get.result = .ok s) :
    c.get.cache.get = ⟨.ok s, [], c.get.cache⟩ := by
  refine get_of_cached ?_
  cases hcached : c.cached with
  | some kept => simpa [get, hcached] using h
  | none =>
    cases hload : load (processSources c.environment) with
    | ok loaded => simpa [get, hcached, hload] using h
    | error issues => simp [get, hcached, hload] at h

end Cache

end SqliteAccess.Settings
