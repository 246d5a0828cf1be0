import SqliteAccess.Proofs.Settings.Accepting

/-!
# How a log starts

A process configures its log before anything else, with the threshold that a variable names. The
name is looked up among the names of levels, in any case, and a text that names no level stands for
plain information. Two texts name something else than a level, and with one of them the log does
not start. Settings that cannot be loaded do not matter for this: the variable is then read as it
is, though only under its exact name, while valid settings take it under its name in any case.

## Main definitions

* `Log.Selects` : the threshold that a spelling stands for.
* `Log.otherNames` : the names that stand for something else than a level.
* `Environment.valueOf?` : the value of a variable under its name in any case.

## Main results

* `Log.threshold_eq_ok_iff`, `Log.threshold_eq_error_iff` : the outcomes of looking up a name.
* `Settings.logLevel_of_load` : the name in valid settings.
* `Engine.Session.start_threshold` : when a log starts, and with which threshold.
-/

namespace SqliteAccess

/-- The value of a variable under its name in any case: what stands last under one of its
spellings. -/
def Environment.valueOf? (env : Environment) (name : Text) : Option Text :=
  (env.reverse.find? fun v => Text.foldCase v.1 = Text.foldCase name).map (·.2)

namespace Log

/-- The threshold that a spelling stands for: that of the level it names, and that of plain
information if it names none. -/
def Selects (spelling : Text) (threshold : Nat) : Prop :=
  (spelling, threshold) ∈ thresholds ∨
    (∀ t, (spelling, t) ∉ thresholds) ∧ threshold = Level.info.rank

/-- The names that stand for something else than a level, in upper case. -/
def otherNames : List (Text × ThresholdError) :=
  [("BASIC_FORMAT".toList, .lineFormat), ("_STYLES".toList, .styleTable)]

/-! ### Looking up a name -/

/-- What is looked up in a list without repeated keys is what the list holds. -/
theorem lookup_eq_some_iff_mem {α β : Type} [BEq α] [LawfulBEq α] {l : List (α × β)}
    (hkeys : (l.map Prod.fst).Nodup) {a : α} {b : β} : l.lookup a = some b ↔ (a, b) ∈ l := by
  induction l with
  | nil => simp
  | cons pair l ih =>
    obtain ⟨key, value⟩ := pair
    obtain ⟨hnew, hkeys⟩ := List.nodup_cons.1 hkeys
    rw [List.lookup_cons, List.mem_cons, Prod.mk.injEq]
    by_cases hkey : a = key
    · subst hkey
      have hother : (a, b) ∉ l := fun hmem => hnew (List.mem_map.2 ⟨_, hmem, rfl⟩)
      simp [hother, eq_comm]
    · rw [beq_false_of_ne hkey, ih hkeys]
      simp [hkey]

theorem selects_iff {spelling : Text} {t : Nat} :
    Selects spelling t ↔ (thresholds.lookup spelling).getD Level.info.rank = t := by
  have hkeys : (thresholds.map Prod.fst).Nodup := by decide
  simp only [Selects, ← lookup_eq_some_iff_mem hkeys]
  cases thresholds.lookup spelling <;> simp [eq_comm]

theorem mem_otherNames {spelling : Text} {error : ThresholdError} :
    (spelling, error) ∈ otherNames ↔
      spelling = "BASIC_FORMAT".toList ∧ error = .lineFormat ∨
        spelling = "_STYLES".toList ∧ error = .styleTable := by
  simp only [otherNames, List.mem_cons, Prod.mk.injEq, List.not_mem_nil, or_false]

theorem threshold_eq_error_iff {name : Text} {error : ThresholdError} :
    threshold name = .error error ↔ (Text.upper name, error) ∈ otherNames := by
  have hdiffer : "BASIC_FORMAT".toList ≠ "_STYLES".toList := by decide
  rw [mem_otherNames]
  simp only [threshold]
  split_ifs with hformat hstyles
  · rw [hformat, Except.error.injEq]
    simp only [hdiffer, true_and, false_and, or_false, eq_comm]
  · rw [hstyles, Except.error.injEq]
    simp only [hdiffer.symm, true_and, false_and, false_or, eq_comm]
  · simp only [hformat, hstyles, false_and, or_false]

theorem threshold_eq_ok_iff {name : Text} {t : Nat} :
    threshold name = .ok t ↔
      (∀ error, (Text.upper name, error) ∉ otherNames) ∧ Selects (Text.upper name) t := by
  simp only [← threshold_eq_error_iff, selects_iff]
  simp only [threshold]
  split_ifs <;> simp

end Log

/-! ### The name of the threshold -/

namespace Settings

/-- A process gives a setting by a variable, in any case of its name. -/
theorem find_logLevel (env : Environment) :
    find (processSources env) .logLevel =
      (env.valueOf? Log.levelVariable).map fun t => ("LOG_LEVEL".toList, .text t) := by
  have hvariable : (Source.ofVariables env).find .logLevel =
      (env.valueOf? Log.levelVariable).map fun t => ("LOG_LEVEL".toList, .text t) := by
    have hfind : (Source.ofVariables env).find .logLevel =
        ((Source.ofVariables env).get? Log.levelVariable).map fun v => ("LOG_LEVEL".toList, v) := by
      rw [Source.find, Source.ofVariables]
      exact List.findSome?_singleton
    rw [hfind, get?_ofVariables, Option.map_map, Environment.valueOf?, Option.map_map]
    rfl
  have hkeywords : (Source.ofKeywords []).find .logLevel = none := rfl
  have hfile : (Source.ofVariables []).find .logLevel = none := rfl
  rw [find, processSources, sources, List.findSome?_cons, hkeywords, List.findSome?_cons, hvariable]
  cases env.valueOf? Log.levelVariable <;> rfl

theorem logLevel_of_gather {sources : List Source} {s : Settings} (h : gather sources = .ok s) :
    s.logLevel = (judge sources .logLevel Log.defaultLevel readText).1 := by
  rw [gather_eq_ite] at h
  split_ifs at h
  rw [← Except.ok.inj h]
  rfl

/-- Valid settings have the name that the variable gives, in any case of its own name. -/
theorem logLevel_of_load {env : Environment} {s : Settings}
    (h : load (processSources env) = .ok s) :
    s.logLevel = (env.valueOf? Log.levelVariable).getD Log.defaultLevel := by
  rw [logLevel_of_gather (load_eq_ok_iff.1 h).1, judge, find_logLevel]
  cases env.valueOf? Log.levelVariable <;> rfl

/-- A variable that is named in one case only has one value. -/
theorem valueOf?_eq_get? {env : Environment} {name : Text}
    (h : ∀ v ∈ env, Text.foldCase v.1 = Text.foldCase name → v.1 = name) :
    env.valueOf? name = env.get? name := by
  rw [Environment.valueOf?, Environment.get?, ← List.head?_filter, ← List.head?_filter]
  refine congrArg _ (congrArg _ (List.filter_congr fun v hv => ?_))
  exact decide_eq_decide.2 ⟨h v (List.mem_reverse.1 hv), fun hname => hname ▸ rfl⟩

end Settings

namespace Engine.Session

open Settings

/-- The name by which a process that starts finds its threshold. -/
def startName (env : Environment) : Text := Log.levelName env (Cache.mk env none).get.result

variable {env : Environment}

theorem startName_of_load {s : Settings} (h : load (processSources env) = .ok s) :
    startName env = (env.valueOf? Log.levelVariable).getD Log.defaultLevel := by
  simp only [startName, Cache.get, h, Log.levelName, logLevel_of_load h]

theorem startName_of_refused (h : IsRefused (processSources env)) :
    startName env = (env.get? Log.levelVariable).getD Log.defaultLevel := by
  obtain ⟨issues, hload⟩ := h
  simp only [startName, Cache.get, hload, Log.levelName]

/-- If the variable is named in one case only, it does not matter whether the settings are valid. -/
theorem startName_of_forall (h : ∀ v ∈ env,
    Text.foldCase v.1 = Text.foldCase Log.levelVariable → v.1 = Log.levelVariable) :
    startName env = (env.get? Log.levelVariable).getD Log.defaultLevel := by
  cases hload : load (processSources env) with
  | ok s => rw [startName_of_load hload, valueOf?_eq_get? h]
  | error issues => exact startName_of_refused ⟨issues, hload⟩

theorem start_eq (env : Environment) (day : Text) :
    start env day = (Log.threshold (startName env)).map fun t =>
      ⟨(Cache.mk env none).get.cache, ⟨t, Log.fileOf env day⟩⟩ := by
  simp only [start, Log.configure, startName]
  cases Log.threshold (Log.levelName env (Cache.mk env none).get.result) <;> rfl

/-- **When a log starts.** The name of the threshold is the value of its variable, or the name of
plain information if the variable is not set. Settings that are refused change nothing about this,
except that valid ones also take the variable if its name is written in another case. The log starts
with the threshold of the level that the name spells in upper case, and of plain information for
every other text, exactly if the name is not one of the two that stand for something else. With one
of those the process does not start. -/
theorem start_threshold (env : Environment) (day : Text) :
    (∀ s, load (processSources env) = .ok s →
      startName env = (env.valueOf? Log.levelVariable).getD Log.defaultLevel) ∧
    (IsRefused (processSources env) →
      startName env = (env.get? Log.levelVariable).getD Log.defaultLevel) ∧
    ((∀ v ∈ env, Text.foldCase v.1 = Text.foldCase Log.levelVariable → v.1 = Log.levelVariable) →
      startName env = (env.get? Log.levelVariable).getD Log.defaultLevel) ∧
    ((∃ s, start env day = .ok s ∧
        Log.Selects (Text.upper (startName env)) s.log.threshold) ↔
      ∀ error, (Text.upper (startName env), error) ∉ Log.otherNames) ∧
    ∀ error, start env day = .error error ↔
      (Text.upper (startName env), error) ∈ Log.otherNames := by
  refine ⟨fun _ => startName_of_load, startName_of_refused, startName_of_forall, ?_, ?_⟩
  · rw [start_eq]
    constructor
    · rintro ⟨s, hstart, -⟩
      cases hthreshold : Log.threshold (startName env) with
      | error error => simp [hthreshold, Except.map] at hstart
      | ok t => exact (Log.threshold_eq_ok_iff.1 hthreshold).1
    · intro hname
      obtain ⟨t, ht⟩ : ∃ t, Log.Selects (Text.upper (startName env)) t :=
        ⟨_, Log.selects_iff.2 rfl⟩
      rw [Log.threshold_eq_ok_iff.2 ⟨hname, ht⟩]
      exact ⟨_, rfl, ht⟩
  · intro error
    rw [start_eq, ← Log.threshold_eq_error_iff]
    cases Log.threshold (startName env) <;> simp [Except.map]

/-- A level in mixed case under settings that are refused, and a text that names no level under the
name of the variable in lower case. -/
theorem start_threshold_mixed :
    let refused : Environment := [("DATABASE_URL".toList, "postgresql://localhost/roads".toList),
      ("LOG_LEVEL".toList, "Warn".toList)]
    let valid : Environment := [("log_level".toList, "verbose".toList)]
    IsRefused (processSources refused) ∧ startName refused = "Warn".toList ∧
      (∃ s, start refused [] = .ok s ∧ s.log.threshold = 30) ∧
      startName valid = "verbose".toList ∧
      ∃ s, start valid [] = .ok s ∧ s.log.threshold = 20 := by
  intro refused valid
  have hrefused : IsRefused (processSources refused) := ⟨_, rfl⟩
  obtain ⟨-, hname, -, hstart, -⟩ := start_threshold refused []
  obtain ⟨hname', -, -, hstart', -⟩ := start_threshold valid []
  obtain ⟨s, hs, hselects⟩ := hstart.2 fun error => by cases error <;> decide
  obtain ⟨s', hs', hselects'⟩ := hstart'.2 fun error => by cases error <;> decide
  exact ⟨hrefused, hname hrefused, ⟨s, hs, (Log.selects_iff.1 hselects).symm⟩,
    hname' { logLevel := "verbose".toList } rfl, s', hs', (Log.selects_iff.1 hselects').symm⟩

/-- The name of the standard line format stops the start, and so does the name of the table of
format styles under settings that are refused. -/
theorem start_otherNames :
    let env : Environment := [("LOG_LEVEL".toList, "basic_format".toList)]
    let refused : Environment := [("DATABASE_URL".toList, "postgresql://localhost/roads".toList),
      ("LOG_LEVEL".toList, "_styles".toList)]
    start env [] = .error .lineFormat ∧ start refused [] = .error .styleTable ∧
      ¬∀ env : Environment, ∃ s, start env [] = .ok s := by
  intro env refused
  have hformat : start env [] = .error .lineFormat := rfl
  refine ⟨hformat, rfl, fun hall => ?_⟩
  obtain ⟨s, hs⟩ := hall env
  exact nomatch hformat.symm.trans hs

end Engine.Session

end SqliteAccess
