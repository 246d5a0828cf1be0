import SqliteAccess.Proofs.Engine.Running
import SqliteAccess.Proofs.Statement.Pieces

/-!
# Commands in a row

A text that ends with a cut may as well be sent as a command of its own. The statements of a longer
text are those of the text up to the cut and then those of the text behind it, and a command stops
at the first statement that fails, so that what stands behind the cut runs only if all in front of
it has succeeded, and then with the replies that are left.

## Main definitions

* `Engine.Report.isSuccess` : the reports of commands that succeed.

## Main results

* `Engine.runCommands_append_eq` : a run of statements as two runs.
* `Engine.Session.perform_append` : a command as two commands.
-/

namespace SqliteAccess.Engine

/-- Whether a report is that of a command that succeeded. -/
def Report.isSuccess (r : Report Result) : Bool :=
  match r.outcome with
  | .ok (.command result) => result.status = .ok
  | _ => false

@[simp]
theorem Report.isSuccess_after (calls : List Call) (events : List Log.Event) (r : Report Result) :
    (r.after calls events).isSuccess = r.isSuccess := rfl

/-! ### Runs -/

/-- No fault is a success, be it one of the database or not. -/
theorem isSuccess_ofFault (event statement : Text) (fault : Fault) :
    ((ofFault event statement fault CommandResult.ofFailure).map Result.command).isSuccess =
      false := by
  unfold ofFault
  cases faultMessage statement fault <;> rfl

/-- A run of statements goes on behind the first ones only if these succeed, and then with the
replies that they have left. -/
theorem runCommands_append_eq (script : Script) (before after : List Text) :
    runCommands script (before ++ after) =
      let first := runCommands script before
      if (first.map Result.command).isSuccess then
        (runCommands (script.drop (Call.executed first.calls).length) after).after
          first.calls first.events
      else first := by
  induction before generalizing script with
  | nil => rfl
  | cons statement before ih =>
    rw [List.cons_append]
    cases hfault : script.next.fault? .command with
    | some fault =>
      rw [runCommands_fault hfault, runCommands_fault hfault]
      exact (if_neg (Bool.eq_false_iff.1 (isSuccess_ofFault _ _ _))).symm
    | none =>
      rw [runCommands_step hfault, runCommands_step hfault, ih]
      by_cases hsuccess : ((runCommands script.tail before).map Result.command).isSuccess = true
      · simp only [Report.map_after, Report.isSuccess_after, hsuccess, if_true, Report.calls_after,
          Report.events_after, Report.after_after, List.drop_tail]
        rfl
      · simp [hsuccess]

/-! ### Requests -/

namespace Session

variable {s : Session} {settings : Settings}

/-- A command without a trace is a run of the statements of its text. -/
theorem perform_command {sql : Text} {statements : List Text}
    (hsettings : s.settings.get.result = .ok settings) (hverbose : settings.verbose = false)
    (hsplit : Statement.split sql = .ok statements) (script : Script) :
    (s.perform .command script sql).1 = (runCommands script statements).map .command :=
  perform_of_split_of_silent hsettings hverbose hsplit .command script

/-- A further request finds the same settings. -/
theorem settings_perform (hsettings : s.settings.get.result = .ok settings) (request : Request)
    (script : Script) (sql : Text) :
    (s.perform request script sql).2.settings.get =
      ⟨.ok settings, [], (s.perform request script sql).2.settings⟩ :=
  Settings.Cache.get_get hsettings

/-- A further request leaves the session as it is. -/
theorem perform_perform_snd (hsettings : s.settings.get.result = .ok settings)
    (request request' : Request) (script script' : Script) (sql sql' : Text) :
    ((s.perform request script sql).2.perform request' script' sql').2 =
      (s.perform request script sql).2 := by
  rw [perform, settings_perform hsettings]

/-- The lines of a report behind events. -/
theorem lines_after {α : Type} (s : Session) (time : Text) (calls : List Call)
    (events : List Log.Event) (r : Report α) :
    s.lines time (r.after calls events) = s.log.lines time events ++ s.lines time r := by
  simp [lines, Log.Configuration.lines, Log.written]

/-- The report of a command as that of two commands. -/
theorem perform_append_fst {a b : Text} (hsettings : s.settings.get.result = .ok settings)
    (hverbose : settings.verbose = false) (hcut : Statement.Cut a a []) (hb : '\x00' ∉ b)
    (script : Script) :
    let first := s.perform .command script a
    (s.perform .command script (a ++ b)).1 =
      if first.1.isSuccess then
        (first.2.perform .command (script.drop (Call.executed first.1.calls).length) b).1.after
          first.1.calls first.1.events
      else first.1 := by
  intro first
  obtain ⟨before, hbefore, happend⟩ := Statement.split_append_of_cut hcut
  obtain ⟨after, hafter⟩ : ∃ after, Statement.split b = .ok after :=
    ⟨_, by rw [Statement.split, Statement.segments_eq hb]; rfl⟩
  have hwhole : Statement.split (a ++ b) = .ok (before ++ after) := by rw [happend, hafter]; rfl
  have hnext : first.2.settings.get.result = .ok settings := by rw [settings_perform hsettings]
  have hfirst : first.1 = (runCommands script before).map .command :=
    perform_command hsettings hverbose hbefore script
  rw [perform_command hsettings hverbose hwhole, perform_command hnext hverbose hafter, hfirst,
    runCommands_append_eq]
  exact apply_ite _ _ _ _

/-- **A command may be sent in two parts.** Whatever the replies are, a command on a text with a
cut has the outcome, the calls and the lines of a command on the text up to the cut and then, only
if that one succeeds, a command on the text behind it with the replies that are left. -/
theorem perform_append {a b : Text} (hsettings : s.settings.get.result = .ok settings)
    (hverbose : settings.verbose = false) (hcut : Statement.Cut a a []) (hb : '\x00' ∉ b)
    (script : Script) (time : Text) :
    let whole := s.perform .command script (a ++ b)
    let first := s.perform .command script a
    let second := first.2.perform .command (script.drop (Call.executed first.1.calls).length) b
    if first.1.isSuccess then
      whole.1.outcome = second.1.outcome ∧ whole.1.calls = first.1.calls ++ second.1.calls ∧
        s.lines time whole.1 = s.lines time first.1 ++ first.2.lines time second.1 ∧
        whole.2 = second.2
    else
      whole.1.outcome = first.1.outcome ∧ whole.1.calls = first.1.calls ∧
        s.lines time whole.1 = s.lines time first.1 ∧ whole.2 = first.2 := by
  intro whole first second
  have hreport := perform_append_fst hsettings hverbose hcut hb script
  split_ifs with hsuccess
  · have hwhole : whole.1 = second.1.after first.1.calls first.1.events :=
      hreport.trans (if_pos hsuccess)
    have hsession : second.2 = first.2 := perform_perform_snd hsettings _ _ _ _ _ _
    rw [hwhole, lines_after, hsession]
    exact ⟨rfl, rfl, rfl, rfl⟩
  · have hwhole : whole.1 = first.1 := hreport.trans (if_neg hsuccess)
    rw [hwhole]
    exact ⟨rfl, rfl, rfl, rfl⟩

/-- The second of three statements is refused, the first one behind the cut. -/
theorem perform_append_refusal :
    let s : Session := ⟨⟨[], some {}⟩, ⟨20, none⟩⟩
    let script : Script := [.delivery {}, .refusal (.driver "no such table: u".toList)]
    let a := "INSERT INTO t VALUES (1);".toList
    let b := " DELETE FROM u; SELECT 2".toList
    let whole := s.perform .command script (a ++ b)
    let first := s.perform .command script a
    let second := first.2.perform .command (script.drop (Call.executed first.1.calls).length) b
    s.settings.get.result = .ok {} ∧ ({} : Settings).verbose = false ∧ Statement.Cut a a [] ∧
      '\x00' ∉ b ∧ first.1.isSuccess = true ∧ whole.1.outcome = second.1.outcome ∧
      whole.1.calls = first.1.calls ++ second.1.calls ∧
      s.lines [] whole.1 = s.lines [] first.1 ++ first.2.lines [] second.1 ∧
      whole.2 = second.2 := by
  intro s script a b whole first second
  have hsettings : s.settings.get.result = .ok {} := rfl
  have hcut : Statement.Cut a a [] := ⟨[a], [[]], by decide +kernel, by simp, by simp, rfl, rfl⟩
  have hb : '\x00' ∉ b := by decide
  have hsuccess : first.1.isSuccess = true := by decide +kernel
  have h : ite _ _ _ := perform_append hsettings rfl hcut hb script []
  exact ⟨hsettings, rfl, hcut, hb, hsuccess, (if_pos hsuccess).mp h⟩

end Session

end SqliteAccess.Engine
