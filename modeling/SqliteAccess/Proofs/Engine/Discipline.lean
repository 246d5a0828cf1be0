import SqliteAccess.Proofs.Engine.Requests

/-!
# The discipline of results

Every request closes each result that it is given before it does anything else on the connection,
however the request ends, and it executes its statements in order from the first one on.

## Main definitions

* `Call.Follow` : disciplined calls that execute statements in order from the first one on.

## Main results

* `Engine.follow_runCommands`, `Engine.follow_runQueries`, `Engine.follow_runFirst` : the calls of
  the three runs.
* `Engine.Session.disciplined_perform` : the calls of every request.
-/

namespace SqliteAccess

/-- Disciplined calls that execute no other statements than the first ones, in order. -/
structure Call.Follow (script : Script) (statements : List Text) (calls : List Call) : Prop where
  disciplined : Call.Disciplined script calls
  executed : Call.executed calls <+: statements

namespace Call.Follow

variable {script : Script} {statements : List Text}

theorem nil (script : Script) (statements : List Text) : Follow script statements [] :=
  ⟨.done script, List.nil_prefix⟩

theorem refused {fault : Fault} (hreply : script.next = .refusal fault) (statement : Text)
    (statements : List Text) : Follow script (statement :: statements) [.execute statement] :=
  ⟨.refused statement hreply, List.prefix_append [statement] statements⟩

/-- A result that is closed leaves the connection to the statements behind it. -/
theorem delivered {d : Delivery} {reads rest : List Call} (hreply : script.next = .delivery d)
    (hreads : ∀ c ∈ reads, c.isReading = true) (hfetch : reads.countP isFetch ≤ 1)
    (hrest : Follow script.tail statements rest) (statement : Text) :
    Follow script (statement :: statements) (.execute statement :: (reads ++ .close :: rest)) where
  disciplined := .delivered statement hreply hreads hfetch hrest.disciplined
  executed := by
    rw [executed_execute_cons, executed_append, executed_of_isReading hreads]
    exact (List.prefix_cons_inj statement).2 hrest.executed

/-- Calls that end with one result. -/
theorem closed {d : Delivery} {reads : List Call} (hreply : script.next = .delivery d)
    (hreads : ∀ c ∈ reads, c.isReading = true) (hfetch : reads.countP isFetch ≤ 1)
    (statement : Text) (statements : List Text) :
    Follow script (statement :: statements) (.execute statement :: (reads ++ [.close])) :=
  delivered hreply hreads hfetch (nil script.tail statements) statement

end Call.Follow

/-- Whatever the rows are and whether they can be fetched or not, they are fetched at most once and
their result is closed. -/
theorem Reply.fetchAll_delivery (d : Delivery) (statement : Text) :
    ∃ outcome reads, (∀ c ∈ reads, c.isReading = true) ∧ reads.countP Call.isFetch ≤ 1 ∧
      (Reply.delivery d).fetchAll statement =
        (outcome, .execute statement :: (reads ++ [.close])) := by
  cases hrows : d.hasRows with
  | false => exact ⟨.ok ⟨[], []⟩, [], by simp, by simp, by simp [fetchAll, hrows]⟩
  | true =>
    exact ⟨d.all, [.columns, .fetchAll], by decide, by decide, by simp [fetchAll, hrows]⟩

namespace Engine

open Call

theorem follow_runCommands (script : Script) (statements : List Text) :
    Follow script statements (runCommands script statements).calls := by
  induction statements generalizing script with
  | nil => exact .nil script []
  | cons statement statements ih =>
    rw [runCommands]
    cases hreply : script.next with
    | refusal fault => simpa [Reply.discard] using Follow.refused hreply statement statements
    | delivery d =>
      have hreads : ∀ c ∈ ([] : List Call), c.isReading = true := by simp
      exact .delivered hreply hreads (by simp) (ih script.tail) statement

theorem follow_runQueries (script : Script) (g : Gathered) (statements : List Text) :
    Follow script statements (runQueries script g statements).calls := by
  induction statements generalizing script g with
  | nil => exact .nil script []
  | cons statement statements ih =>
    rw [runQueries]
    cases hreply : script.next with
    | refusal fault => simpa [Reply.fetchAll] using Follow.refused hreply statement statements
    | delivery d =>
      obtain ⟨outcome, reads, hreads, hcount, hfetch⟩ := Reply.fetchAll_delivery d statement
      have hclosed := Follow.closed hreply hreads hcount statement statements
      rw [hfetch]
      -- the result is closed before its rows are judged, whichever way the query goes on
      cases outcome with
      | error fault => simpa using hclosed
      | ok rows =>
        cases hadd : g.add rows with
        | none => simpa [hadd] using hclosed
        | some g' =>
          simpa [hadd] using Follow.delivered hreply hreads hcount (ih script.tail g') statement

@[simp]
theorem calls_ofFirstRow (statement : Text) (row : Option (List Value)) :
    (ofFirstRow statement row).calls = [] := by
  match row with
  | none | some [] | some (_ :: _) => rfl

theorem calls_runScalar_delivery (d : Delivery) (statement : Text) :
    ∃ reads, (∀ c ∈ reads, c.isReading = true) ∧ reads.countP isFetch ≤ 1 ∧
      (runScalar (.delivery d) statement).calls = .execute statement :: (reads ++ [.close]) := by
  cases hrows : d.hasRows with
  | false => exact ⟨[], by simp, by simp, by simp [runScalar, Reply.fetchFirst, hrows]⟩
  | true =>
    refine ⟨[.fetchFirst], by decide, by decide, ?_⟩
    simp only [runScalar, Reply.fetchFirst, hrows, if_true, Report.calls_after]
    cases d.first with
    | error fault => simp
    | ok row => simp

/-- A request for an integer executes the first statement at most. -/
theorem follow_runFirst (script : Script) (sql : Text) (statements : List Text) :
    Follow script (statements.take 1) (runFirst script sql statements).calls := by
  cases statements with
  | nil => exact .nil script []
  | cons statement statements =>
    rw [runFirst]
    cases hreply : script.next with
    | refusal fault => simpa [runScalar] using Follow.refused hreply statement []
    | delivery d =>
      obtain ⟨reads, hreads, hcount, hcalls⟩ := calls_runScalar_delivery d statement
      rw [hcalls]
      exact .closed hreply hreads hcount statement []

/-- **Every result is closed in time.** Whatever the settings, the text and the replies are, the
calls of a request are disciplined, and it executes the statements of the text in order from the
first one on, a request for an integer one of them at most. -/
theorem Session.disciplined_perform (s : Session) (request : Request) (script : Script)
    (sql : Text) :
    Disciplined script (s.perform request script sql).1.calls ∧
      match Statement.split sql with
      | .ok statements => executed (s.perform request script sql).1.calls <+: statements ∧
          (request = .scalar → (executed (s.perform request script sql).1.calls).length ≤ 1)
      | .error _ => (s.perform request script sql).1.calls = [] := by
  cases hsplit : Statement.split sql with
  | error error =>
    have hnil : (s.perform request script sql).1.calls = [] :=
      calls_eq_nil request script fun _ _ _ h => nomatch hsplit.symm.trans h
    exact ⟨hnil ▸ .done script, hnil⟩
  | ok statements =>
    cases hsettings : s.settings.get.result with
    | error issues =>
      have hnil : (s.perform request script sql).1.calls = [] :=
        calls_eq_nil request script fun _ _ h => nomatch hsettings.symm.trans h
      simp [hnil, Disciplined.done, executed]
    | ok settings =>
      rw [perform_of_split hsettings hsplit, Report.calls_after, List.nil_append]
      cases request with
      | command =>
        have h := follow_runCommands script statements
        exact ⟨h.disciplined, h.executed, nofun⟩
      | query =>
        have h := follow_runQueries script {} statements
        exact ⟨h.disciplined, h.executed, nofun⟩
      | scalar =>
        have h := follow_runFirst script sql statements
        refine ⟨h.disciplined, h.executed.trans (List.take_prefix 1 statements), fun _ => ?_⟩
        exact Nat.le_trans h.executed.length_le (List.length_take_le 1 statements)

end Engine

end SqliteAccess
