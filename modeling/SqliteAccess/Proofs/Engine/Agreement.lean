import SqliteAccess.Proofs.Engine.Gathering
import SqliteAccess.Proofs.Number.Reading

/-!
# Two ways to an integer

The integer of a statement can be asked for directly, or it can be read off the first cell of the
table of a query. The one converts the value that the driver delivers, the other writes it into the
buffer of a table, finds it there again and reads its text. Both have the same outcome wherever the
cell spells the integer of the value, which fails for real numbers only. Without a row the table is
empty, while the request for an integer is a failure.

## Main results

* `Engine.Session.exists_table_of_single` : the table of a query of one statement.
* `Engine.Session.outcome_scalar_of_single` : the integer of the same statement.
* `Engine.Session.perform_query_scalar` : the two outcomes side by side.
-/

namespace SqliteAccess

/-- The result of one statement, if it has a row. -/
theorem Script.results_one (script : Script) : script.results 1 = script.next.filled?.toList := by
  cases hfilled : script.next.filled? <;> simp [results, replies, hfilled]

/-- A single result fits to itself. -/
theorem Rows.uniform_toList (result : Option Rows) : Rows.Uniform result.toList := by
  intro a ha b hb
  rw [Option.mem_toList] at ha hb
  rw [Option.mem_unique ha hb]

namespace Engine

/-- A query and a request for an integer meet the same faults. -/
theorem fault?_scalar (reply : Reply) : reply.fault? .scalar = reply.fault? .query := by
  cases reply <;> simp [Reply.fault?]

namespace Session

variable {s : Session} {settings : Settings} {sql statement : Text} {script : Script}

/-- A query of one statement answers with the rows of that statement. -/
theorem exists_table_of_single (hsettings : s.settings.get.result = .ok settings)
    (hsplit : Statement.split sql = .ok [statement]) (hfault : script.next.fault? .query = none)
    (hshape : ∀ r ∈ script.next.filled?, r.IsRectangular) :
    ∃ t, (s.perform .query script sql).1.outcome = .ok (.query t) ∧
      t.Holds (Rows.headerOf script.next.filled?.toList)
        (Rows.bodyOf script.next.filled?.toList) := by
  have hfault : ∀ reply ∈ script.replies [statement].length, reply.fault? .query = none :=
    List.forall_mem_singleton.2 hfault
  have hresults : script.results [statement].length = script.next.filled?.toList :=
    script.results_one
  have hshape : ∀ r ∈ script.results [statement].length, r.IsRectangular := by
    rw [hresults]
    exact fun r hr => hshape r (Option.mem_toList.1 hr)
  have huniform : Rows.Uniform (script.results [statement].length) := by
    rw [hresults]
    exact Rows.uniform_toList _
  obtain ⟨calls, t, -, hrun, hholds⟩ := runQueries_of_uniform hfault hshape huniform
  rw [hresults] at hholds
  rw [perform_of_split hsettings hsplit, Report.outcome_after, Request.run, Report.outcome_map,
    hrun]
  exact ⟨t, rfl, hholds⟩

/-- A request for the integer of one statement reads the first row of that statement. -/
theorem outcome_scalar_of_single (hsettings : s.settings.get.result = .ok settings)
    (hsplit : Statement.split sql = .ok [statement]) (hfault : script.next.fault? .query = none) :
    (s.perform .scalar script sql).1.outcome =
      (ofFirstRow statement
        (script.next.filled?.bind fun r => r.rows.head?)).outcome.map .scalar := by
  rw [perform_of_split hsettings hsplit, Report.outcome_after, Request.run, Report.outcome_map,
    runFirst, outcome_runScalar (by rwa [fault?_scalar])]

/-- **Both readings agree.** For one statement whose reply raises no fault, and whose rows are as
wide as its header, a query has a table. Without a row the table is empty, and the request for an
integer is a failure without a message. Otherwise the request has the integer of the first cell of
the table as its value, or both fail with the same error, unless the first value is one whose cell
does not spell its integer. -/
theorem perform_query_scalar (hsettings : s.settings.get.result = .ok settings)
    (hsplit : Statement.split sql = .ok [statement]) (hfault : script.next.fault? .query = none)
    (hshape : ∀ r ∈ script.next.filled?, r.IsRectangular) :
    let query := (s.perform .query script sql).1.outcome
    let scalar := (s.perform .scalar script sql).1.outcome
    (script.next.filled? = none →
      ∃ t, query = .ok (.query t) ∧ t.Holds [] [] ∧ scalar = .ok (.scalar .noRow)) ∧
      ∀ r value values rows, script.next.filled? = some r → r.rows = (value :: values) :: rows →
        value.SpellsInteger → ∃ t, query = .ok (.query t) ∧ t.status = .ok ∧
          ((∃ n, t.getInteger 0 0 = .ok n ∧ scalar = .ok (.scalar { value := n })) ∨
            ∃ e, t.getInteger 0 0 = .error (.number e) ∧ scalar = .error (.number e)) := by
  intro query scalar
  obtain ⟨t, hquery, hholds⟩ := exists_table_of_single hsettings hsplit hfault hshape
  have hscalar : scalar = _ := outcome_scalar_of_single hsettings hsplit hfault
  refine ⟨fun hfilled => ?_, fun r value values rows hfilled hrows hvalue => ?_⟩
  · rw [hfilled] at hholds hscalar
    exact ⟨t, hquery, hholds, hscalar⟩
  · rw [hfilled] at hholds hscalar
    have hbody : (Rows.bodyOf [r])[0]? = some ((value :: values).map Value.cell) := by
      simp [Rows.bodyOf, hrows]
    have hcell : t.get 0 0 = .ok value.cell := hholds.get_eq hbody rfl
    have hinteger : t.getInteger 0 0 = value.toInteger.mapError .number := by
      rw [Table.getInteger, hcell, ← value.integerOfCell_cell hvalue]
      rfl
    refine ⟨t, hquery, hholds.status, ?_⟩
    rw [hinteger, hscalar, Option.bind_some, hrows, List.head?_cons, ofFirstRow]
    cases value.toInteger with
    | ok n => exact .inl ⟨n, rfl, rfl⟩
    | error e => exact .inr ⟨e, rfl, rfl⟩

/-- A text in front of further columns and rows, which is read up to its first letter. -/
theorem perform_query_scalar_text :
    let s : Session := ⟨⟨[], some {}⟩, ⟨20, none⟩⟩
    let r : Rows := ⟨["a".toList, "b".toList], [[.text "\t-12abc".toList, .null],
      [.integer 7, .blob .view []]]⟩
    let script : Script := [.delivery ⟨true, r.columns, r.rows, none⟩]
    let sql := "SELECT * FROM t".toList
    s.settings.get.result = .ok {} ∧ Statement.split sql = .ok [sql] ∧
      script.next.fault? .query = none ∧ script.next.filled? = some r ∧ r.IsRectangular ∧
      ∃ t, (s.perform .query script sql).1.outcome = .ok (.query t) ∧
        t.getInteger 0 0 = .ok (-12) ∧
        (s.perform .scalar script sql).1.outcome = .ok (.scalar { value := -12 }) := by
  intro s r script sql
  have hsettings : s.settings.get.result = .ok {} := rfl
  have hsplit : Statement.split sql = .ok [sql] := by decide +kernel
  have hfault : script.next.fault? .query = none := by decide
  have hfilled : script.next.filled? = some r := rfl
  have hr : r.IsRectangular := ⟨by decide, by decide⟩
  have hshape : ∀ r ∈ script.next.filled?, r.IsRectangular := by
    rintro _ ⟨⟩
    exact hr
  have hscalar : (s.perform .scalar script sql).1.outcome = .ok (.scalar { value := -12 }) :=
    outcome_scalar_of_single hsettings hsplit hfault
  obtain ⟨t, hquery, -, hagree⟩ :=
    (perform_query_scalar hsettings hsplit hfault hshape).2 r _ _ _ hfilled rfl trivial
  refine ⟨hsettings, hsplit, hfault, hfilled, hr, t, hquery, ?_, hscalar⟩
  rcases hagree with ⟨n, hn, hvalue⟩ | ⟨e, -, herror⟩
  · obtain rfl : -12 = n := by simpa [hscalar] using hvalue
    exact hn
  · simp [hscalar] at herror

end Session

end Engine

end SqliteAccess
