import SqliteAccess.Proofs.Engine.Discipline
import SqliteAccess.Proofs.Statement.Stability

/-!
# The first statement of a script

A request for a single integer runs the first statement of its script, but it splits all of the
script before. Where the first statement ends does not depend on what follows it, however that text
is quoted or commented, so that all of the request is the same with any text behind the statement.
The exception is a text that cannot be split at all, in which a semicolon stands behind a null
character: then the statement is not run.

## Main definitions

* `Statement.ClosesOne` : scripts of a single statement, with the semicolon that closes it.

## Main results

* `Statement.ClosesOne.exists_split_append` : the statement stays the first one.
* `Engine.Session.perform_scalar_append` : the request with and without a text behind the statement.
-/

namespace SqliteAccess

namespace Statement

/-- The script has a single statement, and a semicolon of the script closes it: there is none behind
the last cut. -/
structure ClosesOne (a statement : Text) : Prop where
  split_eq : split a = .ok [statement]
  exists_segments : ∃ closed rest, segments a = .ok (closed ++ [rest]) ∧ statement? rest = none

/-- A text with a null character is no blank piece. -/
theorem nul_notMem_of_statement?_eq_none {p : Text} (h : statement? p = none) : '\x00' ∉ p := by
  intro hnul
  obtain ⟨x, t, rfl⟩ := List.append_of_mem hnul
  rw [statement?_append_cons (by decide) (by decide)] at h
  exact nomatch h

namespace ClosesOne

variable {a statement t : Text}

/-- The closed pieces of the script and the rest behind its last cut. -/
theorem exists_closed (h : ClosesOne a statement) :
    ∃ (closed : List Text) (rest : Text), closed.flatten ++ rest = a ∧
      (∀ p ∈ closed, IsClosed p ∧ '\x00' ∉ p) ∧ closed.filterMap statement? = [statement] ∧
      '\x00' ∉ rest := by
  obtain ⟨closed, rest, hsegments, hrest⟩ := h.exists_segments
  obtain ⟨hflat, hclosed, -, -⟩ := segments_spec_of_concat hsegments
  have hsplit := h.split_eq
  rw [split, hsegments] at hsplit
  have hstatements : (closed ++ [rest]).filterMap statement? = [statement] := Except.ok.inj hsplit
  rw [List.filterMap_append, List.filterMap_cons_none hrest, List.filterMap_nil,
    List.append_nil] at hstatements
  exact ⟨closed, rest, hflat, hclosed, hstatements, nul_notMem_of_statement?_eq_none hrest⟩

/-- Whatever stands behind the script, its statement stays the first one if there is a split at
all. -/
theorem exists_split_append (h : ClosesOne a statement) (ht : NullsLast t) :
    ∃ more, split (a ++ t) = .ok (statement :: more) := by
  obtain ⟨closed, rest, rfl, hclosed, hstatements, hrest⟩ := h.exists_closed
  obtain ⟨more, hmore⟩ := exists_split_iff.2 ((nullsLast_append_iff hrest t).2 ht)
  refine ⟨more, ?_⟩
  rw [List.append_assoc, split_flatten_append hclosed, hmore, hstatements]
  rfl

end ClosesOne

end Statement

namespace Engine

/-- A statement that is run for its first row is executed. -/
theorem calls_runScalar_ne_nil (reply : Reply) (statement : Text) :
    (runScalar reply statement).calls ≠ [] := by
  cases reply with
  | refusal fault => simp [runScalar]
  | delivery d =>
    obtain ⟨reads, -, -, hcalls⟩ := calls_runScalar_delivery d statement
    simp [hcalls]

namespace Session

variable {s : Session} {settings : Settings} {a statement : Text}

/-- A request for an integer without a trace is a run of the first statement of its text. -/
theorem perform_scalar {sql : Text} {more : List Text}
    (hsettings : s.settings.get.result = .ok settings) (hverbose : settings.verbose = false)
    (hsplit : Statement.split sql = .ok (statement :: more)) (script : Script) :
    (s.perform .scalar script sql).1 = (runScalar script.next statement).map .scalar :=
  perform_of_split_of_silent hsettings hverbose hsplit .scalar script

/-- **Only the first statement counts, if the text can be split.** Behind a script of a single
closed statement any text may stand without a change to the result, the calls, the events or the
session, unless a semicolon stands behind a null character of that text. Then the request crashes
before it makes a call. -/
theorem perform_scalar_append (hsettings : s.settings.get.result = .ok settings)
    (hverbose : settings.verbose = false) (ha : Statement.ClosesOne a statement) (script : Script)
    (t : Text) :
    (s.perform .scalar script (a ++ t) = s.perform .scalar script a ↔ Statement.NullsLast t) ∧
      (¬Statement.NullsLast t →
        (s.perform .scalar script (a ++ t)).1 = ⟨.error (.script .nullCharacter), [], []⟩) := by
  have halone := perform_scalar hsettings hverbose ha.split_eq script
  have hcrash (ht : ¬Statement.NullsLast t) :
      (s.perform .scalar script (a ++ t)).1 = ⟨.error (.script .nullCharacter), [], []⟩ := by
    have hsplit : Statement.split (a ++ t) = .error .nullCharacter :=
      Statement.split_eq_error (mt Statement.NullsLast.of_append_right ht)
    rw [perform_of_split_eq_error hsettings hsplit, hverbose]
    rfl
  refine ⟨⟨fun heq => ?_, fun ht => ?_⟩, hcrash⟩
  · -- the statement alone is executed in any case, a text that is not split makes no call
    by_contra ht
    have hcalls := congrArg (fun result => result.1.calls) heq
    rw [hcrash ht, halone] at hcalls
    exact calls_runScalar_ne_nil script.next statement hcalls.symm
  · obtain ⟨more, hmore⟩ := ha.exists_split_append ht
    have hreport := perform_scalar hsettings hverbose hmore script
    exact Prod.ext (hreport.trans halone.symm) rfl

/-- An open quote behind the statement. -/
theorem perform_scalar_append_quote :
    let s : Session := ⟨⟨[], some {}⟩, ⟨20, none⟩⟩
    let script : Script := [.delivery ⟨true, ["7".toList], [[.integer 7]], none⟩]
    let a := " SELECT 7; ".toList
    let t := "\u00a0DELETE FROM roads; SELECT 'road".toList
    s.settings.get.result = .ok {} ∧ ({} : Settings).verbose = false ∧
      Statement.ClosesOne a "SELECT 7;".toList ∧ Statement.NullsLast t ∧
      s.perform .scalar script (a ++ t) = s.perform .scalar script a := by
  intro s script a t
  have hsettings : s.settings.get.result = .ok {} := rfl
  have ha : Statement.ClosesOne a "SELECT 7;".toList :=
    ⟨by decide +kernel, [" SELECT 7;".toList], " ".toList, by decide +kernel, by decide +kernel⟩
  have ht : Statement.NullsLast t := Statement.nullsLast_of_notMem (by decide)
  exact ⟨hsettings, rfl, ha, ht, (perform_scalar_append hsettings rfl ha script t).1.2 ht⟩

/-- A null character in front of a further semicolon, which keeps the statement from being run. -/
theorem perform_scalar_append_null :
    let s : Session := ⟨⟨[], some {}⟩, ⟨20, none⟩⟩
    let script : Script := [.delivery ⟨true, ["1".toList], [[.integer 1]], none⟩]
    let a := "SELECT 1;".toList
    s.settings.get.result = .ok {} ∧ ({} : Settings).verbose = false ∧
      Statement.ClosesOne a "SELECT 1;".toList ∧
      (s.perform .scalar script a).1.outcome = .ok (.scalar { value := 1 }) ∧
      (s.perform .scalar script (a ++ "\x00;".toList)).1.outcome =
        .error (.script .nullCharacter) := by
  intro s script a
  have hsettings : s.settings.get.result = .ok {} := rfl
  have ha : Statement.ClosesOne a "SELECT 1;".toList :=
    ⟨by decide +kernel, ["SELECT 1;".toList], [], by decide +kernel, by decide +kernel⟩
  have hsplit : Statement.split (a ++ "\x00;".toList) = .error .nullCharacter := by decide +kernel
  refine ⟨hsettings, rfl, ha, ?_, ?_⟩
  · rw [perform_scalar hsettings rfl ha.split_eq]
    rfl
  · rw [perform_of_split_eq_error hsettings hsplit]

end Session

end Engine

end SqliteAccess
