import SqliteAccess.Proofs.Engine.Requests
import SqliteAccess.Proofs.Statement.Nulls

/-!
# Texts that are refused as a whole

A text is judged at every semicolon from its last cut on, and what holds the null character cannot
be judged. The semicolons in front of the null character may have cut the text by then. All the
same the text is refused as a whole, and exactly where a semicolon stands behind a null character
anywhere in it: the cuts do not matter, because a null character behind a cut stays in the piece up
to the next semicolon, which is judged with it.

Since all of the text is split before a statement of it is run, none of the statements in front of
the null character is executed either.

## Main definitions

* `Statement.NullInside` : texts with a null character in front of a semicolon.

## Main results

* `Statement.split_eq_error_iff` : the texts that are refused.
* `Engine.Session.perform_nullInside` : requests on such texts do nothing on their connection.
-/

namespace SqliteAccess

namespace Statement

/-- A text in which a semicolon stands somewhere behind a null character. -/
def NullInside (t : Text) : Prop := ∃ u v w, t = u ++ '\x00' :: (v ++ ';' :: w)

theorem not_nullsLast_iff {t : Text} : ¬NullsLast t ↔ NullInside t := by
  constructor
  · intro h
    obtain ⟨front, w, rfl, hnul⟩ : ∃ front w, t = front ++ ';' :: w ∧ '\x00' ∈ front := by
      simpa [NullsLast] using h
    obtain ⟨u, v, rfl⟩ := List.append_of_mem hnul
    exact ⟨u, v, w, by simp⟩
  · rintro ⟨u, v, w, rfl⟩ h
    have hnul : '\x00' ∉ u ++ '\x00' :: v := h _ w (by simp)
    exact hnul (by simp)

/-- Only a null character in front of a semicolon keeps a text from being split. -/
theorem split_eq_error_iff {sql : Text} : split sql = .error .nullCharacter ↔ NullInside sql := by
  rw [← not_nullsLast_iff]
  refine ⟨fun h hnulls => ?_, split_eq_error⟩
  obtain ⟨statements, hsplit⟩ := exists_split_iff.2 hnulls
  exact nomatch h.symm.trans hsplit

end Statement

namespace Engine.Session

open Statement (NullInside)

/-- A request on a text that is refused ends behind its trace. -/
theorem perform_nullInside {s : Session} {settings : Settings} {sql : Text}
    (hsettings : s.settings.get.result = .ok settings) (h : NullInside sql) (request : Request)
    (script : Script) :
    (s.perform request script sql).1 =
      ⟨.error (.script .nullCharacter), [], traceEvents settings.verbose request.traceName sql⟩ :=
  perform_of_split_eq_error hsettings (Statement.split_eq_error_iff.2 h) request script

/-- **A null character in front of a semicolon refuses all of the text.** A text is split unless a
semicolon stands behind a null character, and every request on such a text ends with the same error
before any call on its connection. -/
theorem refuses_nullInside (sql : Text) :
    (Statement.split sql = .error .nullCharacter ↔ NullInside sql) ∧
      (¬NullInside sql → ∃ statements, Statement.split sql = .ok statements) ∧
      (Crash.script .nullCharacter).message = "embedded null character".toList ∧
      ∀ (s : Session) (settings : Settings), s.settings.get.result = .ok settings →
        NullInside sql → ∀ (request : Request) (script : Script),
          (s.perform request script sql).1.outcome = .error (.script .nullCharacter) ∧
            (s.perform request script sql).1.calls = [] := by
  refine ⟨Statement.split_eq_error_iff, fun h => ?_, rfl,
    fun s settings hsettings h request script => ?_⟩
  · exact Statement.exists_split_iff.2 (not_not.1 (mt Statement.not_nullsLast_iff.1 h))
  · rw [perform_nullInside hsettings h request script]
    exact ⟨rfl, rfl⟩

/-- A null character in a comment, behind a statement that is cut off and would run. -/
theorem refuses_nullInside_comment :
    let s : Session := ⟨⟨[], some {}⟩, ⟨20, none⟩⟩
    let sql := "SELECT 1; /* \x00 */ SELECT 2;".toList
    Statement.split sql = .error .nullCharacter ∧ ∀ (request : Request) (script : Script),
      (s.perform request script sql).1.outcome = .error (.script .nullCharacter) ∧
        (s.perform request script sql).1.calls = [] := by
  intro s sql
  have hnull : NullInside sql := ⟨"SELECT 1; /* ".toList, " */ SELECT 2".toList, [], rfl⟩
  obtain ⟨hsplit, -, -, hperform⟩ := refuses_nullInside sql
  exact ⟨hsplit.2 hnull, hperform s {} rfl hnull⟩

end Engine.Session

end SqliteAccess
