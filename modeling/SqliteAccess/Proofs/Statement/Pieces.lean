import Mathlib.Data.List.Basic
import SqliteAccess.Proofs.Statement.Cuts

/-!
# The pieces of a script

The pieces of a script make up the script. Each of them but the last ends with the semicolon at
which it was cut, and no other semicolon of a piece completes a statement. Whether a semicolon is a
cut depends on the text in front of it only, so that more text behind a script leaves its closed
pieces as they are and goes on with the last one.

## Main definitions

* `Statement.Uncut` : a text in which no semicolon completes a statement.
* `Statement.IsClosed` : a piece that ends with a cut.

## Main results

* `Statement.segments_spec` : the shape of the pieces of a script.
* `Statement.segmentsFrom_append_of_ok` : the pieces of a script with more text behind it.
* `Statement.split_append_of_cut` : the statements of two scripts in a row, of which the first ends
  with a cut.
-/

namespace SqliteAccess.Statement

/-- A text in which no semicolon completes a statement. -/
def Uncut (t : Text) : Prop := ∀ u s, t = u ++ ';' :: s → isComplete (u ++ [';']) = false

/-- A piece that ends with the only semicolon of it that completes a statement. -/
def IsClosed (p : Text) : Prop := ∃ u, p = u ++ [';'] ∧ Uncut u ∧ isComplete p = true

theorem uncut_nil : Uncut [] := by
  intro u s h
  simp at h

theorem Uncut.append_singleton {t : Text} {c : Char} (h : Uncut t)
    (hc : c = ';' → isComplete (t ++ [';']) = false) : Uncut (t ++ [c]) := by
  intro u s hus
  rcases List.eq_nil_or_concat s with rfl | ⟨s, d, rfl⟩
  · obtain ⟨rfl, hsemicolon⟩ := List.append_inj' hus rfl
    exact hc (List.singleton_inj.1 hsemicolon)
  · have hus' : t ++ [c] = (u ++ ';' :: s) ++ [d] := by simpa using hus
    exact h u s (List.append_inj' hus' rfl).1

theorem segmentsFrom_of_nul {piece : Text} (hnul : '\x00' ∈ piece) (rest : Text) :
    segmentsFrom piece.reverse (';' :: rest) = .error .nullCharacter := by
  simp [segmentsFrom, hnul]

/-- The pieces of a script from an open piece on. -/
theorem segmentsFrom_spec (piece : Text) {rest : Text} {pieces : List Text}
    (h : segmentsFrom piece.reverse rest = .ok pieces) (hpiece : Uncut piece) :
    ∃ closed last, pieces = closed ++ [last] ∧ closed.flatten ++ last = piece ++ rest ∧
      (∀ p ∈ closed, IsClosed p) ∧ Uncut last := by
  induction rest generalizing piece pieces with
  | nil =>
    obtain rfl : [piece] = pieces := by simpa [segmentsFrom] using h
    exact ⟨[], piece, rfl, by simp, by simp, hpiece⟩
  | cons c rest ih =>
    -- the character joins the open piece, unless it is a semicolon that completes a statement
    have hopen (hc : c = ';' → isComplete (piece ++ [';']) = false)
        (h : segmentsFrom (piece ++ [c]).reverse rest = .ok pieces) :
        ∃ closed last, pieces = closed ++ [last] ∧ closed.flatten ++ last = piece ++ c :: rest ∧
          (∀ p ∈ closed, IsClosed p) ∧ Uncut last := by
      obtain ⟨closed, last, hpieces, hflat, hclosed, hlast⟩ :=
        ih _ h (hpiece.append_singleton hc)
      exact ⟨closed, last, hpieces, by simpa using hflat, hclosed, hlast⟩
    by_cases hc : c = ';'
    · subst hc
      by_cases hnul : '\x00' ∈ piece
      · simp [segmentsFrom_of_nul hnul] at h
      rw [segmentsFrom_semicolon hnul] at h
      by_cases hcomplete : isComplete (piece ++ [';']) = true
      · rw [if_pos hcomplete] at h
        cases hrest : segmentsFrom [] rest with
        | error e => simp [hrest, Except.map] at h
        | ok pieces' =>
          obtain rfl : (piece ++ [';']) :: pieces' = pieces := by simpa [hrest, Except.map] using h
          obtain ⟨closed, last, rfl, hflat, hclosed, hlast⟩ := ih [] hrest uncut_nil
          refine ⟨(piece ++ [';']) :: closed, last, rfl, by simp [hflat], ?_, hlast⟩
          exact List.forall_mem_cons.2 ⟨⟨piece, rfl, hpiece, hcomplete⟩, hclosed⟩
      · rw [if_neg hcomplete] at h
        exact hopen (fun _ => Bool.not_eq_true _ ▸ hcomplete) h
    · rw [segmentsFrom_of_ne hc] at h
      exact hopen (fun h => absurd h hc) h

/-- The pieces of a script make up the script. All but the last are closed, and the last one holds
no semicolon that completes a statement. -/
theorem segments_spec {sql : Text} {pieces : List Text} (h : segments sql = .ok pieces) :
    ∃ closed last, pieces = closed ++ [last] ∧ closed.flatten ++ last = sql ∧
      (∀ p ∈ closed, IsClosed p) ∧ Uncut last :=
  segmentsFrom_spec [] h uncut_nil

theorem segmentsFrom_ne_ok_nil (piece rest : Text) : segmentsFrom piece rest ≠ .ok [] := by
  induction rest generalizing piece with
  | nil => simp [segmentsFrom]
  | cons c rest ih =>
    simp only [segmentsFrom]
    split_ifs
    · simp
    · cases segmentsFrom [] rest with
      | error e => simp [Except.map]
      | ok pieces => simp [Except.map]
    · exact ih _
    · exact ih _

/-- More text behind a script leaves its closed pieces as they are and goes on with the last one. -/
theorem segmentsFrom_append_of_ok {piece a last : Text} {closed : List Text}
    (h : segmentsFrom piece a = .ok (closed ++ [last])) (b : Text) :
    segmentsFrom piece (a ++ b) =
      (segmentsFrom last.reverse b).map fun pieces => closed ++ pieces := by
  induction a generalizing piece closed with
  | nil =>
    have hsingle : [] ++ [piece.reverse] = closed ++ [last] := by simpa [segmentsFrom] using h
    obtain ⟨hclosed, hlast⟩ := List.append_inj' hsingle rfl
    obtain rfl := List.singleton_inj.1 hlast
    subst hclosed
    rw [List.nil_append, List.reverse_reverse]
    cases segmentsFrom piece b with
    | error e => rfl
    | ok pieces => rfl
  | cons c a ih =>
    simp only [List.cons_append, segmentsFrom] at h ⊢
    split_ifs at h ⊢ with hc hnul hcomplete
    · cases hrest : segmentsFrom [] a with
      | error e => simp [hrest, Except.map] at h
      | ok pieces =>
        rw [hrest] at h
        have hpieces : (c :: piece).reverse :: pieces = closed ++ [last] := Except.ok.inj h
        cases closed with
        | nil =>
          obtain ⟨-, rfl⟩ := List.cons.inj hpieces
          exact absurd hrest (segmentsFrom_ne_ok_nil _ _)
        | cons first closed =>
          obtain ⟨rfl, rfl⟩ := List.cons.inj hpieces
          rw [ih hrest]
          cases segmentsFrom last.reverse b with
          | error e => rfl
          | ok pieces => rfl
    · exact ih h
    · exact ih h

/-- The closed pieces of a script that ends with a cut are all of the script. -/
theorem exists_of_cut {a : Text} (hcut : Cut a a []) :
    ∃ closed, segments a = .ok (closed ++ [[]]) := by
  obtain ⟨closed, rest, hsegments, -, hrest, -, hnil⟩ := hcut
  obtain ⟨rest, last, rfl⟩ := List.eq_nil_or_concat rest |>.resolve_left hrest
  obtain rfl : last = [] := List.flatten_eq_nil_iff.1 hnil last (by simp)
  exact ⟨closed ++ rest, by simpa using hsegments⟩

/-- The statements of two scripts in a row, of which the first ends with a cut, are those of the
first and those of the second. -/
theorem split_append_of_cut {a : Text} (hcut : Cut a a []) :
    ∃ statements, split a = .ok statements ∧
      ∀ b, split (a ++ b) = (split b).map fun rest => statements ++ rest := by
  obtain ⟨closed, hsegments⟩ := exists_of_cut hcut
  refine ⟨closed.filterMap statement?, ?_, fun b => ?_⟩
  · have hempty : [([] : Text)].filterMap statement? = [] := rfl
    rw [split, hsegments]
    simp [Except.map, hempty]
  · rw [split, split, segments, segmentsFrom_append_of_ok hsegments, segments, List.reverse_nil]
    cases segmentsFrom [] b with
    | error e => rfl
    | ok pieces => simp [Except.map]

end SqliteAccess.Statement
