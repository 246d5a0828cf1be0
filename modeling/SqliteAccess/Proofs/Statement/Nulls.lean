import SqliteAccess.Proofs.Statement.Pieces

/-!
# Null characters in scripts

A text that holds the null character cannot be judged, and a script is judged at every semicolon. A
null character behind a cut stays in the piece up to the next semicolon, so that a script is split
unless some semicolon stands behind a null character, wherever the cuts are. In the pieces of a
script that is split, null characters stand behind the last semicolon of the last piece only.

## Main definitions

* `Statement.NullsLast` : texts in which no semicolon stands behind a null character.

## Main results

* `Statement.exists_split_iff` : the scripts that are split.
* `Statement.segments_spec_of_concat` : the shape of the pieces of a script with their null
  characters.
-/

namespace SqliteAccess.Statement

/-- A text in which no semicolon stands behind a null character. -/
def NullsLast (t : Text) : Prop := ∀ u s, t = u ++ ';' :: s → '\x00' ∉ u

theorem nullsLast_of_notMem {t : Text} (h : '\x00' ∉ t) : NullsLast t := by
  rintro u s rfl hu
  exact h (List.mem_append_left _ hu)

theorem NullsLast.of_append_right {x t : Text} (h : NullsLast (x ++ t)) : NullsLast t := by
  rintro u s rfl hu
  exact h (x ++ u) s (List.append_assoc x u _).symm (List.mem_append_right x hu)

theorem NullsLast.of_append_left {x t : Text} (h : NullsLast (x ++ t)) : NullsLast x := by
  rintro u s rfl
  exact h u (s ++ t) (by simp)

/-- In front of a semicolon there is no null character. -/
theorem NullsLast.notMem {x t : Text} (h : NullsLast (x ++ ';' :: t)) : '\x00' ∉ x := h x t rfl

theorem nullsLast_append_iff {x : Text} (hx : '\x00' ∉ x) (t : Text) :
    NullsLast (x ++ t) ↔ NullsLast t := by
  refine ⟨NullsLast.of_append_right, fun h u s hus hu => ?_⟩
  rcases List.append_eq_append_iff.1 hus with ⟨v, rfl, hv⟩ | ⟨v, rfl, -⟩
  · exact h v s hv ((List.mem_append.1 hu).resolve_left hx)
  · exact hx (List.mem_append_left v hu)

/-! ### The scripts that are split -/

/-- What holds of the text in front of every semicolon, read off the first character. -/
theorem forall_semicolon_cons {P : Text → Prop} {c : Char} {t : Text} :
    (∀ u s, c :: t = u ++ ';' :: s → P u) ↔
      (c = ';' → P []) ∧ ∀ u s, t = u ++ ';' :: s → P (c :: u) := by
  refine ⟨fun h => ⟨?_, fun u s hus => h (c :: u) s (by rw [hus, List.cons_append])⟩, ?_⟩
  · rintro rfl
    exact h [] t rfl
  · rintro ⟨hfirst, hrest⟩ u s hus
    cases u with
    | nil => exact hfirst (List.cons.inj hus).1
    | cons d u =>
      obtain ⟨rfl, htail⟩ := List.cons.inj hus
      exact hrest u s htail

/-- A script is split from an open piece on unless a semicolon stands behind a null character of
the piece or of the script. -/
theorem exists_segmentsFrom_iff (piece : Text) {rest : Text} :
    (∃ pieces, segmentsFrom piece.reverse rest = .ok pieces) ↔
      ∀ u s, rest = u ++ ';' :: s → '\x00' ∉ piece ++ u := by
  induction rest generalizing piece with
  | nil => simp [segmentsFrom]
  | cons c rest ih =>
    have hopen : (∃ pieces, segmentsFrom (piece ++ [c]).reverse rest = .ok pieces) ↔
        ∀ u s, rest = u ++ ';' :: s → '\x00' ∉ piece ++ c :: u := by
      simpa using ih (piece ++ [c])
    rw [forall_semicolon_cons]
    by_cases hc : c = ';'
    · subst hc
      by_cases hnul : '\x00' ∈ piece
      · rw [segmentsFrom_of_nul hnul]
        exact iff_of_false (by simp) fun h => h.1 rfl (by simpa using hnul)
      rw [segmentsFrom_semicolon hnul]
      by_cases hcomplete : isComplete (piece ++ [';']) = true
      · -- behind the cut the null characters of the piece no longer matter, and it has none
        have hcut : (∃ pieces, segmentsFrom [] rest = .ok pieces) ↔
            ∀ u s, rest = u ++ ';' :: s → '\x00' ∉ u := ih []
        rw [if_pos hcomplete]
        cases hrest : segmentsFrom [] rest with
        | error e => simpa [hrest, Except.map, hnul] using hcut
        | ok pieces => simpa [hrest, Except.map, hnul] using hcut
      · rw [if_neg hcomplete, hopen]
        simp [hnul]
    · rw [segmentsFrom_of_ne hc, hopen]
      simp [hc]

/-- A script is split unless a semicolon stands behind a null character. -/
theorem exists_segments_iff {sql : Text} :
    (∃ pieces, segments sql = .ok pieces) ↔ NullsLast sql :=
  exists_segmentsFrom_iff []

theorem exists_split_iff {sql : Text} :
    (∃ statements, split sql = .ok statements) ↔ NullsLast sql := by
  rw [← exists_segments_iff, split]
  cases segments sql with
  | error e => simp [Except.map]
  | ok pieces => simp [Except.map]

theorem split_eq_error {sql : Text} (h : ¬NullsLast sql) : split sql = .error .nullCharacter := by
  cases hsplit : split sql with
  | error e =>
    cases e
    rfl
  | ok statements => exact absurd (exists_split_iff.1 ⟨statements, hsplit⟩) h

/-! ### The pieces of a script -/

/-- The shape of the pieces of a script. The closed ones hold no null character. -/
theorem segments_spec_of_concat {sql last : Text} {closed : List Text}
    (h : segments sql = .ok (closed ++ [last])) :
    closed.flatten ++ last = sql ∧ (∀ p ∈ closed, IsClosed p ∧ '\x00' ∉ p) ∧
      Uncut last ∧ NullsLast last := by
  obtain ⟨closed', last', hpieces, hflat, hclosed, hlast⟩ := segments_spec h
  obtain ⟨rfl, hsingle⟩ := List.append_inj' hpieces rfl
  obtain rfl := List.singleton_inj.1 hsingle
  have hnulls : NullsLast (closed.flatten ++ last) := by
    rw [hflat]
    exact exists_segments_iff.1 ⟨_, h⟩
  refine ⟨hflat, fun p hp => ⟨hclosed p hp, ?_⟩, hlast, hnulls.of_append_right⟩
  obtain ⟨u, rfl, -, -⟩ := hclosed p hp
  obtain ⟨front, behind, rfl⟩ := List.append_of_mem hp
  have hsemicolon : NullsLast (front.flatten ++ (u ++ ';' :: (behind.flatten ++ last))) := by
    simpa using hnulls
  simpa using hsemicolon.of_append_right.notMem

end SqliteAccess.Statement
