import SqliteAccess.Proofs.Statement.Contents

/-!
# Blanks in front of a statement

The blanks that are removed from the front of a piece are not all blanks to the reader of scripts:
the vertical tab and the information separators are lexemes of their own, and the blanks outside
ASCII even belong to the word behind them. With such a blank in front, a piece creates no trigger
and its first semicolon completes it. So removing blanks may keep a text from being complete, but it
never makes one complete. The blanks that stand between lexemes make no difference at all.

## Main definitions

* `Statement.Phase.Stricter` : a phase that asks for as much as another one.

## Main results

* `Statement.completesFrom_of_stricter` : what a stricter phase accepts.
* `Statement.isComplete_append_of_isBlank` : a complete text behind blanks.
* `Statement.isComplete_append_of_isSeparator` : a text behind blanks between lexemes.
-/

namespace SqliteAccess.Statement

open Text

/-! ### Stricter phases -/

/-- A phase asks for as much as another one: what completes a statement from it, completes one from
the other too. Outside triggers nothing asks for less than a statement that has begun, and the body
of a trigger asks for END where a statement of its own asks for a semicolon. -/
def Phase.Stricter (phase other : Phase) : Prop :=
  phase = other ∨ phase ≠ .start ∧ other = .normal ∨
    phase = .triggerSemicolon ∧ other = .start ∨
      phase = .trigger ∧ (other = .explain ∨ other = .create)

theorem Phase.Stricter.step {phase other : Phase} (h : phase.Stricter other) (k : Lexeme) :
    (phase.step k).Stricter (other.step k) := by
  unfold Phase.Stricter
  rcases h with rfl | ⟨hphase, rfl⟩ | ⟨rfl, rfl⟩ | ⟨rfl, rfl | rfl⟩
  · exact .inl rfl
  · revert hphase
    cases phase <;> cases k <;> decide
  all_goals cases k <;> decide

theorem Phase.Stricter.foldl {phase other : Phase} (h : phase.Stricter other)
    (lexemes : List (Lexeme × Text)) :
    (lexemes.foldl (fun p l => p.step l.1) phase).Stricter
      (lexemes.foldl (fun p l => p.step l.1) other) := by
  induction lexemes generalizing phase other with
  | nil => exact h
  | cons l lexemes ih => exact ih (h.step l.1)

/-- No other phase is stricter than that behind a complete statement. -/
theorem Phase.Stricter.eq_start {phase other : Phase} (h : phase.Stricter other)
    (hphase : phase = .start) : other = .start := by
  subst hphase
  simpa [Phase.Stricter, eq_comm] using h

/-- What completes a statement from a phase completes one from every phase that asks for less. -/
theorem completesFrom_of_stricter {phase other : Phase} (h : phase.Stricter other) {t : Text}
    (ht : completesFrom phase t = true) : completesFrom other t = true := by
  simp only [completesFrom, Bool.and_eq_true, decide_eq_true_eq] at ht ⊢
  exact ⟨ht.1, (h.foldl _).eq_start ht.2⟩

/-! ### One blank -/

theorem isComplete_cons_of_isSeparator {c : Char} (hc : isSeparator c = true) (t : Text) :
    isComplete (c :: t) = isComplete t :=
  completesFrom_leads (.separator hc) .initial

/-- A complete text stays complete behind a character outside ASCII, which joins the first word of
the text if there is one. -/
theorem isComplete_cons_of_le {c : Char} (hc : 0x80 ≤ c.toNat) {t : Text}
    (ht : isComplete t = true) : isComplete (c :: t) = true := by
  obtain ⟨w, r, rfl, hw, hr⟩ := exists_word_append t
  have hjoined : Leads .other (c :: w) r := by
    rw [← wordKind_of_mem (List.mem_cons_self (a := c) (l := w)) hc]
    exact .word (by simp) (List.forall_mem_cons.2 ⟨isIdentifierChar_of_le hc, hw⟩) hr
  refine (completesFrom_leads hjoined .initial).trans ?_
  by_cases hnil : w = []
  · subst hnil
    exact completesFrom_of_stricter (.inr (.inl ⟨by decide, rfl⟩)) ht
  · rw [isComplete_eq, completesFrom_leads (.word hnil hw hr)] at ht
    refine completesFrom_of_stricter (.inr (.inl ⟨?_, rfl⟩)) ht
    exact Phase.step_ne_start (by decide) (wordKind_ne_semicolon w)

/-- A blank that does not stand between lexemes and is no word character is a lexeme of its own,
whatever follows it. -/
theorem leads_other_of_isBlank {c : Char} (hc : isBlank c = true)
    (hseparator : isSeparator c = false) (hword : isIdentifierChar c = false) (t : Text) :
    Leads .other [c] t := by
  have hne {d : Char} (hd : isBlank d = false) : c ≠ d := by
    rintro rfl
    exact absurd hc (by simp [hd])
  refine .symbol ⟨hne (by decide), hseparator, hne (by decide), ?_, hword⟩ fun d _ => ⟨?_, ?_⟩
  · rintro (h | h | h) <;> exact hne (by decide) h
  · exact fun h => hne (by decide) h.1
  · exact fun h => hne (by decide) h.1

theorem isComplete_cons_of_isBlank {c : Char} (hc : isBlank c = true) {t : Text}
    (ht : isComplete t = true) : isComplete (c :: t) = true := by
  by_cases hseparator : isSeparator c = true
  · rwa [isComplete_cons_of_isSeparator hseparator]
  by_cases hword : isIdentifierChar c = true
  · exact isComplete_cons_of_le (le_of_isBlank_of_isIdentifierChar hc hword) ht
  · rw [Bool.not_eq_true] at hseparator hword
    refine (completesFrom_leads (leads_other_of_isBlank hc hseparator hword t) .initial).trans ?_
    exact completesFrom_of_stricter (.inr (.inl ⟨by decide, rfl⟩)) ht

/-! ### Blanks in front of a text -/

/-- A complete text stays complete behind blanks. -/
theorem isComplete_append_of_isBlank {lead t : Text} (hlead : ∀ c ∈ lead, isBlank c = true)
    (ht : isComplete t = true) : isComplete (lead ++ t) = true := by
  induction lead with
  | nil => exact ht
  | cons c lead ih =>
    obtain ⟨hc, hlead⟩ := List.forall_mem_cons.1 hlead
    exact isComplete_cons_of_isBlank hc (ih hlead)

/-- Blanks between lexemes make no difference in front of a text. -/
theorem isComplete_append_of_isSeparator {lead : Text} (hlead : ∀ c ∈ lead, isSeparator c = true)
    (t : Text) : isComplete (lead ++ t) = isComplete t := by
  induction lead with
  | nil => rfl
  | cons c lead ih =>
    obtain ⟨hc, hlead⟩ := List.forall_mem_cons.1 hlead
    exact (isComplete_cons_of_isSeparator hc _).trans (ih hlead)

/-- Removing blanks from the front of a text makes none of its semicolons complete a statement. -/
theorem Uncut.of_append {lead t : Text} (h : Uncut (lead ++ t))
    (hlead : ∀ c ∈ lead, isBlank c = true) : Uncut t := by
  intro u s hus
  have hlonger := h (lead ++ u) s (by rw [hus, List.append_assoc])
  cases hcomplete : isComplete (u ++ [';']) with
  | false => rfl
  | true =>
    rw [List.append_assoc, isComplete_append_of_isBlank hlead hcomplete] at hlonger
    exact hlonger

end SqliteAccess.Statement
