import Mathlib.Data.List.DropRight
import SqliteAccess.Statement.Split

/-!
# The statement of a piece

The blanks at both ends of a piece are removed up to the first and the last character that is no
blank. A piece with a character that is neither a blank nor a semicolon always has a statement, and
the characters around such a character are stripped on each side as if they stood alone.

## Main results

* `Text.strip_append_cons` : stripping acts on both sides of a character that is no blank.
* `Statement.statement?_append_cons` : the statement of a piece around such a character.
-/

namespace SqliteAccess

namespace Text

variable {p : Char → Bool} {q : Char}

theorem dropWhile_append_cons (hq : p q = false) (x t : Text) :
    (x ++ q :: t).dropWhile p = x.dropWhile p ++ q :: t := by
  induction x with
  | nil => simp [hq]
  | cons c x ih =>
    by_cases hc : p c = true
    · simp [hc, ih]
    · simp [hc]

theorem trimRight_append_cons (hq : p q = false) (x t : Text) :
    trimRight p (x ++ q :: t) = x ++ q :: trimRight p t := by
  have hreverse : (x ++ q :: t).reverse = t.reverse ++ q :: x.reverse := by simp
  simp [trimRight, hreverse, dropWhile_append_cons hq]

theorem strip_eq (t : Text) : strip t = trimRight isBlank (t.dropWhile isBlank) := rfl

theorem strip_append_cons (hq : isBlank q = false) (x t : Text) :
    strip (x ++ q :: t) = x.dropWhile isBlank ++ q :: trimRight isBlank t := by
  rw [strip_eq, dropWhile_append_cons hq, trimRight_append_cons hq]

/-- Dropping characters from the front removes none that is kept by another test. -/
theorem filter_dropWhile {keep : Char → Bool} (h : ∀ c, p c = true → keep c = false) (t : Text) :
    (t.dropWhile p).filter keep = t.filter keep := by
  induction t with
  | nil => rfl
  | cons c t ih =>
    by_cases hc : p c = true
    · simp [hc, h c hc, ih]
    · simp [hc]

theorem filter_strip {keep : Char → Bool} (h : ∀ c, isBlank c = true → keep c = false)
    (t : Text) : (strip t).filter keep = t.filter keep := by
  rw [strip_eq, trimRight, List.filter_reverse, filter_dropWhile h, List.filter_reverse,
    List.reverse_reverse, filter_dropWhile h]

theorem trimRight_trimRight (p : Char → Bool) (t : Text) :
    trimRight p (trimRight p t) = trimRight p t := List.rdropWhile_idempotent p t

theorem strip_strip (t : Text) : strip (strip t) = strip t := by
  have hhead := List.head?_dropWhile_not isBlank t
  cases hfront : t.dropWhile isBlank with
  | nil =>
    rw [strip_eq t, hfront]
    rfl
  | cons q x =>
    have hq : isBlank q = false := by simpa [hfront] using hhead
    have hstrip : strip t = q :: trimRight isBlank x := by
      rw [strip_eq, hfront]
      exact trimRight_append_cons hq [] x
    rw [hstrip]
    have hagain := strip_append_cons hq [] (trimRight isBlank x)
    rwa [trimRight_trimRight] at hagain

/-- The blanks in front of a text, what stripping leaves of it, and the blanks behind that. -/
theorem exists_strip (t : Text) :
    ∃ lead trail, (∀ c ∈ lead, isBlank c = true) ∧ t = lead ++ (strip t ++ trail) := by
  obtain ⟨trail, htrail⟩ := List.rdropWhile_prefix isBlank (t.dropWhile isBlank)
  refine ⟨t.takeWhile isBlank, trail, fun c hc => List.mem_takeWhile_imp hc, ?_⟩
  have hstrip : strip t ++ trail = t.dropWhile isBlank := htrail
  rw [hstrip, List.takeWhile_append_dropWhile]

theorem strip_infix_self (t : Text) : strip t <:+: t := by
  obtain ⟨lead, trail, -, ht⟩ := exists_strip t
  exact ⟨lead, trail, by rw [List.append_assoc, ← ht]⟩

end Text

namespace Statement

/-- The statement of a piece around a character that is neither a blank nor a semicolon. -/
theorem statement?_append_cons {q : Char} (hblank : Text.isBlank q = false) (hq : q ≠ ';')
    (x t : Text) :
    statement? (x ++ q :: t) =
      some (x.dropWhile Text.isBlank ++ q :: Text.trimRight Text.isBlank t) := by
  have hsemicolon : decide (q = ';') = false := by simpa using hq
  rw [statement?, Text.strip_append_cons hblank,
    Text.trimRight_append_cons (p := (· = ';')) hsemicolon, Text.strip_append_cons hblank,
    if_neg (by simp)]

/-- The statement of a piece is its own statement. -/
theorem statement?_of_eq_some {p s : Text} (h : statement? p = some s) :
    s = Text.strip p ∧ statement? s = some s := by
  obtain rfl : Text.strip p = s := by
    rw [statement?, Option.ite_none_left_eq_some] at h
    exact Option.some.inj h.2
  refine ⟨rfl, ?_⟩
  rw [← h, statement?, statement?, Text.strip_strip]

/-- Blanks in front of a text do not change its statement. -/
theorem statement?_append_of_isBlank {lead : Text} (hlead : ∀ c ∈ lead, Text.isBlank c = true)
    (t : Text) : statement? (lead ++ t) = statement? t := by
  have hstrip : Text.strip (lead ++ t) = Text.strip t := by
    rw [Text.strip_eq, List.dropWhile_append_of_pos hlead, Text.strip_eq]
  rw [statement?, hstrip, statement?]

end Statement

end SqliteAccess
