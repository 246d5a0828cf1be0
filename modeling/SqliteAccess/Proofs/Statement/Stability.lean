import SqliteAccess.Proofs.Statement.Blanks
import SqliteAccess.Proofs.Statement.Nulls

/-!
# Splitting again

A script may be split in any portions that end with a cut, and its statements may be split again.
Both follow from what a cut depends on: the text in front of it, back to the cut before, and of that
text nothing that stripping removes, unless the cut comes later without it. When all blanks of a
script are blanks between lexemes, its statements may even be put together again.

## Main results

* `Statement.segments_flatten_append` : closed pieces in front of a text.
* `Statement.split_eq_singleton` : the statements that are split into themselves.
* `Statement.own_of_mem_split` : the statements of a script are such statements.
* `Statement.split_intercalate` : statements with blanks between them.
* `Statement.split_stable` : splitting is stable.
-/

namespace SqliteAccess.Statement

open Text

/-! ### Pieces in front of a text -/

/-- A text in which no semicolon completes a statement is a single piece. -/
theorem segments_of_uncut {t : Text} (h : Uncut t) (hnulls : NullsLast t) :
    segments t = .ok [t] := by
  obtain ⟨pieces, hpieces⟩ := exists_segments_iff.2 hnulls
  obtain ⟨closed, last, rfl, hflat, hclosed, -⟩ := segments_spec hpieces
  cases closed with
  | nil =>
    obtain rfl : last = t := hflat
    exact hpieces
  | cons p closed =>
    obtain ⟨u, rfl, -, hcomplete⟩ := hclosed p List.mem_cons_self
    have hcut := h u (closed.flatten ++ last) (by simp [← hflat])
    rw [hcomplete] at hcut
    exact nomatch hcut

/-- A closed piece is cut off the front of every text. -/
theorem IsClosed.segments_append {p : Text} (h : IsClosed p) (hnul : '\x00' ∉ p) (t : Text) :
    segments (p ++ t) = (segments t).map fun pieces => p :: pieces := by
  obtain ⟨u, rfl, huncut, hcomplete⟩ := h
  have hu : '\x00' ∉ u := fun h => hnul (List.mem_append_left _ h)
  have hopen : segments u = .ok ([] ++ [u]) := segments_of_uncut huncut (nullsLast_of_notMem hu)
  have hbehind := segmentsFrom_append_of_ok hopen (';' :: t)
  rw [segmentsFrom_semicolon hu, if_pos hcomplete] at hbehind
  rw [List.append_assoc, List.singleton_append, segments, hbehind, segments]
  cases segmentsFrom [] t with
  | error e => rfl
  | ok pieces => rfl

/-- Closed pieces are cut off the front of every text. -/
theorem segments_flatten_append {closed : List Text}
    (h : ∀ p ∈ closed, IsClosed p ∧ '\x00' ∉ p) (t : Text) :
    segments (closed.flatten ++ t) = (segments t).map fun pieces => closed ++ pieces := by
  induction closed with
  | nil =>
    cases hsegments : segments t with
    | error e => simp [hsegments, Except.map]
    | ok pieces => simp [hsegments, Except.map]
  | cons p closed ih =>
    obtain ⟨⟨hp, hnul⟩, hclosed⟩ := List.forall_mem_cons.1 h
    rw [List.flatten_cons, List.append_assoc, hp.segments_append hnul, ih hclosed]
    cases segments t with
    | error e => rfl
    | ok pieces => rfl

/-- The statements of closed pieces come in front of those of the text behind them. -/
theorem split_flatten_append {closed : List Text}
    (h : ∀ p ∈ closed, IsClosed p ∧ '\x00' ∉ p) (t : Text) :
    split (closed.flatten ++ t) =
      (split t).map fun statements => closed.filterMap statement? ++ statements := by
  rw [split, segments_flatten_append h, split]
  cases segments t with
  | error e => rfl
  | ok pieces => simp [Except.map]

/-- The closed pieces of a script alone have the same statements. -/
theorem split_flatten {closed : List Text} (h : ∀ p ∈ closed, IsClosed p ∧ '\x00' ∉ p) :
    split closed.flatten = .ok (closed.filterMap statement?) := by
  have hall := split_flatten_append h []
  have hnil : split [] = .ok [] := rfl
  rw [List.append_nil, hnil] at hall
  simpa [Except.map] using hall

/-- A text with an open end has at most one statement. -/
theorem split_of_uncut {t : Text} (h : Uncut t) (hnulls : NullsLast t) :
    split t = .ok (statement? t).toList := by
  rw [split, segments_of_uncut h hnulls]
  cases hstatement : statement? t with
  | none => simp [Except.map, hstatement]
  | some s => simp [Except.map, hstatement]

/-- A statement of its own, closed or with an open end, is split into itself. -/
theorem split_eq_singleton {s : Text} (hs : statement? s = some s)
    (h : Uncut s ∧ NullsLast s ∨ IsClosed s ∧ '\x00' ∉ s) : split s = .ok [s] := by
  rcases h with ⟨huncut, hnulls⟩ | hclosed
  · rw [split_of_uncut huncut hnulls, hs]
    rfl
  · have hsplit : split [s].flatten = .ok ([s].filterMap statement?) :=
      split_flatten (by simpa using hclosed)
    simpa [hs] using hsplit

/-! ### Texts without the blanks at their ends -/

theorem Uncut.of_front {s t : Text} (h : Uncut t) (hs : s <+: t) : Uncut s := by
  obtain ⟨r, rfl⟩ := hs
  rintro u v rfl
  exact h u (v ++ r) (by simp)

/-- An open end stays one without the blanks at the ends of the text. -/
theorem Uncut.strip {t : Text} (h : Uncut t) : Uncut (strip t) := by
  obtain ⟨lead, trail, hlead, ht⟩ := exists_strip t
  rw [ht] at h
  exact (h.of_append hlead).of_front (List.prefix_append _ _)

theorem NullsLast.strip {t : Text} (h : NullsLast t) : NullsLast (strip t) := by
  obtain ⟨lead, trail, -, ht⟩ := exists_strip t
  rw [ht] at h
  exact h.of_append_right.of_append_left

/-- What stripping leaves of a closed piece, which keeps its last semicolon. -/
theorem IsClosed.exists_strip {p : Text} (h : IsClosed p) :
    ∃ lead u, (∀ c ∈ lead, isBlank c = true) ∧ p = lead ++ strip p ∧
      strip p = u ++ [';'] ∧ Uncut u := by
  obtain ⟨u, rfl, huncut, -⟩ := h
  have hlead : ∀ c ∈ u.takeWhile isBlank, isBlank c = true := fun c hc => List.mem_takeWhile_imp hc
  have hu : u.takeWhile isBlank ++ u.dropWhile isBlank = u := List.takeWhile_append_dropWhile
  refine ⟨u.takeWhile isBlank, u.dropWhile isBlank, hlead, ?_, strip_append_semicolon u, ?_⟩
  · rw [strip_append_semicolon, ← List.append_assoc, hu]
  · rw [← hu] at huncut
    exact huncut.of_append hlead

/-- Without the blanks in front of it a closed piece may be open, but it is cut nowhere else. -/
theorem IsClosed.uncut_or_isClosed_strip {p : Text} (h : IsClosed p) :
    Uncut (Text.strip p) ∨ IsClosed (Text.strip p) := by
  obtain ⟨lead, u, -, -, hstrip, huncut⟩ := h.exists_strip
  rw [hstrip]
  cases hcomplete : isComplete (u ++ [';']) with
  | false => exact .inl (huncut.append_singleton fun _ => hcomplete)
  | true => exact .inr ⟨u, rfl, huncut, hcomplete⟩

/-- The pieces of a script with their statements: closed ones, and the last one. -/
theorem exists_statements {sql : Text} {statements : List Text}
    (h : split sql = .ok statements) :
    ∃ (closed : List Text) (last : Text), closed.flatten ++ last = sql ∧
      statements = closed.filterMap statement? ++ (statement? last).toList ∧
      (∀ p ∈ closed, IsClosed p ∧ '\x00' ∉ p) ∧ Uncut last ∧ NullsLast last := by
  obtain ⟨pieces, hpieces⟩ := exists_segments_iff.2 (exists_split_iff.1 ⟨statements, h⟩)
  obtain ⟨closed, last, rfl, -⟩ := segments_spec hpieces
  obtain ⟨hflat, hclosed, huncut, hnulls⟩ := segments_spec_of_concat hpieces
  refine ⟨closed, last, hflat, ?_, hclosed, huncut, hnulls⟩
  have hsplit := split_flatten_append hclosed last
  rw [hflat, h, split_of_uncut huncut hnulls] at hsplit
  exact Except.ok.inj hsplit

/-- Every statement of a script is a statement of its own, closed or with an open end. -/
theorem own_of_mem_split {sql s : Text} {statements : List Text} (h : split sql = .ok statements)
    (hs : s ∈ statements) :
    statement? s = some s ∧ (Uncut s ∧ NullsLast s ∨ IsClosed s ∧ '\x00' ∉ s) := by
  obtain ⟨closed, last, -, rfl, hclosed, huncut, hnulls⟩ := exists_statements h
  rcases List.mem_append.1 hs with hs | hs
  · obtain ⟨p, hp, hstatement⟩ := List.mem_filterMap.1 hs
    obtain ⟨rfl, hown⟩ := statement?_of_eq_some hstatement
    obtain ⟨hclosed, hnul⟩ := hclosed p hp
    have hnulls : '\x00' ∉ strip p := fun h => hnul ((strip_infix_self p).subset h)
    exact ⟨hown, hclosed.uncut_or_isClosed_strip.imp
      (fun h => ⟨h, nullsLast_of_notMem hnulls⟩) (fun h => ⟨h, hnulls⟩)⟩
  · obtain ⟨rfl, hown⟩ := statement?_of_eq_some (Option.mem_toList.1 hs)
    exact ⟨hown, .inl ⟨huncut.strip, hnulls.strip⟩⟩

/-- Every statement of a script is split into itself. -/
theorem split_of_mem {sql s : Text} {statements : List Text} (h : split sql = .ok statements)
    (hs : s ∈ statements) : split s = .ok [s] := by
  obtain ⟨hown, hcut⟩ := own_of_mem_split h hs
  exact split_eq_singleton hown hcut

/-! ### Statements with blanks between them -/

section Separators

variable {lead : Text} (hlead : ∀ c ∈ lead, isSeparator c = true)
include hlead

theorem notMem_of_isSeparator {c : Char} (hc : isSeparator c = false) : c ∉ lead := by
  intro hmem
  rw [hlead c hmem] at hc
  exact nomatch hc

theorem isBlank_of_isSeparator : ∀ c ∈ lead, isBlank c = true := by
  intro c hc
  have hseparator := hlead c hc
  simp only [isSeparator, Bool.or_eq_true, decide_eq_true_eq] at hseparator
  rcases hseparator with (((rfl | rfl) | rfl) | rfl) | rfl <;> decide

theorem Uncut.append_left {t : Text} (h : Uncut t) : Uncut (lead ++ t) := by
  intro u s hus
  obtain ⟨v, rfl, ht⟩ :=
    exists_of_semicolon_notMem (notMem_of_isSeparator hlead (by decide)) hus
  rw [List.append_assoc, isComplete_append_of_isSeparator hlead, h v s ht]

theorem IsClosed.append_left {p : Text} (h : IsClosed p) : IsClosed (lead ++ p) := by
  obtain ⟨u, rfl, huncut, hcomplete⟩ := h
  refine ⟨lead ++ u, (List.append_assoc _ _ _).symm, huncut.append_left hlead, ?_⟩
  rwa [isComplete_append_of_isSeparator hlead]

/-- A text with an open end has the same statement behind blanks between lexemes. -/
theorem split_append_of_uncut {t : Text} (h : Uncut t) (hnulls : NullsLast t) :
    split (lead ++ t) = .ok (statement? t).toList := by
  have hnul : '\x00' ∉ lead := notMem_of_isSeparator hlead (by decide)
  rw [split_of_uncut (h.append_left hlead) ((nullsLast_append_iff hnul t).2 hnulls),
    statement?_append_of_isBlank (isBlank_of_isSeparator hlead)]

/-- A closed statement is found behind blanks between lexemes, in front of every text. -/
theorem split_append_of_isClosed {s : Text} (h : IsClosed s) (hnul : '\x00' ∉ s)
    (hs : statement? s = some s) (t : Text) :
    split (lead ++ s ++ t) = (split t).map fun statements => s :: statements := by
  have hlead' : '\x00' ∉ lead := notMem_of_isSeparator hlead (by decide)
  have hclosed : ∀ p ∈ [lead ++ s], IsClosed p ∧ '\x00' ∉ p :=
    List.forall_mem_singleton.2 ⟨h.append_left hlead, by simp [hlead', hnul]⟩
  have hstatement : statement? (lead ++ s) = some s := by
    rw [statement?_append_of_isBlank (isBlank_of_isSeparator hlead), hs]
  simpa [hstatement] using split_flatten_append hclosed t

end Separators

/-- Closed statements and one with an open end are found again when blanks between lexemes are put
between them. -/
theorem split_intercalate {gap : Text} (hgap : ∀ c ∈ gap, isSeparator c = true)
    {closed : List Text} {last : Option Text}
    (hclosed : ∀ s ∈ closed, (IsClosed s ∧ '\x00' ∉ s) ∧ statement? s = some s)
    (hlast : ∀ s ∈ last, (Uncut s ∧ NullsLast s) ∧ statement? s = some s) (lead : Text)
    (hlead : ∀ c ∈ lead, isSeparator c = true) :
    split (lead ++ List.intercalate gap (closed ++ last.toList)) =
      .ok (closed ++ last.toList) := by
  induction closed generalizing lead with
  | nil =>
    cases last with
    | none => exact split_append_of_uncut hlead uncut_nil (nullsLast_of_notMem (by simp))
    | some s =>
      obtain ⟨⟨huncut, hnulls⟩, hs⟩ := hlast s rfl
      have hsplit := split_append_of_uncut hlead huncut hnulls
      rw [hs] at hsplit
      simpa using hsplit
  | cons s closed ih =>
    obtain ⟨⟨⟨hs, hnul⟩, hown⟩, hclosed⟩ := List.forall_mem_cons.1 hclosed
    have hfront := split_append_of_isClosed hlead hs hnul hown
    have hrest := ih hclosed gap hgap
    rw [List.cons_append]
    cases hstatements : closed ++ last.toList with
    | nil =>
      have hend := hfront []
      rw [List.append_nil] at hend
      rw [List.intercalate_singleton, hend]
      rfl
    | cons s' statements =>
      rw [hstatements] at hrest
      rw [List.intercalate_cons_cons, List.append_assoc, ← List.append_assoc, hfront, hrest]
      rfl

/-- A closed piece without other blanks than those between lexemes stays closed when it is
stripped. -/
theorem IsClosed.isClosed_strip {p : Text} (h : IsClosed p)
    (hblank : ∀ c ∈ p, isBlank c = true → isSeparator c = true) : IsClosed (Text.strip p) := by
  obtain ⟨lead, u, hlead, hp, hstrip, huncut⟩ := h.exists_strip
  have hseparators : ∀ c ∈ lead, isSeparator c = true := by
    intro c hc
    refine hblank c ?_ (hlead c hc)
    rw [hp]
    exact List.mem_append_left _ hc
  have hcomplete : isComplete p = true := by
    obtain ⟨-, -, -, hcomplete⟩ := h
    exact hcomplete
  rw [hp, isComplete_append_of_isSeparator hseparators, hstrip] at hcomplete
  rw [hstrip]
  exact ⟨u, rfl, huncut, hcomplete⟩

/-- **Splitting is stable.** What follows a script changes none of its cuts, so that the text behind
the last cut may be split apart from the rest, together with what follows it. Every statement is
split into itself. And if the blanks of a script are blanks between lexemes, its statements are
found again with any such blanks between them. -/
theorem split_stable :
    (∀ a b closed r, '\x00' ∉ a → '\x00' ∉ b → segments a = .ok (closed ++ [r]) →
      closed.flatten ++ r = a ∧
        ∃ before behind pieces, split closed.flatten = .ok before ∧ split (r ++ b) = .ok behind ∧
          segments (a ++ b) = .ok (closed ++ pieces) ∧
          split (a ++ b) = .ok (before ++ behind)) ∧
    ∀ sql statements, split sql = .ok statements →
      (∀ s ∈ statements, split s = .ok [s]) ∧
      ((∀ c ∈ sql, isBlank c = true → isSeparator c = true) →
        ∀ gap, (∀ c ∈ gap, isSeparator c = true) →
          split (List.intercalate gap statements) = .ok statements) := by
  refine ⟨fun a b closed r ha hb hsegments => ?_, fun sql statements hsplit => ⟨?_, ?_⟩⟩
  · obtain ⟨hflat, hclosed, -, -⟩ := segments_spec_of_concat hsegments
    have hnul : '\x00' ∉ r ++ b := by
      have hr : '\x00' ∉ r := fun h => ha (hflat ▸ List.mem_append_right _ h)
      simp [hr, hb]
    obtain ⟨pieces, hpieces⟩ := exists_segments_iff.2 (nullsLast_of_notMem hnul)
    obtain ⟨behind, hbehind⟩ := exists_split_iff.2 (nullsLast_of_notMem hnul)
    have hassoc : a ++ b = closed.flatten ++ (r ++ b) := by rw [← hflat, List.append_assoc]
    refine ⟨hflat, _, behind, pieces, split_flatten hclosed, hbehind, ?_, ?_⟩
    · rw [hassoc, segments_flatten_append hclosed, hpieces]
      rfl
    · rw [hassoc, split_flatten_append hclosed, hbehind]
      rfl
  · exact fun s hs => split_of_mem hsplit hs
  · intro hblank gap hgap
    obtain ⟨closed, last, rfl, rfl, hclosed, huncut, hnulls⟩ := exists_statements hsplit
    refine split_intercalate hgap ?_ ?_ [] (by simp)
    · intro s hs
      obtain ⟨p, hp, hstatement⟩ := List.mem_filterMap.1 hs
      obtain ⟨rfl, hown⟩ := statement?_of_eq_some hstatement
      obtain ⟨hclosed, hnul⟩ := hclosed p hp
      refine ⟨⟨hclosed.isClosed_strip fun c hc => hblank c ?_, ?_⟩, hown⟩
      · exact List.mem_append_left _ (List.mem_flatten_of_mem hp hc)
      · exact fun h => hnul ((strip_infix_self p).subset h)
    · intro s hs
      obtain ⟨rfl, hown⟩ := statement?_of_eq_some hs
      exact ⟨⟨huncut.strip, hnulls.strip⟩, hown⟩

/-- A trigger that ends in the text behind the script, a statement that creates a trigger only
without the blank in front of it, and statements on lines of their own. -/
theorem split_stable_trigger :
    let r := " CREATE TRIGGER t BEGIN SELECT 1;".toList
    let a := "SELECT ';';".toList ++ r
    let b := " END; SELECT 2".toList
    let glued := "\u00a0CREATE TRIGGER t BEGIN SELECT 1; END;".toList
    let statements := ["SELECT 1;".toList, "SELECT 2".toList]
    ('\x00' ∉ a ∧ '\x00' ∉ b ∧ segments a = .ok (["SELECT ';';".toList] ++ [r]) ∧
      ∃ before behind, split "SELECT ';';".toList = .ok before ∧ split (r ++ b) = .ok behind ∧
        split (a ++ b) = .ok (before ++ behind)) ∧
    (split glued = .ok ["CREATE TRIGGER t BEGIN SELECT 1;".toList, "END;".toList] ∧
      split "CREATE TRIGGER t BEGIN SELECT 1;".toList =
        .ok ["CREATE TRIGGER t BEGIN SELECT 1;".toList]) ∧
    split "SELECT 1;\tSELECT 2 ".toList = .ok statements ∧
      (∀ c ∈ "SELECT 1;\tSELECT 2 ".toList, isBlank c = true → isSeparator c = true) ∧
      split (List.intercalate "\n".toList statements) = .ok statements := by
  intro r a b glued statements
  have ha : '\x00' ∉ a := by decide
  have hb : '\x00' ∉ b := by decide
  have hsegments : segments a = .ok (["SELECT ';';".toList] ++ [r]) := by decide +kernel
  have hglued : split glued =
      .ok ["CREATE TRIGGER t BEGIN SELECT 1;".toList, "END;".toList] := by decide +kernel
  have hsplit : split "SELECT 1;\tSELECT 2 ".toList = .ok statements := by decide +kernel
  have hblank : ∀ c ∈ "SELECT 1;\tSELECT 2 ".toList, isBlank c = true → isSeparator c = true := by
    simp [isBlank, isSeparator]
  have hgap : ∀ c ∈ "\n".toList, isSeparator c = true := by simp [isSeparator]
  obtain ⟨-, before, behind, -, hbefore, hbehind, -, hall⟩ := split_stable.1 a b _ r ha hb hsegments
  refine ⟨⟨ha, hb, hsegments, before, behind, hbefore, hbehind, hall⟩, ⟨hglued, ?_⟩, hsplit, hblank,
    (split_stable.2 _ _ hsplit).2 hblank _ hgap⟩
  exact (split_stable.2 _ _ hglued).1 _ (by simp)

end SqliteAccess.Statement
