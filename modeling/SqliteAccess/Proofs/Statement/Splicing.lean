import SqliteAccess.Proofs.Statement.Cuts
import SqliteAccess.Proofs.Statement.Stripping
import SqliteAccess.Quoting

/-!
# Splicing quoted texts into scripts

The reader of scripts knows no doubled quotes: a quoted value with quotes inside is a row of
adjacent regions for it. All of them are lexemes of the kind `other`, and the automaton takes a row
of them as it takes one. So the phase behind a spliced value does not depend on the value, and
neither do the cuts.

## Main definitions

* `Statement.EndsOutside` : scripts whose last piece ends outside all regions.

## Main results

* `Statement.exists_lexemes_enclose` : the lexemes of a quoted text.
* `Statement.passFrom_others` : a row of other lexemes acts like one.
* `Statement.split_splice` : the statements around a spliced value.
-/

namespace SqliteAccess.Statement

/-! ### The lexemes of a quoted text -/

/-- A quoted text is a row of regions that are closed, whatever follows it. The text `u` is what
has been read of the first region. -/
theorem exists_lexemes_region {quote : Char} (hquote : IsRegionQuote quote) (v : Text) {u : Text}
    (hu : quote ∉ u) :
    ∃ ls : List (Lexeme × Text), ls ≠ [] ∧ (∀ l ∈ ls, l.1 = .other) ∧
      ls.flatMap (·.2) = [quote] ++ (u ++ Text.double quote v ++ [quote]) ∧
      ∀ t, read ([quote] ++ (u ++ Text.double quote v ++ [quote]) ++ t) =
        (ls ++ (read t).1, (read t).2) := by
  have hregion {u : Text} (hu : quote ∉ u) (t : Text) :
      Leads .other ([quote] ++ (u ++ [quote])) t :=
    .region (.quoted hquote) (through_eq_some_iff.2 ⟨u, hu, rfl, by simp⟩)
  induction v generalizing u with
  | nil =>
    refine ⟨[(.other, [quote] ++ (u ++ [quote]))], by simp, by simp, by simp, fun t => ?_⟩
    simpa using (hregion hu t).read_eq
  | cons c v ih =>
    by_cases hc : c = quote
    · subst hc
      obtain ⟨ls, -, hother, hflat, hread⟩ := ih (u := []) (by simp)
      refine ⟨(.other, [c] ++ (u ++ [c])) :: ls, by simp, by simpa using hother, ?_, fun t => ?_⟩
      · simp [hflat, Text.double]
      · have htail := (hregion hu ([c] ++ ([] ++ Text.double c v ++ [c]) ++ t)).read_eq
        rw [hread t] at htail
        simpa [Text.double] using htail
    · have hu' : quote ∉ u ++ [c] := by simpa [hu] using Ne.symm hc
      obtain ⟨ls, hnil, hother, hflat, hread⟩ := ih hu'
      refine ⟨ls, hnil, hother, ?_, fun t => ?_⟩
      · simpa [Text.double, hc] using hflat
      · simpa [Text.double, hc] using hread t

theorem exists_lexemes_enclose {quote : Char} (hquote : IsRegionQuote quote) (v : Text) :
    ∃ ls : List (Lexeme × Text), ls ≠ [] ∧ (∀ l ∈ ls, l.1 = .other) ∧
      ls.flatMap (·.2) = Text.enclose quote v ∧
      ∀ t, read (Text.enclose quote v ++ t) = (ls ++ (read t).1, (read t).2) := by
  simpa [Text.enclose] using exists_lexemes_region hquote v (u := []) (by simp)

/-! ### The single pass over a row of other lexemes -/

theorem Phase.step_other_step_other (phase : Phase) :
    (phase.step .other).step .other = phase.step .other := by
  cases phase <;> rfl

/-- A row of other lexemes acts like one of them, with the text of the whole row. -/
theorem passFrom_others {ls : List (Lexeme × Text)} (hother : ∀ l ∈ ls, l.1 = .other)
    (hnil : ls ≠ []) (phase : Phase) (piece rem : Text) (ms : List (Lexeme × Text)) :
    passFrom phase piece rem (ls ++ ms) =
      passFrom (phase.step .other) (piece ++ ls.flatMap (·.2)) rem ms := by
  induction ls generalizing phase piece with
  | nil => exact absurd rfl hnil
  | cons l ls ih =>
    obtain ⟨k, x⟩ := l
    obtain ⟨hk, hrest⟩ := List.forall_mem_cons.1 hother
    obtain rfl : k = .other := hk
    rw [List.cons_append, passFrom, if_neg (by simp)]
    by_cases hls : ls = []
    · simp [hls]
    · rw [ih hrest hls, Phase.step_other_step_other]
      simp

/-- The open piece stands in front of the first piece of the single pass and changes nothing
else. -/
theorem exists_passFrom_eq_cons (phase : Phase) (rem : Text) (ls : List (Lexeme × Text)) :
    ∃ first rest, ∀ piece, passFrom phase piece rem ls = (piece ++ first) :: rest := by
  induction ls generalizing phase with
  | nil => exact ⟨rem, [], fun piece => rfl⟩
  | cons l ls ih =>
    obtain ⟨k, x⟩ := l
    by_cases hcut : k = .semicolon ∧ phase.step k = .start
    · exact ⟨x, passFrom .initial [] rem ls, fun piece => by rw [passFrom, if_pos hcut]⟩
    · obtain ⟨first, rest, hpass⟩ := ih (phase.step k)
      refine ⟨x ++ first, rest, fun piece => ?_⟩
      rw [passFrom, if_neg hcut, hpass, List.append_assoc]

/-! ### The end of a script -/

/-- Whether the part of a script behind its last cut ends outside every quote, bracket and
comment. -/
def EndsOutside (sql : Text) : Prop :=
  ∃ closed last, segments sql = .ok (closed ++ [last]) ∧ (read last).2.1 = .none

/-- The last piece of the single pass is the whole text behind the open piece, or what remains of
it is what remains of the text. -/
theorem read_last_piece {t piece last : Text} {phase : Phase} {closed : List Text}
    (h : passFrom phase piece (read t).2.2 (read t).1 = closed ++ [last]) :
    (closed = [] ∧ last = piece ++ t) ∨ (read last).2 = (read t).2 := by
  induction t using text_induction generalizing piece phase closed with
  | nil =>
    have hsingle : [] ++ [piece ++ []] = closed ++ [last] := by simpa [read, passFrom] using h
    obtain ⟨hclosed, hlast⟩ := List.append_inj' hsingle rfl
    exact .inl ⟨hclosed.symm, (List.singleton_inj.1 hlast).symm⟩
  | opens t rem hopens =>
    have hsingle : [] ++ [piece ++ t] = closed ++ [last] := by
      simpa [hopens.read_eq, passFrom] using h
    obtain ⟨hclosed, hlast⟩ := List.append_inj' hsingle rfl
    exact .inl ⟨hclosed.symm, (List.singleton_inj.1 hlast).symm⟩
  | leads k x r hleads ih =>
    rw [hleads.read_eq] at h ⊢
    rw [passFrom] at h
    by_cases hcut : k = .semicolon ∧ phase.step k = .start
    · rw [if_pos hcut] at h
      cases closed with
      | nil => exact absurd (List.cons.inj h).2 (passFrom_ne_nil _ _ _ _)
      | cons c closed =>
        -- the pieces behind the cut are those of `r`, and their last one is the last of all
        rcases ih (List.cons.inj h).2 with ⟨-, rfl⟩ | hlast
        · exact .inr rfl
        · exact .inr hlast
    · rw [if_neg hcut] at h
      rcases ih h with ⟨hclosed, hlast⟩ | hlast
      · exact .inl ⟨hclosed, by rw [hlast, List.append_assoc]⟩
      · exact .inr hlast

/-- A script whose last piece ends outside all regions leaves nothing. -/
theorem EndsOutside.remainder_eq_none {sql : Text} (h : EndsOutside sql) (hnul : '\x00' ∉ sql) :
    (read sql).2.1 = .none := by
  obtain ⟨closed, last, hsegments, hlast⟩ := h
  have hpass : pass sql = closed ++ [last] :=
    Except.ok.inj ((segments_eq hnul).symm.trans hsegments)
  rcases read_last_piece hpass with ⟨-, rfl⟩ | hread
  · exact hlast
  · rwa [← hread]

/-! ### Splicing -/

/-- The pieces around a spliced region, which depend on the texts around it only. -/
theorem exists_pass_splice {p : Text} (s : Text) (hp : (read p).2.1 = .none) :
    ∃ closed first last rest, ∀ quote, IsRegionQuote quote → ∀ v,
      pass (p ++ Text.enclose quote v ++ s) =
        closed ++ [first ++ Text.enclose quote v ++ last] ++ rest := by
  obtain ⟨closed, first, -, hbefore⟩ := exists_passFrom_append .initial [] (read p).1
  obtain ⟨last, rest, hbehind⟩ := exists_passFrom_eq_cons
    ((passPhase .initial (read p).1).step .other) (read s).2.2 (read s).1
  refine ⟨closed, first, last, rest, fun quote hquote v => ?_⟩
  obtain ⟨ls, hnil, hother, hflat, hread⟩ := exists_lexemes_enclose hquote v
  have hneutral : ∀ d ∈ (Text.enclose quote v ++ s).head?, Neutral d := by
    intro d hd
    obtain rfl : quote = d := by simpa [Text.enclose] using hd
    exact neutral_of_isRegionQuote hquote
  have hwhole : read (p ++ Text.enclose quote v ++ s) =
      ((read p).1 ++ (ls ++ (read s).1), (read s).2) := by
    rw [List.append_assoc, read_append hp hneutral, hread s]
  calc pass (p ++ Text.enclose quote v ++ s)
      = passFrom .initial [] (read s).2.2 ((read p).1 ++ (ls ++ (read s).1)) := by
        rw [pass, hwhole]
    _ = closed ++ passFrom (passPhase .initial (read p).1) first (read s).2.2
          (ls ++ (read s).1) := hbefore _ _
    _ = closed ++ passFrom ((passPhase .initial (read p).1).step .other)
          (first ++ Text.enclose quote v) (read s).2.2 (read s).1 := by
        rw [passFrom_others hother hnil, hflat]
    _ = closed ++ [first ++ Text.enclose quote v ++ last] ++ rest := by
        rw [hbehind, List.append_assoc closed]
        rfl

/-- The statement of a piece with a quoted text in it. -/
theorem statement?_enclose {quote : Char} (hquote : IsRegionQuote quote) (v x y : Text) :
    statement? (x ++ Text.enclose quote v ++ y) =
      some (x.dropWhile Text.isBlank ++ Text.enclose quote v ++ Text.trimRight Text.isBlank y) := by
  have hblank : Text.isBlank quote = false := by rcases hquote with rfl | rfl | rfl <;> rfl
  have hsemicolon : quote ≠ ';' := by rcases hquote with rfl | rfl | rfl <;> decide
  have hstatement := statement?_append_cons hblank hsemicolon x
    (Text.double quote v ++ quote :: y)
  rw [Text.trimRight_append_cons hblank] at hstatement
  simpa [Text.enclose] using hstatement

theorem nul_notMem_enclose {quote : Char} (hquote : IsRegionQuote quote) {v : Text}
    (hv : '\x00' ∉ v) : '\x00' ∉ Text.enclose quote v := by
  have hne : '\x00' ≠ quote := by rcases hquote with rfl | rfl | rfl <;> decide
  simp [Text.enclose, Text.mem_double, hne, hv]

/-- **No value and no name changes the statements around it.** Between two texts, of which the
first ends outside the regions behind its last cut, every spliced value gives the same statements
but for the one that holds it, and in that one it stands between the same texts. -/
theorem split_splice (p s : Text) (hp : '\x00' ∉ p) (hs : '\x00' ∉ s) (houtside : EndsOutside p) :
    ∃ A C x y, ∀ v, '\x00' ∉ v →
      split (p ++ literal v ++ s) = .ok (A ++ [x ++ literal v ++ y] ++ C) ∧
        ∀ dialect : Dialect, split (p ++ dialect.identifier v ++ s) =
          .ok (A ++ [x ++ dialect.identifier v ++ y] ++ C) := by
  obtain ⟨closed, first, last, rest, hpass⟩ :=
    exists_pass_splice s (houtside.remainder_eq_none hp)
  have hsplit (quote : Char) (hquote : IsRegionQuote quote) (v : Text) (hv : '\x00' ∉ v) :
      split (p ++ Text.enclose quote v ++ s) = .ok (closed.filterMap statement? ++
        [first.dropWhile Text.isBlank ++ Text.enclose quote v ++
          Text.trimRight Text.isBlank last] ++ rest.filterMap statement?) := by
    have hnul : '\x00' ∉ p ++ Text.enclose quote v ++ s := by
      simp [hp, hs, nul_notMem_enclose hquote hv]
    have hmiddle : [first ++ Text.enclose quote v ++ last].filterMap statement? =
        [first.dropWhile Text.isBlank ++ Text.enclose quote v ++
          Text.trimRight Text.isBlank last] := by
      rw [List.filterMap_cons_some (statement?_enclose hquote v first last)]
      rfl
    rw [split, segments_eq hnul, hpass quote hquote v, ← hmiddle, ← List.filterMap_append,
      ← List.filterMap_append]
    rfl
  refine ⟨_, _, _, _, fun v hv => ⟨hsplit '\'' (by simp [IsRegionQuote]) v hv, fun dialect => ?_⟩⟩
  cases dialect with
  | sqlite => exact hsplit '"' (by simp [IsRegionQuote]) v hv
  | mysql => exact hsplit '\x60' (by simp [IsRegionQuote]) v hv

/-- A value with a quote, a semicolon and a comment mark behind the first of two statements. -/
theorem split_splice_comment :
    '\x00' ∉ "SELECT 1; SELECT (".toList ∧ '\x00' ∉ "); SELECT 2".toList ∧
      EndsOutside "SELECT 1; SELECT (".toList ∧
      ∃ A C x y, split ("SELECT 1; SELECT (".toList ++ literal "'; --".toList ++
          "); SELECT 2".toList) = .ok (A ++ [x ++ literal "'; --".toList ++ y] ++ C) := by
  have hp : '\x00' ∉ "SELECT 1; SELECT (".toList := by decide
  have hs : '\x00' ∉ "); SELECT 2".toList := by decide
  have houtside : EndsOutside "SELECT 1; SELECT (".toList :=
    ⟨["SELECT 1;".toList], " SELECT (".toList, by decide +kernel, by decide +kernel⟩
  obtain ⟨A, C, x, y, h⟩ := split_splice _ _ hp hs houtside
  exact ⟨hp, hs, houtside, A, C, x, y, (h _ (by decide)).1⟩

end SqliteAccess.Statement
