import Mathlib.Data.List.Infix
import SqliteAccess.Proofs.Statement.Pieces
import SqliteAccess.Proofs.Statement.Stripping

/-!
# What splitting keeps

A piece is dropped when nothing remains of it without the blanks at its ends and the semicolons
behind them. That is a coarse test: a piece such as `; ;` would pass it. But no such piece is ever
cut. Among blanks and semicolons the automaton stays at the start of a statement or inside one that
creates no trigger, so that the first semicolon completes it. The pieces that are dropped are
therefore exactly those without any other character, and every other character is found in the
statements again, once and in order.

## Main definitions

* `Statement.isContent`, `Statement.hasContent` : the characters that are neither blank nor
  semicolons, and the pieces with such a character.

## Main results

* `Statement.isComplete_of_isBlank` : a semicolon behind blanks completes a statement.
* `Statement.statement?_of_mem_segments` : the statement of a piece.
* `Statement.split_lossless` : what the statements of a script are.
-/

namespace SqliteAccess.Statement

open Text

/-- The characters that are neither blanks nor semicolons. -/
def isContent (c : Char) : Bool := !isBlank c && c ≠ ';'

/-- The texts with a character that is neither a blank nor a semicolon. -/
def hasContent (t : Text) : Bool := t.any isContent

theorem isContent_iff {c : Char} : isContent c = true ↔ isBlank c = false ∧ c ≠ ';' := by
  simp [isContent]

theorem isContent_eq_false_iff {c : Char} : isContent c = false ↔ isBlank c = true ∨ c = ';' := by
  simp [isContent, or_iff_not_imp_left]

theorem hasContent_eq_false_iff {t : Text} :
    hasContent t = false ↔ ∀ c ∈ t, isBlank c = true ∨ c = ';' := by
  simp [hasContent, isContent_eq_false_iff]

/-! ### Blanks and semicolons among the lexemes -/

/-- The characters of words stand behind all blanks in ASCII. -/
theorem le_of_isIdentifierChar {c : Char} (hc : isIdentifierChar c = true) : 0x24 ≤ c.toNat := by
  have hclasses : (c.isUpper || c.isLower || c.isDigit || c = '_' || c = '$' ||
      decide (0x80 ≤ c.toNat)) = true := hc
  simp only [Bool.or_eq_true, decide_eq_true_eq] at hclasses
  rcases hclasses with ((((hupper | hlower) | hdigit) | rfl) | rfl) | h
  · have hbounds : 0x41 ≤ c.toNat ∧ c.toNat ≤ 0x5a := of_decide_eq_true hupper
    omega
  · have hbounds : (decide (0x61 ≤ c.toNat) && decide (c.toNat ≤ 0x7a)) = true := hlower
    simp only [Bool.and_eq_true, decide_eq_true_eq] at hbounds
    omega
  · have hbounds : (decide (0x30 ≤ c.toNat) && decide (c.toNat ≤ 0x39)) = true := hdigit
    simp only [Bool.and_eq_true, decide_eq_true_eq] at hbounds
    omega
  · decide
  · decide
  · exact Nat.le_trans (by decide) h

theorem le_of_isBlank_of_isIdentifierChar {c : Char} (hblank : isBlank c = true)
    (hword : isIdentifierChar c = true) : 0x80 ≤ c.toNat := by
  have hbound := le_of_isIdentifierChar hword
  simp only [isBlank, Bool.or_eq_true, Bool.and_eq_true, decide_eq_true_eq] at hblank
  omega

/-- A region starts with neither a blank nor a semicolon. -/
theorem IsRegion.hasContent_start_append {g : Region} (hg : IsRegion g) (t : Text) :
    hasContent (g.start ++ t) = true := by
  have hstart : hasContent g.start = true := by
    cases hg with
    | quoted h => rcases h with rfl | rfl | rfl <;> decide
    | _ => decide
  rw [hasContent, List.any_append]
  exact Bool.or_eq_true_iff.2 (.inl hstart)

theorem Opens.hasContent {t : Text} {rem : Remainder} (h : Opens t rem) : hasContent t = true := by
  cases h with
  | region hg => exact hg.hasContent_start_append _

/-- Among blanks and semicolons a lexeme is a semicolon, a blank, or a word that is no keyword. -/
theorem Leads.cases_of_hasContent_eq_false {k : Lexeme} {x r : Text} (h : Leads k x r)
    (hx : Statement.hasContent x = false) :
    x = [';'] ∧ k = .semicolon ∨ ';' ∉ x ∧ (k = .blank ∨ k = .other) := by
  cases h with
  | semicolon => exact .inl ⟨rfl, rfl⟩
  | separator hc =>
    refine .inr ⟨?_, .inl rfl⟩
    rintro (_ | ⟨_, ⟨⟩⟩)
    exact absurd hc (by decide)
  | @region _ u _ hg hu =>
    rw [hg.hasContent_start_append u] at hx
    exact absurd hx (by decide)
  | word hw hchars hr =>
    have hsemicolon : ';' ∉ x := fun hmem => absurd (hchars _ hmem) (by decide)
    obtain ⟨c, hc⟩ := List.exists_mem_of_ne_nil x hw
    have hne : c ≠ ';' := by
      rintro rfl
      exact hsemicolon hc
    have hblank : isBlank c = true := (hasContent_eq_false_iff.1 hx c hc).resolve_right hne
    exact .inr ⟨hsemicolon, .inr (wordKind_of_mem hc
      (le_of_isBlank_of_isIdentifierChar hblank (hchars c hc)))⟩
  | symbol hc hr => exact .inr ⟨by simpa using Ne.symm hc.1, .inr rfl⟩

/-- The phases between blanks in which no statement is complete and no trigger has been begun. -/
theorem Phase.step_of_blank_or_other {phase : Phase} {k : Lexeme}
    (hphase : phase = .initial ∨ phase = .normal) (hk : k = .blank ∨ k = .other) :
    phase.step k = .initial ∨ phase.step k = .normal := by
  rcases hphase with rfl | rfl <;> rcases hk with rfl | rfl <;> decide

theorem completesFrom_of_isBlank {t u : Text} (ht : t = u ++ [';'])
    (hu : ∀ c ∈ u, isBlank c = true) {phase : Phase}
    (hphase : phase = .initial ∨ phase = .normal) : completesFrom phase t = true := by
  have hcontent : hasContent t = false := by
    rw [hasContent_eq_false_iff, ht, List.forall_mem_append]
    exact ⟨fun c hc => .inl (hu c hc), by simp⟩
  induction t using text_induction generalizing u phase with
  | nil => simp at ht
  | opens t rem h =>
    rw [h.hasContent] at hcontent
    exact absurd hcontent (by decide)
  | leads k x r hleads ih =>
    rw [hasContent, List.any_append, Bool.or_eq_false_iff] at hcontent
    rw [completesFrom_leads hleads]
    rcases hleads.cases_of_hasContent_eq_false hcontent.1 with ⟨rfl, rfl⟩ | ⟨hx, hk⟩
    · -- the semicolon is no blank, so it is the one at the end
      cases u with
      | nil =>
        obtain rfl : r = [] := by simpa using ht
        rw [completesFrom_nil]
        rcases hphase with rfl | rfl <;> rfl
      | cons c u =>
        obtain rfl : ';' = c := (List.cons.inj ht).1
        exact absurd (hu ';' List.mem_cons_self) (by decide)
    · obtain ⟨v, rfl, rfl⟩ := exists_of_semicolon_notMem hx ht
      exact ih rfl (fun c hc => hu c (List.mem_append_right x hc))
        (Phase.step_of_blank_or_other hphase hk) hcontent.2

/-- A semicolon behind blanks completes a statement. -/
theorem isComplete_of_isBlank {u : Text} (hu : ∀ c ∈ u, isBlank c = true) :
    isComplete (u ++ [';']) = true :=
  completesFrom_of_isBlank rfl hu (.inl rfl)

/-- A text of blanks and semicolons in which no semicolon completes a statement holds none. -/
theorem Uncut.isBlank_of_hasContent_eq_false {t : Text} (h : Uncut t)
    (ht : hasContent t = false) : ∀ c ∈ t, isBlank c = true := by
  rw [hasContent_eq_false_iff] at ht
  have hsemicolon : ';' ∉ t := by
    intro hmem
    obtain ⟨u, s, rfl, hu⟩ := List.eq_append_cons_of_mem hmem
    have hblank : ∀ c ∈ u, isBlank c = true := by
      intro c hc
      refine (ht c (List.mem_append_left _ hc)).resolve_right ?_
      rintro rfl
      exact hu hc
    exact absurd (isComplete_of_isBlank hblank) (by simp [h u s rfl])
  intro c hc
  refine (ht c hc).resolve_right ?_
  rintro rfl
  exact hsemicolon hc

/-! ### The statement of a piece -/

theorem strip_of_isBlank {t : Text} (ht : ∀ c ∈ t, isBlank c = true) : strip t = [] := by
  rw [strip_eq, List.dropWhile_eq_nil_iff.2 ht]
  rfl

theorem strip_append_semicolon (u : Text) : strip (u ++ [';']) = u.dropWhile isBlank ++ [';'] :=
  strip_append_cons (by decide) u []

theorem statement?_of_hasContent {p : Text} (hp : hasContent p = true) :
    statement? p = some (strip p) := by
  obtain ⟨q, hq, hcontent⟩ := List.any_eq_true.1 hp
  obtain ⟨hblank, hsemicolon⟩ := isContent_iff.1 hcontent
  obtain ⟨x, t, rfl⟩ := List.append_of_mem hq
  rw [statement?_append_cons hblank hsemicolon, strip_append_cons hblank]

/-- Blanks have no statement, with or without a semicolon behind them. -/
theorem statement?_of_isBlank {u : Text} (hu : ∀ c ∈ u, isBlank c = true) :
    statement? u = none ∧ statement? (u ++ [';']) = none := by
  constructor
  · rw [statement?, strip_of_isBlank hu]
    rfl
  · rw [statement?, strip_append_semicolon, List.dropWhile_eq_nil_iff.2 hu]
    rfl

theorem IsClosed.statement?_eq {p : Text} (h : IsClosed p) :
    statement? p = if hasContent p then some (strip p) else none := by
  split_ifs with hp
  · exact statement?_of_hasContent hp
  · obtain ⟨u, rfl, huncut, -⟩ := h
    rw [hasContent, List.any_append, Bool.or_eq_true, not_or] at hp
    have hu : hasContent u = false := Bool.not_eq_true _ ▸ hp.1
    exact (statement?_of_isBlank (huncut.isBlank_of_hasContent_eq_false hu)).2

theorem Uncut.statement?_eq {p : Text} (h : Uncut p) :
    statement? p = if hasContent p then some (strip p) else none := by
  split_ifs with hp
  · exact statement?_of_hasContent hp
  · rw [Bool.not_eq_true] at hp
    exact (statement?_of_isBlank (h.isBlank_of_hasContent_eq_false hp)).1

/-- The statement of a piece is the piece without the blanks at its ends, unless it consists of
blanks and semicolons. -/
theorem statement?_of_mem_segments {sql p : Text} {pieces : List Text}
    (h : segments sql = .ok pieces) (hp : p ∈ pieces) :
    statement? p = if hasContent p then some (strip p) else none := by
  obtain ⟨closed, last, rfl, -, hclosed, hlast⟩ := segments_spec h
  rcases List.mem_append.1 hp with hp | hp
  · exact (hclosed p hp).statement?_eq
  · obtain rfl := List.mem_singleton.1 hp
    exact hlast.statement?_eq

/-! ### The statements of a script -/

/-- Stripping removes nothing but blanks. -/
theorem filter_strip (t : Text) : (strip t).filter isContent = t.filter isContent :=
  Text.filter_strip (fun _ hc => by simp [isContent, hc]) t

/-- The statements of pieces hold the characters of the pieces that are neither blanks nor
semicolons, in order. -/
theorem filter_flatten_map_strip (pieces : List Text) :
    (((pieces.filter hasContent).map strip).flatten).filter isContent =
      pieces.flatten.filter isContent := by
  induction pieces with
  | nil => rfl
  | cons p pieces ih =>
    rw [List.flatten_cons, List.filter_append, ← ih]
    by_cases hp : hasContent p = true
    · rw [List.filter_cons_of_pos hp, List.map_cons, List.flatten_cons, List.filter_append,
        filter_strip]
    · have hnil : p.filter isContent = [] := by simpa [hasContent] using hp
      rw [List.filter_cons_of_neg hp, hnil, List.nil_append]

/-- A statement that a cut ends, ends with the semicolon of the cut. -/
theorem IsClosed.getLast?_eq {p s : Text} (h : IsClosed p) (hs : statement? p = some s) :
    s.getLast? = some ';' := by
  obtain ⟨u, rfl, -, -⟩ := id h
  rw [h.statement?_eq, Option.ite_none_right_eq_some] at hs
  obtain ⟨-, hs⟩ := hs
  rw [← Option.some.inj hs, strip_append_semicolon, List.getLast?_concat]

/-- **Splitting loses nothing.** The pieces of a script make up the script, and each of them but the
last ends with a semicolon. The statements are, in order, the pieces without the blanks at their
ends, except those of blanks and semicolons only. So every statement but the last ends with a
semicolon, and every character that is neither a blank nor a semicolon stands in one statement, in
the order of the script. -/
theorem split_lossless {sql : Text} {statements : List Text} (h : split sql = .ok statements) :
    ∃ pieces, segments sql = .ok pieces ∧ pieces.flatten = sql ∧
      statements = (pieces.filter hasContent).map strip ∧
      (∀ p ∈ pieces.dropLast, p.getLast? = some ';') ∧
      (∀ s ∈ statements.dropLast, s.getLast? = some ';') ∧
      statements.flatten.filter isContent = sql.filter isContent := by
  rw [split] at h
  cases hsegments : segments sql with
  | error e => simp [hsegments, Except.map] at h
  | ok pieces =>
    rw [hsegments] at h
    have hstatements : pieces.filterMap statement? = statements := Except.ok.inj h
    have hmap : statements = (pieces.filter hasContent).map strip := by
      rw [← hstatements, ← List.filterMap_eq_map, List.filterMap_filter]
      exact List.filterMap_congr fun p hp => statement?_of_mem_segments hsegments hp
    obtain ⟨closed, last, rfl, hflat, hclosed, -⟩ := segments_spec hsegments
    have hpieces : (closed ++ [last]).flatten = sql := by simpa using hflat
    refine ⟨closed ++ [last], rfl, hpieces, hmap, ?_, ?_, ?_⟩
    · intro p hp
      rw [List.dropLast_concat] at hp
      obtain ⟨u, rfl, -, -⟩ := hclosed p hp
      exact List.getLast?_concat
    · intro s hs
      rw [← hstatements, List.filterMap_append] at hs
      -- the last piece has at most one statement, which is then the last one
      have hmem : s ∈ closed.filterMap statement? := by
        cases hlast : statement? last with
        | none =>
          rw [List.filterMap_cons_none hlast, List.filterMap_nil, List.append_nil] at hs
          exact List.mem_of_mem_dropLast hs
        | some t =>
          rwa [List.filterMap_cons_some hlast, List.filterMap_nil, List.dropLast_concat] at hs
      obtain ⟨p, hp, hstatement⟩ := List.mem_filterMap.1 hmem
      exact (hclosed p hp).getLast?_eq hstatement
    · rw [hmap, filter_flatten_map_strip, hpieces]

/-- Two pieces without a statement between two pieces with one. -/
theorem split_lossless_semicolons :
    split "SELECT 1;\n ; ;\tSELECT ';' ".toList =
        .ok ["SELECT 1;".toList, "SELECT ';'".toList] ∧
      ∃ pieces, segments "SELECT 1;\n ; ;\tSELECT ';' ".toList = .ok pieces ∧
        ["SELECT 1;".toList, "SELECT ';'".toList] = (pieces.filter hasContent).map strip ∧
        (["SELECT 1;".toList, "SELECT ';'".toList].flatten).filter isContent =
          "SELECT 1;\n ; ;\tSELECT ';' ".toList.filter isContent := by
  have h : split "SELECT 1;\n ; ;\tSELECT ';' ".toList =
      .ok ["SELECT 1;".toList, "SELECT ';'".toList] := by decide +kernel
  obtain ⟨pieces, hsegments, -, hstatements, -, -, hfilter⟩ := split_lossless h
  exact ⟨h, pieces, hsegments, hstatements, hfilter⟩

end SqliteAccess.Statement
