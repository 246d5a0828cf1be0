import SqliteAccess.Proofs.Column.Dividing
import SqliteAccess.Proofs.Token.Regions

/-!
# Statements with another layout

The columns of a statement do not depend on how it is laid out. Two readers share this task: the
first one reads layout characters outside the quoted regions as spaces and finds the regions without
lookahead, and the second one is the lexer. They find the same regions in every text, so a run of
spaces and layout characters outside the regions cuts the text for both, whatever it is made of, and
inside the regions every character stays as it is.

## Main definitions

* `Column.blankOutside` : what becomes of a character in a region or outside all regions.
* `Column.IsBlankRun` : runs of spaces and layout characters.

## Main results

* `Column.blankFrom_eq_zipWith` : a character is changed exactly outside the regions.
* `Column.tokens_blankLayout_append` : a run cuts the tokens of a statement.
* `Column.isInfix_of_mem_quoted` : a quoted token is copied from the statement.
* `Column.definitions_relayout` : all of it for the definitions of a statement.
-/

namespace SqliteAccess.Column

open Token

/-- What becomes of a character that belongs to a region or does not. -/
def blankOutside (quoted : Bool) (c : Char) : Char := if quoted then c else blankChar c

/-- A run of spaces and layout characters. -/
structure IsBlankRun (run : Text) : Prop where
  ne_nil : run ≠ []
  blank : ∀ c ∈ run, Text.isNumberBlank c = true

/-! ### Regions of the changed text -/

/-- One character is changed as its region says, and the next ones are read in the region behind
it. -/
theorem blankFrom_cons (quote : Option Char) (c : Char) (rest : Text) :
    blankFrom quote (c :: rest) = blankOutside (quote.isSome || (quoteStep quote c).isSome) c ::
      blankFrom (quoteStep quote c) rest := by
  cases quote with
  | some q => rfl
  | none =>
    by_cases hc : isQuote c = true
    · simp [blankFrom, quoteStep, hc, blankOutside]
    · simp [blankFrom, quoteStep, hc, blankOutside, blankChar]

/-- **A character is changed exactly outside the regions.** -/
theorem blankFrom_eq_zipWith (quote : Option Char) (sql : Text) :
    blankFrom quote sql = List.zipWith blankOutside (quotedMarks quote sql) sql := by
  induction sql generalizing quote with
  | nil => rfl
  | cons c rest ih => rw [blankFrom_cons, ih, quotedMarks_cons, List.zipWith_cons_cons]

theorem quoteStep_blankOutside (quote : Option Char) (c : Char) :
    quoteStep quote (blankOutside (quote.isSome || (quoteStep quote c).isSome) c) =
      quoteStep quote c := by
  cases quote with
  | some q => rfl
  | none =>
    by_cases hc : isQuote c = true
    · simp [quoteStep, hc, blankOutside]
    · simp [quoteStep, hc, blankOutside, isQuote_blankChar (Bool.not_eq_true _ ▸ hc)]

/-- The changed text has the same regions. -/
theorem quotedMarks_blankFrom (quote : Option Char) (sql : Text) :
    quotedMarks quote (blankFrom quote sql) = quotedMarks quote sql := by
  induction sql generalizing quote with
  | nil => rfl
  | cons c rest ih =>
    rw [blankFrom_cons, quotedMarks_cons, quoteStep_blankOutside, ih, quotedMarks_cons]

theorem quoteAfter_blankFrom (quote : Option Char) (sql : Text) :
    quoteAfter quote (blankFrom quote sql) = quoteAfter quote sql := by
  induction sql generalizing quote with
  | nil => rfl
  | cons c rest ih =>
    rw [blankFrom_cons, quoteAfter_cons, quoteStep_blankOutside, ih, quoteAfter_cons]

theorem blankFrom_append (quote : Option Char) (a b : Text) :
    blankFrom quote (a ++ b) = blankFrom quote a ++ blankFrom (quoteAfter quote a) b := by
  induction a generalizing quote with
  | nil => rfl
  | cons c a ih =>
    rw [List.cons_append, blankFrom_cons, ih, blankFrom_cons, quoteAfter_cons, List.cons_append]

/-- A part of the changed text comes from a part of the text. -/
theorem exists_append_of_blankFrom {quote : Option Char} {sql x y : Text}
    (h : blankFrom quote sql = x ++ y) :
    ∃ a b, sql = a ++ b ∧ blankFrom quote a = x ∧ blankFrom (quoteAfter quote a) b = y := by
  induction x generalizing quote sql with
  | nil => exact ⟨[], sql, rfl, rfl, h⟩
  | cons c x ih =>
    cases sql with
    | nil => simp [blankFrom] at h
    | cons d sql =>
      rw [blankFrom_cons, List.cons_append] at h
      obtain ⟨hc, hrest⟩ := List.cons.inj h
      obtain ⟨a, b, rfl, ha, hb⟩ := ih hrest
      exact ⟨d :: a, b, rfl, by rw [blankFrom_cons, hc, ha], hb⟩

/-- A text without characters outside the regions stays. -/
theorem blankFrom_eq_self {quote : Option Char} {sql : Text} (h : unquotedFrom quote sql = []) :
    blankFrom quote sql = sql := by
  induction sql generalizing quote with
  | nil => rfl
  | cons c rest ih =>
    cases quote with
    | some q => exact congrArg _ (ih h)
    | none =>
      by_cases hc : isQuote c = true
      · rw [unquotedFrom, if_pos hc] at h
        rw [blankFrom, if_pos hc, ih h]
      · rw [unquotedFrom, if_neg hc] at h
        exact absurd h (List.cons_ne_nil _ _)

/-! ### Runs -/

theorem isQuote_of_isNumberBlank {c : Char} (h : Text.isNumberBlank c = true) :
    isQuote c = false := by
  simp only [Text.isNumberBlank, Text.isLayout, Bool.or_eq_true, decide_eq_true_eq] at h
  rcases h with rfl | (((rfl | rfl) | rfl) | rfl) | rfl <;> decide

theorem blankChar_of_isNumberBlank {c : Char} (h : Text.isNumberBlank c = true) :
    blankChar c = ' ' := by
  simp only [Text.isNumberBlank, Text.isLayout, Bool.or_eq_true, decide_eq_true_eq] at h
  rcases h with rfl | (((rfl | rfl) | rfl) | rfl) | rfl <;> decide

theorem blankFrom_eq_map {t : Text} (ht : ∀ c ∈ t, isQuote c = false) :
    blankFrom none t = t.map blankChar := by
  induction t with
  | nil => rfl
  | cons c t ih =>
    obtain ⟨hc, ht⟩ := List.forall_mem_cons.1 ht
    have hstep : quoteStep none c = none := by simp [quoteStep, hc]
    rw [blankFrom_cons, hstep, ih ht]
    rfl

/-- A run is read as spaces, and there is at least one of them. -/
theorem IsBlankRun.exists_blankFrom {run : Text} (h : IsBlankRun run) :
    quoteAfter none run = none ∧ ∃ gap, IsGap gap ∧ blankFrom none run = ' ' :: gap := by
  have hquote : ∀ c ∈ run, isQuote c = false := fun c hc => isQuote_of_isNumberBlank (h.blank c hc)
  refine ⟨quoteAfter_of_forall (by simp) hquote, ?_⟩
  rw [blankFrom_eq_map hquote]
  obtain ⟨c, rest, rfl⟩ := List.exists_cons_of_ne_nil h.ne_nil
  obtain ⟨hc, hrest⟩ := List.forall_mem_cons.1 h.blank
  refine ⟨rest.map blankChar, ?_, by rw [List.map_cons, blankChar_of_isNumberBlank hc]⟩
  exact List.forall_mem_map.2 fun d hd => blankChar_of_isNumberBlank (hrest d hd)

/-- **A run outside the regions cuts the tokens of a statement**, whatever it is made of. -/
theorem tokens_blankLayout_append {a run : Text} (ha : quoteAfter none a = none)
    (hrun : IsBlankRun run) (b : Text) :
    tokens (blankLayout (a ++ run ++ b)) = tokens (blankLayout a) ++ tokens (blankLayout b) := by
  obtain ⟨hafter, gap, hgap, hblank⟩ := hrun.exists_blankFrom
  have hfront : quoteAfter none (blankLayout a) = none := (quoteAfter_blankFrom none a).trans ha
  have hread : tokens (gap ++ blankLayout b) = tokens (blankLayout b) := Lexer.run_gap hgap _
  have hlayout : blankLayout (a ++ run ++ b) = blankLayout a ++ ' ' :: (gap ++ blankLayout b) := by
    simp only [blankLayout, blankFrom_append, ha, hafter, hblank, List.append_assoc,
      List.cons_append]
  rw [hlayout, tokens_append_space hfront, hread]

/-! ### Tokens of definitions -/

theorem mem_of_mem_splitWhere {cut : List Text → Text → Bool} {before piece tokens p : List Text}
    {t : Text} (hp : p ∈ splitWhere cut before piece tokens) (ht : t ∈ p) :
    t ∈ piece ++ tokens := by
  induction tokens generalizing before piece with
  | nil =>
    obtain rfl := List.mem_singleton.1 hp
    simpa using ht
  | cons token rest ih =>
    rw [splitWhere] at hp
    split_ifs at hp with hcut
    · rcases List.mem_cons.1 hp with rfl | hp
      · exact List.mem_append_left _ ht
      · have hrest := ih hp
        simp only [List.nil_append] at hrest
        simp [hrest]
    · simpa using ih hp

/-- The tokens of definitions are tokens of the statement. -/
theorem mem_tokens_of_mem_definitions {sql : Text} {d : Definition} (hd : d ∈ definitions sql)
    {t : Text} (ht : t ∈ d.tokens) : t ∈ tokens (blankLayout sql) := by
  rw [definitions, entries_eq] at hd
  obtain ⟨p, hp, rfl⟩ := List.mem_map.1 hd
  have hgroup := mem_of_mem_splitWhere (List.mem_filter.1 hp).1 ht
  have hbehind := (isGroup_groupOf _).isPrefix.subset hgroup
  exact (List.dropWhile_sublist _).subset (List.mem_of_mem_tail hbehind)

/-- The words of the changed text hold no blanks. -/
theorem isNumberBlank_of_mem_word {sql word : Text} (hmem : word ∈ tokens (blankLayout sql))
    (hword : IsWord word) : ∀ c ∈ word, Text.isNumberBlank c = false := by
  intro c hc
  have hspace : c ≠ ' ' := (hword.2 c hc).1
  simp [Text.isNumberBlank, hspace, isLayout_of_mem_word hmem hword c hc]

/-- The regions of the changed text are copied from the text. -/
theorem isInfix_of_mem_quoted {sql token : Text} (hmem : token ∈ tokens (blankLayout sql))
    (hquoted : classify token = .ok .quoted) : token <:+: sql := by
  obtain ⟨front, back, htext, hfront⟩ := (lexing_tokens _).exists_append token hmem
  obtain ⟨a, rest, hsql, ha, hrest⟩ := exists_append_of_blankFrom htext
  rw [← ha, quoteAfter_blankFrom] at hfront
  rw [hfront] at hrest
  obtain ⟨part, b, rfl, hpart, -⟩ := exists_append_of_blankFrom hrest
  -- the part leaves nothing outside its regions, because the token does
  have hnothing : unquoted part = [] := by
    obtain ⟨shape, hshape⟩ := (lexing_tokens _).exists_shape token hmem
    have hmap := unquoted_blankLayout part
    rw [blankLayout, hpart, hshape.unquoted_eq_nil hquoted] at hmap
    exact List.map_eq_nil_iff.1 hmap.symm
  obtain rfl : part = token := (blankFrom_eq_self hnothing).symm.trans hpart
  exact ⟨a, b, by rw [hsql, List.append_assoc]⟩

/-! ### Definitions -/

/-- **The layout of a statement does not matter.** A run of blanks that stands outside the quoted
regions can be replaced by any other one, words hold no blanks, and quoted tokens are copied from
the statement with all of theirs. Behind every front of the statement both readers are in the same
region. So the characters that are changed are those that the lexer reads outside the regions, and
it reads the same ones outside them in the changed text. -/
theorem definitions_relayout (sql : Text) :
    (∀ a run b, sql = a ++ run ++ b → (Lexer.scan {} a).2.mode ≠ .quoted → IsBlankRun run →
      ∀ other, IsBlankRun other → definitions (a ++ other ++ b) = definitions sql) ∧
    (∀ d ∈ definitions sql, ∀ t ∈ d.tokens,
      (classify t = .ok .word → ∀ c ∈ t, Text.isNumberBlank c = false) ∧
      (classify t = .ok .quoted → t <:+: sql)) ∧
    (∀ a b, sql = a ++ b → ∃ quote, (Lexer.scan {} a).2.IsAt quote ∧
      blankLayout sql = blankLayout a ++ blankFrom quote b) ∧
    blankLayout sql = List.zipWith blankOutside (Lexer.quotedMarks {} sql) sql ∧
    Lexer.quotedMarks {} (blankLayout sql) = Lexer.quotedMarks {} sql := by
  have hat : Lexer.IsAt {} none := .outside []
  refine ⟨?_, fun d hd t ht => ?_, ?_, ?_, ?_⟩
  · rintro a run b rfl houtside hrun other hother
    have ha := (Lexer.mode_scan_iff a).1 houtside
    rw [definitions, definitions, tokens_blankLayout_append ha hother,
      tokens_blankLayout_append ha hrun]
  · have hmem := mem_tokens_of_mem_definitions hd ht
    obtain ⟨shape, hshape⟩ := (lexing_tokens _).exists_shape t hmem
    exact ⟨fun hword => isNumberBlank_of_mem_word hmem (hshape.isWord hword),
      isInfix_of_mem_quoted hmem⟩
  · rintro a b rfl
    exact ⟨quoteAfter none a, Lexer.isAt_scan hat a, blankFrom_append none a b⟩
  · rw [Lexer.quotedMarks_eq hat]
    exact blankFrom_eq_zipWith none sql
  · rw [Lexer.quotedMarks_eq hat, Lexer.quotedMarks_eq hat]
    exact quotedMarks_blankFrom none sql

/-- Two lines become one. The doubled quote keeps the line break and the tab behind it in their
region, and so does the region that is not closed. -/
theorem definitions_relayout_lines :
    let front := "CREATE TABLE t (a 'x''\n\t',".toList
    let back := "b \"c\r".toList
    let sql := front ++ "\r\n\t".toList ++ back
    definitions (front ++ " ".toList ++ back) = definitions sql ∧
      definitions sql = [⟨["a".toList, "'x''\n\t'".toList]⟩, ⟨["b".toList, "\"c\r".toList]⟩] ∧
      "'x''\n\t'".toList <:+: sql ∧ "\"c\r".toList <:+: sql := by
  intro front back sql
  obtain ⟨hrelayout, htokens, -⟩ := definitions_relayout sql
  have houtside : (Lexer.scan {} front).2.mode ≠ .quoted := by decide
  have hdefinitions : definitions sql =
      [⟨["a".toList, "'x''\n\t'".toList]⟩, ⟨["b".toList, "\"c\r".toList]⟩] := by decide +kernel
  have hrun : IsBlankRun "\r\n\t".toList := ⟨by decide, List.all_eq_true.1 (by decide)⟩
  have hother : IsBlankRun " ".toList := ⟨by decide, List.all_eq_true.1 (by decide)⟩
  rw [hdefinitions] at htokens
  obtain ⟨hfirst, hsecond⟩ := List.forall_mem_cons.1 htokens
  have hlast := List.forall_mem_singleton.1 hsecond
  exact ⟨hrelayout front _ back rfl houtside hrun _ hother, hdefinitions,
    (hfirst "'x''\n\t'".toList (by decide)).2 (by decide),
    (hlast "\"c\r".toList (by decide)).2 (by decide)⟩

end SqliteAccess.Column
