import Mathlib.Data.List.Forall2
import Mathlib.Data.List.Infix
import SqliteAccess.Proofs.Column.Blanking
import SqliteAccess.Proofs.Column.Grouping
import SqliteAccess.Proofs.Token.Joining

/-!
# Rebuilding a table

A table is rebuilt by taking its definition list apart, changing some of the entries, and writing
the statement again. Nothing is lost on either way: the entries of a written statement are read back
as they were, and what is read from a statement with a closed definition list can be written.

## Main definitions

* `Column.Spells` : texts that can stand for an entry.

## Main results

* `Column.tokens_createTable` : the tokens of a written statement.
* `Column.HasGroup.exists_tokens` : the group of a statement among its tokens.
* `Column.definitions_createTable` : both directions.
-/

namespace SqliteAccess.Column

open Token

/-! ### The tokens of a written statement -/

/-- The tokens in front of the definition list. -/
def frontTokens (table : Text) : List Text :=
  ["CREATE".toList, "TABLE".toList, Dialect.sqlite.identifier table]

/-- A word is a token if none of its characters is a space, a mark or a layout character. -/
theorem isToken_of_all {t : Text} (hne : t ≠ [])
    (h : (t.all fun c => c ≠ ' ' && !isPunctuation c && !isQuote c && !Text.isLayout c) = true) :
    IsToken t := by
  simp only [List.all_eq_true, Bool.and_eq_true, Bool.not_eq_true', decide_eq_true_eq] at h
  refine .word ⟨hne, fun c hc => ?_⟩ fun c hc => (h c hc).2
  obtain ⟨⟨⟨hspace, hpunctuation⟩, hquote⟩, -⟩ := h c hc
  exact ⟨hspace, hpunctuation, hquote⟩

theorem isToken_identifier (name : Text) : IsToken (Dialect.sqlite.identifier name) :=
  .quoted ⟨by decide, name, rfl⟩

/-- A quoted name has at least its two quotes. -/
theorem identifier_ne_singleton (name : Text) (c : Char) :
    Dialect.sqlite.identifier name ≠ [c] := by
  simp [Dialect.identifier, Text.enclose]

theorem isToken_frontTokens (table : Text) : ∀ t ∈ frontTokens table, IsToken t := by
  have hcreate : IsToken "CREATE".toList := isToken_of_all (by decide) (by decide)
  have htable : IsToken "TABLE".toList := isToken_of_all (by decide) (by decide)
  exact List.forall_mem_cons.2 ⟨hcreate, List.forall_mem_cons.2
    ⟨htable, List.forall_mem_singleton.2 (isToken_identifier table)⟩⟩

theorem opening_notMem_frontTokens (table : Text) : opening ∉ frontTokens table := by
  have hcreate : opening ≠ "CREATE".toList := by decide
  have htable : opening ≠ "TABLE".toList := by decide
  have hname : opening ≠ Dialect.sqlite.identifier table := (identifier_ne_singleton table '(').symm
  exact List.not_mem_cons_of_ne_of_not_mem hcreate
    (List.not_mem_cons_of_ne_of_not_mem htable
      (List.not_mem_cons_of_ne_of_not_mem hname List.not_mem_nil))

theorem join_frontTokens (table : Text) :
    join (frontTokens table) = "CREATE TABLE ".toList ++ Dialect.sqlite.identifier table := by
  have hspace : needsSpace "TABLE".toList (Dialect.sqlite.identifier table) = true := by
    simp [needsSpace, opening, closing, comma, identifier_ne_singleton]
  rw [frontTokens, join, joinAfter, joinAfter, joinAfter, if_pos hspace, if_pos (by decide),
    List.append_nil]
  rfl

theorem createTable_eq (table : Text) (entries : List Text) (behind : Text) :
    createTable table entries behind =
      join (frontTokens table) ++ (' ' :: '(' :: (List.intercalate ", ".toList entries ++
        (')' :: behind))) := by
  unfold createTable
  simp only [join_frontTokens, List.append_assoc]
  rfl

/-- A text that can stand for an entry of a definition list: it is read as the given tokens in front
of the punctuation that ends the entry, and none of it is layout outside quotes. -/
structure Spells (text : Text) (ts : List Text) : Prop where
  blankLayout_append : ∀ rest, blankLayout (text ++ rest) = text ++ blankLayout rest
  run_append : ∀ {c}, isPunctuation c = true → ∀ rest,
    Lexer.run {} (text ++ (c :: rest)) = ts ++ [c] :: Lexer.run {} rest

theorem isComplete_of_isToken {ts : List Text} (hts : ∀ t ∈ ts, IsToken t) :
    ∀ t ∈ ts, IsComplete t := fun t ht => (hts t ht).isComplete

theorem spells_join {ts : List Text} (hts : ∀ t ∈ ts, IsToken t) : Spells (join ts) ts where
  blankLayout_append := blankLayout_join_append hts
  run_append hc := Lexer.run_join_punctuation (isComplete_of_isToken hts) hc

theorem blankLayout_createTable {texts : List Text} {ds : List (List Text)}
    (h : List.Forall₂ Spells texts ds) (table behind : Text) :
    blankLayout (createTable table texts behind) =
      createTable table texts (blankLayout behind) := by
  have hcomma : ∀ c ∈ ", ".toList, isQuote c = false ∧ Text.isLayout c = false := by
    simp [isQuote, Text.isLayout]
  have hlist (rest : Text) : blankLayout (List.intercalate ", ".toList texts ++ rest) =
      List.intercalate ", ".toList texts ++ blankLayout rest := by
    induction h with
    | nil => rfl
    | cons hd hds ih =>
      cases hds with
      | nil => simpa using hd.blankLayout_append rest
      | cons hd' hds =>
        simp only [List.intercalate_cons_cons, List.append_assoc]
        rw [hd.blankLayout_append, blankLayout_append hcomma, ih]
  have hopen : ∀ c ∈ [' ', '('], isQuote c = false ∧ Text.isLayout c = false := by
    simp [isQuote, Text.isLayout]
  have hclose : ∀ c ∈ [')'], isQuote c = false ∧ Text.isLayout c = false := by
    simp [isQuote, Text.isLayout]
  have hstart (rest : Text) : blankLayout (' ' :: '(' :: rest) =
      ' ' :: '(' :: blankLayout rest := blankLayout_append hopen rest
  have hend : blankLayout (')' :: behind) = ')' :: blankLayout behind :=
    blankLayout_append hclose behind
  rw [createTable_eq, blankLayout_join_append (isToken_frontTokens table), hstart, hlist, hend,
    ← createTable_eq]

/-- Entries between commas are read token by token up to the end of their group. -/
theorem run_intercalate_append {texts : List Text} {ds : List (List Text)}
    (h : List.Forall₂ Spells texts ds) (rest : Text) :
    Lexer.run {} (List.intercalate ", ".toList texts ++ (')' :: rest)) =
      List.intercalate [comma] ds ++ closing :: Lexer.run {} rest := by
  induction h with
  | nil => exact Lexer.run_punctuation (by decide) rest
  | cons hd hds ih =>
    cases hds with
    | nil =>
      rw [List.intercalate_singleton, List.intercalate_singleton]
      exact hd.run_append (by decide) rest
    | cons hd' hds =>
      have hcomma (t : Text) : ", ".toList ++ t = ',' :: ' ' :: t := rfl
      rw [List.intercalate_cons_cons, List.append_assoc, List.append_assoc, hcomma,
        hd.run_append (by decide), Lexer.run_space, ih, List.intercalate_cons_cons,
        List.append_assoc, List.append_assoc]
      rfl

theorem tokens_createTable {texts : List Text} {ds : List (List Text)}
    (h : List.Forall₂ Spells texts ds) (table behind : Text) :
    tokens (blankLayout (createTable table texts behind)) =
      frontTokens table ++
        opening :: (List.intercalate [comma] ds ++ closing :: tokens (blankLayout behind)) := by
  rw [blankLayout_createTable h, createTable_eq, tokens,
    Lexer.run_join_append (isComplete_of_isToken (isToken_frontTokens table))
      (fun token _ => detached_space token _),
    Lexer.run_space, Lexer.run_punctuation (by decide), run_intercalate_append h]
  rfl

/-! ### The group among the tokens -/

/-- The definitions of a statement are the entries behind its first opening parenthesis. -/
theorem definitions_eq {sql : Text} {before group : List Text}
    (h : tokens (blankLayout sql) = before ++ opening :: group) (hbefore : opening ∉ before) :
    definitions sql = entries group := by
  have hdrop : ∀ t ∈ before, decide (t ≠ opening) = true := by
    intro t ht
    rw [decide_eq_true_eq]
    rintro rfl
    exact hbefore ht
  rw [definitions, h, List.dropWhile_append_of_pos hdrop, List.dropWhile_cons_of_neg (by simp)]
  rfl

/-- The depth behind tokens is read off their punctuation. -/
theorem depthAfter_eq (ts : List Text) :
    depthAfter ts = ((ts.filterMap mark?).count '(' : Int) - (ts.filterMap mark?).count ')' := by
  induction ts with
  | nil => rfl
  | cons t ts ih =>
    rw [depthAfter, ih]
    cases hmark : mark? t with
    | none =>
      have hopening : t ≠ opening := by rintro rfl; exact absurd hmark (by decide)
      have hclosing : t ≠ closing := by rintro rfl; exact absurd hmark (by decide)
      rw [List.filterMap_cons_none hmark, depthChange_of_ne hopening hclosing]
      omega
    | some c =>
      rw [List.filterMap_cons_some hmark]
      obtain ⟨rfl, hc⟩ := mark?_eq_some_iff.1 hmark
      simp only [isPunctuation, Bool.or_eq_true, decide_eq_true_eq] at hc
      rcases hc with (rfl | rfl) | rfl
      · simp [depthChange, opening]
        omega
      · simp [depthChange, opening, closing]
        omega
      · simp [depthChange, opening, closing]

theorem count_filter_isPunctuation {c : Char} (hc : isPunctuation c = true) (t : Text) :
    (t.filter isPunctuation).count c = t.count c := List.count_filter hc

/-- The punctuation tokens of a statement are its punctuation outside quotes. -/
theorem filterMap_mark_tokens (sql : Text) :
    (tokens (blankLayout sql)).filterMap mark? = (unquoted sql).filter isPunctuation := by
  rw [(lexing_tokens _).filterMap_mark, filter_unquoted_blankLayout]

section Filter

variable {ts : List Text} {x : Text} (h : x.filter isPunctuation = ts.filterMap mark?)

include h

/-- The depth behind tokens is that behind the characters whose punctuation they have. -/
theorem depthAfter_of_filter : depthAfter ts = (x.count '(' : Int) - x.count ')' := by
  rw [depthAfter_eq, ← h, count_filter_isPunctuation (by decide),
    count_filter_isPunctuation (by decide)]

theorem opening_notMem_of_filter (hx : '(' ∉ x) : opening ∉ ts := by
  intro hmem
  have hmark : '(' ∈ ts.filterMap mark? := List.mem_filterMap.2 ⟨opening, hmem, by decide⟩
  rw [← h] at hmark
  exact hx (List.mem_filter.1 hmark).1

end Filter

/-- A closed group, whose front parts can be checked one by one. -/
theorem HasGroup.of_inits {sql : Text} (before group behind : Text)
    (h : unquoted sql = before ++ '(' :: (group ++ ')' :: behind)) (hbefore : '(' ∉ before)
    (hnonneg : ∀ front ∈ group.inits, front.count ')' ≤ front.count '(')
    (hclosed : group.count ')' = group.count '(') : HasGroup sql :=
  ⟨before, group, behind, h, hbefore, fun front hfront =>
    hnonneg front ((List.mem_inits _ _).2 hfront), hclosed⟩

/-- A closed group outside quotes is a balanced group of tokens. -/
theorem HasGroup.exists_tokens {sql : Text} (h : HasGroup sql) :
    ∃ before group behind, tokens (blankLayout sql) =
      before ++ opening :: (group ++ closing :: behind) ∧ opening ∉ before ∧ Balanced group := by
  obtain ⟨before, group, behind, hunquoted, hbefore, hnonneg, hclosed⟩ := h
  have hmarks : (tokens (blankLayout sql)).filterMap mark? =
      before.filter isPunctuation ++
        '(' :: (group.filter isPunctuation ++ ')' :: behind.filter isPunctuation) := by
    rw [filterMap_mark_tokens, hunquoted]
    simp [isPunctuation]
  obtain ⟨ts, rest, htokens, hts, hrest⟩ := List.filterMap_eq_append_iff.1 hmarks
  obtain ⟨gap, token, rest, rfl, hgap, htoken, hrest⟩ := List.filterMap_eq_cons_iff.1 hrest
  obtain ⟨group', rest, rfl, hgroup, hrest⟩ := List.filterMap_eq_append_iff.1 hrest
  obtain ⟨gap', token', rest, rfl, hgap', htoken', -⟩ := List.filterMap_eq_cons_iff.1 hrest
  obtain ⟨rfl, -⟩ := mark?_eq_some_iff.1 htoken
  obtain ⟨rfl, -⟩ := mark?_eq_some_iff.1 htoken'
  have houtside : before.filter isPunctuation = (ts ++ gap).filterMap mark? := by
    rw [List.filterMap_append, hts, List.filterMap_eq_nil_iff.2 hgap, List.append_nil]
  have hinside : group.filter isPunctuation = (group' ++ gap').filterMap mark? := by
    rw [List.filterMap_append, hgroup, List.filterMap_eq_nil_iff.2 hgap', List.append_nil]
  refine ⟨ts ++ gap, group' ++ gap', rest, by simpa [opening, closing] using htokens,
    opening_notMem_of_filter houtside hbefore, ?_, ?_⟩
  · rintro front ⟨back, hfront⟩
    rw [← hfront, List.filterMap_append] at hinside
    obtain ⟨u, v, rfl, hu, -⟩ := List.filter_eq_append_iff.1 hinside
    have hcount := hnonneg u (List.prefix_append u v)
    rw [depthAfter_of_filter hu]
    omega
  · rw [depthAfter_of_filter hinside]
    omega

/-- The definitions of a statement with a closed definition list are entries. -/
theorem HasGroup.isEntry {sql : Text} (h : HasGroup sql) :
    ∀ d ∈ definitions sql, IsEntry d.tokens := by
  obtain ⟨before, group, behind, htokens, hbefore, hgroup⟩ := h.exists_tokens
  have hlexing : Lexing none (blankLayout sql) (tokens (blankLayout sql)) := lexing_run (by simp)
  have hassoc : tokens (blankLayout sql) = (before ++ opening :: group) ++ closing :: behind := by
    rw [htokens, List.append_assoc, List.cons_append]
  have htoken : ∀ t ∈ group, IsToken t := by
    intro t ht
    have hmem : t ∈ before ++ opening :: group := by simp [ht]
    refine isToken_of_mem (hassoc ▸ List.mem_append_left _ hmem) ?_
    exact Lexing.isComplete_of_append (hassoc ▸ hlexing) t hmem
  rw [definitions_eq htokens hbefore]
  exact isEntry_of_mem_entries hgroup htoken

/-! ### Both directions -/

/-- The entries of a written statement are its definitions. -/
theorem definitions_createTable_of_spells {texts : List Text} {ds : List (List Text)}
    (h : List.Forall₂ Spells texts ds) (hds : ∀ d ∈ ds, IsEntry d) (table behind : Text) :
    definitions (createTable table texts behind) = ds.map Definition.mk := by
  rw [definitions_eq (tokens_createTable h table behind) (opening_notMem_frontTokens table),
    entries_intercalate_append hds]

theorem definitions_createTable_map_join {ds : List (List Text)} (hds : ∀ d ∈ ds, IsEntry d)
    (table behind : Text) :
    definitions (createTable table (ds.map join) behind) = ds.map Definition.mk := by
  refine definitions_createTable_of_spells ?_ hds table behind
  exact List.forall₂_map_left_iff.2 (List.forall₂_same.2 fun d hd => spells_join (hds d hd).isToken)

/-- **A table is rebuilt without loss.** The entries that a statement is written from are its
definitions, whatever the name of the table and the text behind the list. And the definitions of a
statement with a closed definition list are entries, so that the statement written from them has the
same definitions. -/
theorem definitions_createTable (table behind : Text) :
    (∀ ds : List (List Text), (∀ d ∈ ds, IsEntry d) →
      definitions (createTable table (ds.map join) behind) = ds.map Definition.mk) ∧
    ∀ sql, HasGroup sql → (∀ d ∈ definitions sql, IsEntry d.tokens) ∧
      definitions (createTable table ((definitions sql).map Definition.text) behind) =
        definitions sql := by
  refine ⟨fun ds hds => definitions_createTable_map_join hds table behind, fun sql hsql => ?_⟩
  have hentry : ∀ d ∈ (definitions sql).map Definition.tokens, IsEntry d :=
    List.forall_mem_map.2 hsql.isEntry
  have hrebuilt := definitions_createTable_map_join hentry table behind
  rw [List.map_map, List.map_map] at hrebuilt
  refine ⟨hsql.isEntry, hrebuilt.trans ?_⟩
  exact List.map_id (definitions sql)

/-- A name with a comma, a parenthesis and a line break, and a type with a group of its own. -/
theorem definitions_createTable_numeric :
    HasGroup "CREATE TABLE t (\"a,(\n\" INT,\tv NUMERIC(10,2)) STRICT".toList ∧
      (∀ d ∈ [["\"a,(\n\"".toList, "INT".toList], ["v".toList, "NUMERIC".toList, opening,
        "10".toList, comma, "2".toList, closing]], IsEntry d) ∧
      definitions (createTable "a \"t\"".toList ([["\"a,(\n\"".toList, "INT".toList],
          ["v".toList, "NUMERIC".toList, opening, "10".toList, comma, "2".toList,
            closing]].map join) ";(".toList) =
        definitions "CREATE TABLE t (\"a,(\n\" INT,\tv NUMERIC(10,2)) STRICT".toList ∧
      definitions (createTable "a \"t\"".toList
          ((definitions "CREATE TABLE t (\"a,(\n\" INT,\tv NUMERIC(10,2)) STRICT".toList).map
            Definition.text) ";(".toList) =
        definitions "CREATE TABLE t (\"a,(\n\" INT,\tv NUMERIC(10,2)) STRICT".toList := by
  have hsql : HasGroup "CREATE TABLE t (\"a,(\n\" INT,\tv NUMERIC(10,2)) STRICT".toList :=
    .of_inits "CREATE TABLE t ".toList " INT,\tv NUMERIC(10,2)".toList " STRICT".toList
      (by decide) (by decide) (by decide) (by decide)
  have hsplit : definitions "CREATE TABLE t (\"a,(\n\" INT,\tv NUMERIC(10,2)) STRICT".toList =
      [["\"a,(\n\"".toList, "INT".toList], ["v".toList, "NUMERIC".toList, opening, "10".toList,
        comma, "2".toList, closing]].map Definition.mk := by decide +kernel
  have h := definitions_createTable "a \"t\"".toList ";(".toList
  obtain ⟨hentries, hrebuilt⟩ := h.2 _ hsql
  have hds := List.forall_mem_map.1 (hsplit ▸ hentries)
  exact ⟨hsql, hds, (h.1 _ hds).trans hsplit.symm, hrebuilt⟩

end SqliteAccess.Column
