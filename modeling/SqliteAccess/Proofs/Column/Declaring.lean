import SqliteAccess.Proofs.Column.Rebuilding
import SqliteAccess.Proofs.Token.Splicing

/-!
# Reading declared columns

The name of a column is one token, whatever characters it holds, and the space behind it keeps it
apart from the type. So the definitions of a statement that is written from declarations have the
declared names and types. None of them is a table constraint, because no keyword starts with a
quote.

## Main results

* `Column.IsEntry.append` : two entries in a row are one entry.
* `Column.spells_identifier_append` : a quoted name with tokens behind it.
* `Column.Declaration.isEntry_tokens` : the tokens of a declaration are an entry.
* `Column.Declaration.spells_text` : the text of a declaration is read as its tokens.
* `Column.definitions_createTable_declarations` : names and types survive.
-/

namespace SqliteAccess.Column

open Token

/-! ### Entries in a row -/

theorem StaysInside.of_front {depth : Int} {s t : List Text} (h : StaysInside depth t)
    (hs : s <+: t) : StaysInside depth s where
  nonneg front hfront := h.nonneg front (hfront.trans hs)
  comma front hfront := h.comma front (hfront.trans hs)

/-- Tokens that stay inside an entry may follow others that do. -/
theorem StaysInside.append {depth : Int} {s t : List Text} (hs : StaysInside depth s)
    (ht : StaysInside (depth + depthAfter s) t) : StaysInside depth (s ++ t) := by
  induction t using List.reverseRecOn with
  | nil => simpa using hs
  | append_singleton t token ih =>
    have hdepth := ht.nonneg (t ++ [token]) List.prefix_rfl
    rw [← List.append_assoc]
    refine (ih (ht.of_front (List.prefix_append t _))).append_singleton ?_ ?_
    · rw [List.append_assoc, depthAfter_append]
      omega
    · rintro rfl
      have hcomma := ht.comma t List.prefix_rfl
      rw [depthAfter_append]
      omega

/-- Two entries in a row are one entry. -/
theorem IsEntry.append {s t : List Text} (hs : IsEntry s) (ht : IsEntry t) : IsEntry (s ++ t) := by
  obtain ⟨hnil, hstokens, hsinside, hsclosed⟩ := isEntry_iff.1 hs
  obtain ⟨-, httokens, htinside, htclosed⟩ := isEntry_iff.1 ht
  refine isEntry_iff.2 ⟨by simp [hnil], List.forall_mem_append.2 ⟨hstokens, httokens⟩, ?_, ?_⟩
  · exact hsinside.append (by rwa [hsclosed])
  · rw [depthAfter_append, hsclosed, htclosed]
    rfl

/-- An entry with more behind it, if there is more. -/
theorem IsEntry.append_of_ne_nil {s t : List Text} (hs : IsEntry s) (ht : t ≠ [] → IsEntry t) :
    IsEntry (s ++ t) := by
  by_cases hnil : t = []
  · simpa [hnil] using hs
  · exact hs.append (ht hnil)

/-- A token that is no punctuation is an entry of its own. -/
theorem isEntry_singleton {token : Text} (htoken : IsToken token) (hopening : token ≠ opening)
    (hclosing : token ≠ closing) (hcomma : token ≠ comma) : IsEntry [token] := by
  have hdepth : depthAfter [token] = 0 := by
    rw [depthAfter, depthChange_of_ne hopening hclosing]
    rfl
  refine isEntry_iff.2 ⟨by simp, by simpa using htoken, ?_, hdepth⟩
  exact (staysInside_nil Int.le_rfl).append_singleton (by simp [hdepth])
    fun h => absurd h hcomma

theorem isEntry_identifier (name : Text) : IsEntry [Dialect.sqlite.identifier name] :=
  isEntry_singleton (isToken_identifier name) (identifier_ne_singleton name '(')
    (identifier_ne_singleton name ')') (identifier_ne_singleton name ',')

/-! ### The entry of a declaration -/

/-- A quoted name with a space and the text of tokens behind it is read as the name and the
tokens. -/
theorem spells_identifier_append (name : Text) {ts : List Text} (hts : ∀ t ∈ ts, IsToken t) :
    Spells (Dialect.sqlite.identifier name ++ ' ' :: join ts)
      (Dialect.sqlite.identifier name :: ts) := by
  have hname : ∀ t ∈ [Dialect.sqlite.identifier name], IsToken t := by
    simpa using isToken_identifier name
  have htext (rest : Text) : Dialect.sqlite.identifier name ++ ' ' :: join ts ++ rest =
      join [Dialect.sqlite.identifier name] ++ ([' '] ++ (join ts ++ rest)) := by
    simp [join, joinAfter]
  refine ⟨fun rest => ?_, fun hc rest => ?_⟩
  · have hspace : ∀ c ∈ [' '], isQuote c = false ∧ Text.isLayout c = false :=
      List.forall_mem_singleton.2 (by decide)
    rw [htext, htext, blankLayout_join_append hname, blankLayout_append hspace,
      blankLayout_join_append hts]
  · rw [htext, List.singleton_append, Lexer.run_join_append (isComplete_of_isToken hname)
      (fun token _ => detached_space token _), Lexer.run_space,
      Lexer.run_join_punctuation (isComplete_of_isToken hts) hc]
    rfl

namespace Declaration

variable (c : Declaration)

theorem isEntry_tokens : IsEntry c.tokens := by
  have htype := (isEntry_identifier c.name).append_of_ne_nil c.isEntry_type
  have hconstraints := htype.append_of_ne_nil c.isEntry_constraints
  rwa [List.append_assoc] at hconstraints

/-- The text of a declaration is read as its tokens. -/
theorem spells_text : Spells c.text c.tokens :=
  spells_identifier_append c.name fun t ht =>
    c.isEntry_tokens.isToken t (List.mem_cons_of_mem _ ht)

/-! ### What is read from a declaration -/

theorem name_mk : (Definition.mk c.tokens).name = .ok c.name :=
  congrArg Except.ok (unquote_enclose (by decide) c.name)

/-- No keyword starts with a quote. -/
theorem startsTableConstraint_identifier (name : Text) :
    startsTableConstraint (Dialect.sqlite.identifier name) = false := by
  have hupper : Text.upper (Dialect.sqlite.identifier name) =
      '"' :: Text.upper (Text.double '"' name ++ ['"']) := rfl
  simp [startsTableConstraint, hupper, tableConstraintKeywords]

theorem isTableConstraint_mk : (Definition.mk c.tokens).isTableConstraint = .ok false :=
  congrArg Except.ok (startsTableConstraint_identifier c.name)

/-- The first keyword of a constraint ends the type. -/
theorem typeTokens_mk : (Definition.mk c.tokens).typeTokens = c.type := by
  have htype : ∀ t ∈ c.type, (!endsType t) = true := by
    simpa using c.endsType_type
  have hconstraints : c.constraints.takeWhile (fun t => !endsType t) = [] := by
    cases h : c.constraints with
    | nil => rfl
    | cons t ts => simp [c.endsType_constraints t (by simp [h])]
  have htail : (Definition.mk c.tokens).tokens.tail = c.type ++ c.constraints := rfl
  rw [Definition.typeTokens, htail, List.takeWhile_append_of_pos htype, hconstraints,
    List.append_nil]

theorem declaredType_mk : (Definition.mk c.tokens).declaredType = .ok (join c.type) := by
  rw [Definition.declaredType, c.isTableConstraint_mk, c.typeTokens_mk]
  rfl

end Declaration

/-- The definitions of a statement that is written from declarations. -/
theorem definitions_createTable_map_text (table behind : Text) (columns : List Declaration) :
    definitions (createTable table (columns.map Declaration.text) behind) =
      columns.map fun c => ⟨c.tokens⟩ := by
  have hspells : List.Forall₂ Spells (columns.map Declaration.text)
      (columns.map Declaration.tokens) := by
    rw [List.forall₂_map_left_iff, List.forall₂_map_right_iff, List.forall₂_same]
    exact fun c _ => c.spells_text
  have hentries : ∀ d ∈ columns.map Declaration.tokens, IsEntry d :=
    List.forall_mem_map.2 fun c _ => c.isEntry_tokens
  rw [definitions_createTable_of_spells hspells hentries, List.map_map]
  rfl

/-- **The names and types of columns survive.** A statement that is written from declarations has
one definition for each of them, in order. It has the declared name, whatever characters that holds,
is no table constraint, and its type is the text of the declared type. -/
theorem definitions_createTable_declarations (table behind : Text) (columns : List Declaration) :
    let ds := definitions (createTable table (columns.map Declaration.text) behind)
    ds.length = columns.length ∧
      ds.map Definition.name = columns.map (fun c => .ok c.name) ∧
      ds.map Definition.isTableConstraint = columns.map (fun _ => .ok false) ∧
      ds.map Definition.declaredType = columns.map fun c => .ok (join c.type) := by
  intro ds
  have hds : ds = columns.map fun c => ⟨c.tokens⟩ :=
    definitions_createTable_map_text table behind columns
  rw [hds, List.length_map, List.map_map, List.map_map, List.map_map]
  refine ⟨rfl, ?_, ?_, ?_⟩
  · exact List.map_congr_left fun c _ => c.name_mk
  · exact List.map_congr_left fun c _ => c.isTableConstraint_mk
  · exact List.map_congr_left fun c _ => c.declaredType_mk

/-- A name that holds the marks of every layer, with a type that has a group of its own, and a name
that holds nothing at all, with neither a type nor constraints. -/
theorem definitions_createTable_declarations_marks :
    ∃ c d : Declaration, c.name = "\"a,(\n".toList ∧ d.name = [] ∧
      createTable "t".toList [c.text, d.text] [] =
        "CREATE TABLE \"t\" (\"\"\"a,(\n\" NUMERIC(10, 2) NOT NULL, \"\" )".toList ∧
      (definitions (createTable "t".toList [c.text, d.text] [])).map Definition.name =
        [.ok "\"a,(\n".toList, .ok []] ∧
      (definitions (createTable "t".toList [c.text, d.text] [])).map Definition.declaredType =
        [.ok "NUMERIC(10, 2)".toList, .ok []] := by
  have htype : IsEntry ["NUMERIC".toList, opening, "10".toList, comma, "2".toList, closing] := by
    refine ⟨by simp, ?_, ⟨fun front hfront => ?_, by decide⟩, fun front hfront => ?_⟩
    · simp only [List.forall_mem_cons, List.not_mem_nil, false_imp_iff, implies_true, and_true]
      exact ⟨isToken_of_all (by decide) (by decide), .punctuation (by decide),
        isToken_of_all (by decide) (by decide), .punctuation (by decide),
        isToken_of_all (by decide) (by decide), .punctuation (by decide)⟩
    · revert front
      simp only [← List.mem_inits]
      decide
    · have hall : ∀ front ∈ ["NUMERIC".toList, opening, "10".toList, comma, "2".toList,
          closing].inits, front ++ [comma] <+: ["NUMERIC".toList, opening, "10".toList, comma,
            "2".toList, closing] → depthAfter front ≠ 0 := by decide
      exact hall front ((List.mem_inits _ _).2 ((List.prefix_append front _).trans hfront)) hfront
  have hconstraints : IsEntry ["NOT".toList, "NULL".toList] :=
    (isEntry_singleton (isToken_of_all (by decide) (by decide)) (by decide) (by decide)
      (by decide)).append (isEntry_singleton (isToken_of_all (by decide) (by decide)) (by decide)
        (by decide) (by decide))
  refine ⟨⟨"\"a,(\n".toList, _, _, fun _ => htype, fun _ => hconstraints, by decide, by decide⟩,
    ⟨[], [], [], by simp, by simp, by simp, by simp⟩, rfl, rfl, rfl, ?_, ?_⟩
  · exact (definitions_createTable_declarations "t".toList [] [_, _]).2.1
  · exact (definitions_createTable_declarations "t".toList [] [_, _]).2.2.2

end SqliteAccess.Column
