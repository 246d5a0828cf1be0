import SqliteAccess.Proofs.Token.Lexing
import SqliteAccess.Proofs.Token.Splicing

/-!
# Qualified names

The name of a table may stand behind the name of its schema, with a dot between the two quoted
forms. Either name may hold dots and quotes itself, and then looks like a qualified name or like a
part of one. It is none: a quote inside a name is written twice, so that the first quote which
stands alone ends the first name, and what follows it tells whether a second name is there.

## Main definitions

* `Dialect.schemaName` : the schema that a qualified name shows.

## Main results

* `Text.enclose_append_inj` : a region in front of a text is found in it.
* `Dialect.tokens_qualified` : the tokens of a qualified name.
* `Dialect.qualified_eq_iff` : a qualified name tells its schema and its table.
-/

namespace SqliteAccess

/-- A region in front of a text is found in it, if its quote does not follow the region. -/
theorem Text.enclose_append_inj {quote : Char} {v w s t : Text} (hs : s.head? ≠ some quote)
    (ht : t.head? ≠ some quote) (h : enclose quote v ++ s = enclose quote w ++ t) :
    v = w ∧ s = t := by
  have hbody : double quote v ++ quote :: s = double quote w ++ quote :: t := by
    simpa [enclose] using h
  have hcontent := congrArg (content quote) hbody
  rw [content_double quote v s hs, content_double quote w t ht] at hcontent
  subst hcontent
  exact ⟨rfl, List.append_cancel_left h⟩

namespace Dialect

/-- The schema that a qualified name shows. An empty name is none. -/
def schemaName : Option Text → Option Text
  | some (c :: name) => some (c :: name)
  | _ => none

section

variable (dialect : Dialect)

/-- A qualified name shows a schema in front of the table, or the table alone. -/
theorem qualified_cases (schema : Option Text) :
    (schemaName schema = none ∧
        ∀ table, dialect.qualified schema table = dialect.identifier table) ∨
      ∃ name, name ≠ [] ∧ schemaName schema = some name ∧
        ∀ table, dialect.qualified schema table =
          dialect.identifier name ++ '.' :: dialect.identifier table := by
  match schema with
  | none => exact .inl ⟨rfl, fun _ => rfl⟩
  | some [] => exact .inl ⟨rfl, fun _ => rfl⟩
  | some (c :: name) => exact .inr ⟨c :: name, List.cons_ne_nil c name, rfl, fun _ => rfl⟩

/-! ### Names that are told apart -/

theorem head?_dot_ne_nameQuote (rest : Text) : ('.' :: rest).head? ≠ some dialect.nameQuote := by
  cases dialect <;> simp [nameQuote]

/-- No name is quoted like two names with a dot between them. -/
theorem identifier_ne_append_dot (table name rest : Text) :
    dialect.identifier table ≠ dialect.identifier name ++ '.' :: rest := by
  intro h
  have happend : dialect.identifier table ++ [] = dialect.identifier name ++ '.' :: rest := by
    rw [List.append_nil, h]
  obtain ⟨-, hrest⟩ :=
    Text.enclose_append_inj (by simp) (dialect.head?_dot_ne_nameQuote rest) happend
  exact List.cons_ne_nil _ _ hrest.symm

theorem identifier_injective {v w : Text} (h : dialect.identifier v = dialect.identifier w) :
    v = w := by
  have happend : dialect.identifier v ++ [] = dialect.identifier w ++ [] := by rw [h]
  exact (Text.enclose_append_inj (by simp) (by simp) happend).1

/-- A qualified name tells its schema and its table. -/
theorem qualified_eq_iff (schema schema' : Option Text) (table table' : Text) :
    dialect.qualified schema table = dialect.qualified schema' table' ↔
      table = table' ∧ schemaName schema = schemaName schema' := by
  obtain ⟨hnone, hname⟩ | ⟨name, -, hsome, hname⟩ := dialect.qualified_cases schema <;>
    obtain ⟨hnone', hname'⟩ | ⟨name', -, hsome', hname'⟩ := dialect.qualified_cases schema'
  · rw [hname, hname', hnone, hnone']
    exact ⟨fun h => ⟨dialect.identifier_injective h, rfl⟩, fun h => by rw [h.1]⟩
  · rw [hname, hname', hnone, hsome']
    exact iff_of_false (dialect.identifier_ne_append_dot table name' _) (by simp)
  · rw [hname, hname', hsome, hnone']
    exact iff_of_false (dialect.identifier_ne_append_dot table' name _).symm (by simp)
  · rw [hname, hname', hsome, hsome']
    constructor
    · intro h
      obtain ⟨rfl, hrest⟩ := Text.enclose_append_inj (dialect.head?_dot_ne_nameQuote _)
        (dialect.head?_dot_ne_nameQuote _) h
      exact ⟨dialect.identifier_injective (List.cons.inj hrest).2, rfl⟩
    · rintro ⟨rfl, hschema⟩
      rw [Option.some.inj hschema]

end

/-! ### Tokens -/

open Token

variable {quote : Char}

/-- A region is one token. -/
theorem tokens_enclose (hquote : isQuote quote = true) (v : Text) :
    tokens (Text.enclose quote v) = [Text.enclose quote v] := by
  have hrun := Lexer.run_enclose (s := {}) (by decide) hquote v (t := []) (by simp)
  rwa [List.append_nil] at hrun

/-- A dot in front of a region is a word of its own. -/
theorem tokens_dot_enclose (hquote : isQuote quote = true) (v : Text) :
    tokens ('.' :: Text.enclose quote v) = [['.'], Text.enclose quote v] := by
  have hword : IsWord ['.'] := ⟨by simp, List.forall_mem_singleton.2 (by decide)⟩
  have hdetached : Detached ['.'] (Text.enclose quote v) := by
    refine ⟨fun _ c hc hchar => ?_, fun q hq => absurd hq (not_isQuotedBy_singleton q '.')⟩
    obtain rfl : quote = c := by simpa [Text.enclose] using hc
    exact absurd hquote (by simp [hchar.2.2])
  have hrun := Lexer.run_token (.word hword) hdetached
  exact hrun.trans (congrArg _ (tokens_enclose hquote v))

/-- A qualified name has the quoted names and the dot as its tokens. -/
theorem tokens_qualified {schema : Text} (h : schema ≠ []) (table : Text) :
    tokens (sqlite.qualified (some schema) table) =
      [sqlite.identifier schema, ['.'], sqlite.identifier table] := by
  obtain ⟨c, name, rfl⟩ := List.exists_cons_of_ne_nil h
  have hquote : isQuote '"' = true := by decide
  have hrun := Lexer.run_enclose (s := {}) (by decide) hquote (c :: name)
    (t := '.' :: sqlite.identifier table) (by simp)
  exact hrun.trans (congrArg (sqlite.identifier (c :: name) :: ·) (tokens_dot_enclose hquote table))

/-- **A qualified name is not ambiguous.** Its tokens are the quoted form of the schema, the dot and
the quoted form of the table, or the last one alone where there is no schema, and the quoted forms
are read back as the names. In each dialect two qualified names are the same text exactly if they
show the same schema and the same table. -/
theorem qualified_unambiguous (table : Text) :
    (∀ schema, schema ≠ [] →
      tokens (sqlite.qualified (some schema) table) =
          [sqlite.identifier schema, ['.'], sqlite.identifier table] ∧
        (tokens (sqlite.qualified (some schema) table)).map unquote = [schema, ['.'], table]) ∧
    (∀ schema, schemaName schema = none →
      tokens (sqlite.qualified schema table) = [sqlite.identifier table] ∧
        (tokens (sqlite.qualified schema table)).map unquote = [table]) ∧
    ∀ (dialect : Dialect) (schema schema' : Option Text) (table' : Text),
      dialect.qualified schema table = dialect.qualified schema' table' ↔
        table = table' ∧ schemaName schema = schemaName schema' := by
  have hread (name : Text) : unquote (sqlite.identifier name) = name :=
    unquote_enclose (by decide) name
  refine ⟨fun schema hschema => ?_, fun schema hschema => ?_, fun dialect schema schema' table' =>
    dialect.qualified_eq_iff schema schema' table table'⟩
  · have htokens := tokens_qualified hschema table
    refine ⟨htokens, ?_⟩
    rw [htokens, List.map_cons, List.map_cons, List.map_singleton, hread, hread]
    rfl
  · obtain ⟨-, hname⟩ | ⟨name, -, hsome, -⟩ := sqlite.qualified_cases schema
    · have hquote : isQuote '"' = true := by decide
      have htokens := tokens_enclose hquote table
      rw [hname, identifier, nameQuote, htokens, List.map_singleton]
      exact ⟨rfl, congrArg ([·]) (hread table)⟩
    · exact nomatch hschema.symm.trans hsome

/-- A table whose name looks like a qualified name. -/
example : sqlite.qualified none "a\".\"b".toList = "\"a\"\".\"\"b\"".toList := by decide

end Dialect

end SqliteAccess
