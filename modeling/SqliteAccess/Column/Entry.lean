import SqliteAccess.Column.List
import SqliteAccess.Token.Lexing
import SqliteAccess.Token.Unquoted

/-!
# Entries of a definition list

An entry of a definition list is a list of tokens that can stand between two commas of the list: its
tokens are complete, its parentheses are balanced, and each of its commas stands inside a group of
its own. A definition list is written by joining the texts of its entries with commas, and it is
read only up to the parenthesis that closes it.

A column is declared by its name, its type and its constraints. The name may hold any characters,
because it is written between quotes. The type and the constraints are lists of tokens, each of them
empty or fit to stand between two commas; the first keyword of a constraint ends the type.

## Main definitions

* `Column.IsToken` : the tokens of entries.
* `Column.Balanced` : tokens that close the groups that they open, and no others.
* `Column.IsEntry` : the entries.
* `Column.createTable` : the statement with a given definition list.
* `Column.HasGroup` : the statements whose definition list is closed.
* `Column.Declaration` : the declaration of a column.
* `Column.Declaration.tokens`, `Column.Declaration.text` : its tokens, and its text in a CREATE
  TABLE statement.
-/

namespace SqliteAccess.Column

/-- The tokens of entries: punctuation, whole quoted regions, and words without layout
characters. -/
inductive IsToken : Text → Prop
  | punctuation {c : Char} (h : Token.isPunctuation c = true) : IsToken [c]
  | word {t : Text} (h : Token.IsWord t) (hlayout : ∀ c ∈ t, Text.isLayout c = false) : IsToken t
  | quoted {quote : Char} {t : Text} (h : Token.IsQuotedBy quote t) : IsToken t

/-- Tokens that close every group that they open, and none that they have not opened before. -/
structure Balanced (tokens : List Text) : Prop where
  nonneg : ∀ front, front <+: tokens → 0 ≤ depthAfter front
  closed : depthAfter tokens = 0

/-- The token lists that can stand between two commas of a definition list. -/
structure IsEntry (tokens : List Text) : Prop where
  ne_nil : tokens ≠ []
  isToken : ∀ t ∈ tokens, IsToken t
  balanced : Balanced tokens
  /-- No comma stands outside the groups of the entry. -/
  comma : ∀ front, front ++ [Token.comma] <+: tokens → depthAfter front ≠ 0

/-- The statement that creates a table from the texts of its entries, with any text behind the
definition list. -/
def createTable (table : Text) (entries : List Text) (behind : Text) : Text :=
  "CREATE TABLE ".toList ++ Dialect.sqlite.identifier table ++ " (".toList ++
    List.intercalate ", ".toList entries ++ ")".toList ++ behind

/-- Whether the first opening parenthesis outside quotes has its closing one: what stands between
the two closes every parenthesis that it opens, and none that it has not opened before. -/
def HasGroup (sql : Text) : Prop :=
  ∃ before group behind, Token.unquoted sql = before ++ '(' :: (group ++ ')' :: behind) ∧
    '(' ∉ before ∧ (∀ front, front <+: group → front.count ')' ≤ front.count '(') ∧
      group.count ')' = group.count '('

theorem IsToken.isComplete {t : Text} (h : IsToken t) : Token.IsComplete t := by
  cases h with
  | punctuation h => exact .punctuation h
  | word h => exact .word h
  | quoted h => exact .quoted h

/-- A complete token without layout characters outside quotes is a token of entries. -/
theorem IsToken.of_isComplete {t : Text} (h : Token.IsComplete t)
    (hlayout : Token.IsWord t → ∀ c ∈ t, Text.isLayout c = false) : IsToken t := by
  cases h with
  | punctuation h => exact .punctuation h
  | word h => exact .word h (hlayout h)
  | quoted h => exact .quoted h

/-! ### Declarations of columns -/

/-- The declaration of a column. -/
structure Declaration where
  name : Text
  /-- The tokens of the type. -/
  type : List Text
  /-- The tokens of the constraints. -/
  constraints : List Text
  isEntry_type : type ≠ [] → IsEntry type
  isEntry_constraints : constraints ≠ [] → IsEntry constraints
  endsType_type : ∀ t ∈ type, endsType t = false
  endsType_constraints : ∀ t ∈ constraints.head?, endsType t = true

namespace Declaration

/-- The tokens behind the name. -/
def rest (c : Declaration) : List Text := c.type ++ c.constraints

/-- The tokens of a declaration. -/
def tokens (c : Declaration) : List Text := Dialect.sqlite.identifier c.name :: c.rest

/-- The text of a declaration. A space stands behind the name even if nothing or a parenthesis
follows it. -/
def text (c : Declaration) : Text :=
  Dialect.sqlite.identifier c.name ++ ' ' :: Token.join c.rest

end Declaration

end SqliteAccess.Column
