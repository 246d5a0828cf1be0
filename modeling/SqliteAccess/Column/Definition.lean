import SqliteAccess.Text.Case
import SqliteAccess.Token.Basic

/-!
# Column definitions

One entry of the definition list of a CREATE TABLE statement is a list of tokens. It starts with
the column name, followed by the declared type up to the first column constraint, unless it is a
table constraint.

## Main definitions

* `Column.Definition` : an entry.
* `Column.Definition.name` : the column name without its quotes.
* `Column.Definition.isTableConstraint` : whether the entry is a table constraint.
* `Column.Definition.declaredType` : the text of the declared type.
* `Column.Definition.text` : the entry as SQL text.
-/

namespace SqliteAccess.Column

/-- The keywords that start a table constraint. -/
def tableConstraintKeywords : List Text :=
  ["CONSTRAINT".toList, "PRIMARY".toList, "UNIQUE".toList, "CHECK".toList, "FOREIGN".toList]

/-- The keywords that end a declared type. -/
def columnConstraintKeywords : List Text :=
  ["CONSTRAINT".toList, "PRIMARY".toList, "NOT".toList, "NULL".toList, "UNIQUE".toList,
    "CHECK".toList, "DEFAULT".toList, "COLLATE".toList, "REFERENCES".toList,
    "GENERATED".toList, "AS".toList]

/-- Whether a token starts a table constraint. -/
def startsTableConstraint (token : Text) : Bool :=
  tableConstraintKeywords.contains (Text.upper token)

/-- Whether a token ends a declared type. -/
def endsType (token : Text) : Bool := columnConstraintKeywords.contains (Text.upper token)

/-- An entry of a definition list. -/
structure Definition where
  /-- The tokens of the entry as written. -/
  tokens : List Text
  deriving DecidableEq

namespace Definition

/-- Why an entry has no name. -/
inductive Error
  /-- The entry has no token. -/
  | noToken
  deriving DecidableEq

/-- The wording of an error. -/
def Error.message : Error → Text
  | noToken => "list index out of range".toList

/-- The column name without its quotes. -/
def name (d : Definition) : Except Error Text :=
  match d.tokens with
  | [] => .error .noToken
  | token :: _ => .ok (unquote token)

/-- Whether the entry is a table constraint. -/
def isTableConstraint (d : Definition) : Except Error Bool :=
  match d.tokens with
  | [] => .error .noToken
  | token :: _ => .ok (startsTableConstraint token)

/-- The tokens of the declared type. -/
def typeTokens (d : Definition) : List Text := d.tokens.tail.takeWhile fun token => !endsType token

/-- The text of the declared type. A table constraint has none, and it is empty for a column
without a type. -/
def declaredType (d : Definition) : Except Error Text :=
  d.isTableConstraint.map fun constraint => if constraint then [] else Token.join d.typeTokens

/-- The entry as SQL text. -/
def text (d : Definition) : Text := Token.join d.tokens

end Definition

end SqliteAccess.Column
