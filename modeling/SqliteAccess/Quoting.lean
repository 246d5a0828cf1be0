import SqliteAccess.Text.Doubled

/-!
# Quoted values and names in SQL text

A value is spliced into a statement as a literal between single quotes, a name as an identifier
between the quotes of its dialect. In both forms the enclosing quote is doubled inside, so that
no value and no name can end its own region. `unquote` reads either form back.

## Main definitions

* `literal` : the literal that denotes a value.
* `Dialect.identifier` : the quoted form of a name.
* `Dialect.qualified` : a table name with the name of its schema in front.
* `unquote` : the value of a quoted literal or identifier.
-/

namespace SqliteAccess

/-- The two characters that open a quoted region in SQL text. -/
def isQuote (c : Char) : Bool := c = '\'' || c = '"'

/-- The inner part of the literal that denotes a value. -/
def literalBody (value : Text) : Text := Text.double '\'' value

/-- The literal that denotes a value. -/
def literal (value : Text) : Text := Text.enclose '\'' value

/-- The inner part of a double-quoted name. -/
def identifierBody (name : Text) : Text := Text.double '"' name

/-- The dialects, as far as they differ in the quotation of names. -/
inductive Dialect
  /-- Names stand between double quotes. -/
  | sqlite
  /-- Names stand between backticks. -/
  | mysql
  deriving DecidableEq

namespace Dialect

/-- Only the exact name of the second dialect selects it; every other name stands for SQLite. -/
def ofName (name : Text) : Dialect := if name = "mysql".toList then mysql else sqlite

/-- The name of the dialect that this library serves. -/
def native : Text := "sqlite".toList

/-- The quote around names. -/
def nameQuote : Dialect → Char
  | sqlite => '"'
  | mysql => '\x60'

/-- The quoted form of a name. -/
def identifier (dialect : Dialect) (name : Text) : Text := Text.enclose dialect.nameQuote name

/-- A table name, with the name of its schema in front. An empty schema name counts as none. -/
def qualified (dialect : Dialect) (schema : Option Text) (table : Text) : Text :=
  match schema with
  | some (c :: name) => dialect.identifier (c :: name) ++ '.' :: dialect.identifier table
  | _ => dialect.identifier table

end Dialect

/-- The value of a quoted literal or identifier. The first character decides which quote counts; a
text that starts with none is its own value. -/
def unquote : Text → Text
  | [] => []
  | c :: rest => if isQuote c then Text.content c rest else c :: rest

/-- Reading a region gives the text that it denotes, whatever follows it except another quote of the
same kind. -/
theorem unquote_enclose_append {quote : Char} (hquote : isQuote quote = true) (value : Text)
    {rest : Text} (h : rest.head? ≠ some quote) :
    unquote (Text.enclose quote value ++ rest) = value := by
  simpa [unquote, Text.enclose, hquote] using Text.content_double quote value rest h

/-- A region that the text does not close is read to its end. -/
theorem unquote_open {quote : Char} (hquote : isQuote quote = true) (value : Text) :
    unquote (quote :: Text.double quote value) = value := by
  rw [unquote, if_pos hquote, Text.content_double_eq_self]

end SqliteAccess
