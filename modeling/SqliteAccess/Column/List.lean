import SqliteAccess.Column.Definition
import SqliteAccess.Token.Lexer

/-!
# The definition list of a table

The definition list of a CREATE TABLE statement is its first parenthesised group. Line breaks and
tabs outside quotes are read as spaces, and only the commas of the group itself separate entries.

The entries can also be described without a running state. The depth of a token is the number of
groups that are open in front of it. The group ends at the first closing parenthesis of depth zero,
and its pieces lie between the commas of depth zero.

## Main definitions

* `Column.blankLayout` : the text with layout characters outside quotes as spaces.
* `Column.entries` : the entries of a group, from the tokens after its opening parenthesis.
* `Column.definitions` : the definitions of a statement.
* `Column.depthAfter` : the depth behind a list of tokens.
* `Column.groupOf` : the tokens of a group.
* `Column.pieces` : the tokens between the commas of a group.
-/

namespace SqliteAccess.Column

/-- Reads layout characters as spaces from inside the region that `quote` opened, or from outside
quotes. Every quote of the kind that opened a region closes it. -/
def blankFrom (quote : Option Char) : Text → Text
  | [] => []
  | c :: rest =>
    match quote with
    | some q => c :: blankFrom (if c = q then none else some q) rest
    | none =>
      if isQuote c then c :: blankFrom (some c) rest
      else (if Text.isLayout c then ' ' else c) :: blankFrom none rest

/-- The text with layout characters outside quotes as spaces. -/
def blankLayout (sql : Text) : Text := blankFrom none sql

/-- A finished entry. An entry without tokens is skipped. -/
def entry (tokens : List Text) : List Definition := if tokens.isEmpty then [] else [⟨tokens⟩]

/-- The entries of a group, read from `depth` groups below it with the tokens of the current
entry at hand. -/
def entriesFrom (depth : Nat) (current : List Text) : List Text → List Definition
  | [] => entry current
  | token :: rest =>
    if token = Token.opening then entriesFrom (depth + 1) (current ++ [token]) rest
    else if token = Token.closing then
      match depth with
      | 0 => entry current
      | outer + 1 => entriesFrom outer (current ++ [token]) rest
    else if token = Token.comma ∧ depth = 0 then entry current ++ entriesFrom 0 [] rest
    else entriesFrom depth (current ++ [token]) rest

/-- The entries of a group, from the tokens after its opening parenthesis. -/
def entries (tokens : List Text) : List Definition := entriesFrom 0 [] tokens

/-- The definitions of a statement, in order. There are none without a parenthesis. -/
def definitions (sql : Text) : List Definition :=
  entries ((tokens (blankLayout sql)).dropWhile fun token => token ≠ Token.opening).tail

/-! ### The pieces of a group -/

/-- How a token changes the depth. -/
def depthChange (token : Text) : Int :=
  if token = Token.opening then 1 else if token = Token.closing then -1 else 0

/-- The depth behind a list of tokens. -/
def depthAfter : List Text → Int
  | [] => 0
  | token :: rest => depthChange token + depthAfter rest

/-- The tokens of a group, from the tokens behind its opening parenthesis: the longest front part
no part of which closes more parentheses than it opens. -/
def groupOf (tokens : List Text) : List Text :=
  tokens.take ((List.range tokens.length).takeWhile fun n =>
    decide (0 ≤ depthAfter (tokens.take (n + 1)))).length

/-- Splits a list at the members for which `cut` holds of the part in front of them. -/
def splitWhere (cut : List Text → Text → Bool) (before piece : List Text) :
    List Text → List (List Text)
  | [] => [piece]
  | token :: rest =>
    if cut before token then piece :: splitWhere cut (before ++ [token]) [] rest
    else splitWhere cut (before ++ [token]) (piece ++ [token]) rest

/-- Whether a token separates pieces: a comma at depth zero. -/
def separates (before : List Text) (token : Text) : Bool :=
  token = Token.comma && depthAfter before = 0

/-- The tokens between the separating commas of a group, without empty pieces. -/
def pieces (group : List Text) : List (List Text) :=
  (splitWhere separates [] [] group).filter fun piece => !piece.isEmpty

theorem depthAfter_append (s t : List Text) :
    depthAfter (s ++ t) = depthAfter s + depthAfter t := by
  induction s with
  | nil => simp [depthAfter]
  | cons token s ih => simp [depthAfter, ih, Int.add_assoc]

end SqliteAccess.Column
