import SqliteAccess.Quoting

/-!
# Tokens of SQL text

Three kinds of tokens are told apart: single punctuation characters, quoted regions, and words,
which are everything else between them. Tokens are put back into a text with conventional spacing:
no space inside a parenthesis next to it, none before punctuation, and one space between all other
neighbours.

## Main definitions

* `Token.Kind` : the kinds.
* `Token.classify` : the kind of a token.
* `Token.needsSpace` : whether a space stands between two neighbours.
* `Token.join` : the text of a list of tokens.
-/

namespace SqliteAccess.Token

/-- The lexical kind of a token. -/
inductive Kind
  | word
  | punctuation
  | quoted
  deriving DecidableEq

/-- The name of a kind. -/
def Kind.name : Kind → Text
  | word => "word".toList
  | punctuation => "punctuation".toList
  | quoted => "quoted".toList

/-- Parentheses and the comma always stand alone. -/
def isPunctuation (c : Char) : Bool := c = '(' || c = ')' || c = ','

/-- The opening parenthesis as a token. -/
def opening : Text := ['(']

/-- The closing parenthesis as a token. -/
def closing : Text := [')']

/-- The comma as a token. -/
def comma : Text := [',']

/-- Why a token has no kind. -/
inductive Error
  | empty
  deriving DecidableEq

/-- The wording of an error. -/
def Error.message : Error → Text
  | empty => "Cannot classify an empty token".toList

/-- The kind of a token. A punctuation character is one only when it is the whole token, and a
quote only in front. -/
def classify : Text → Except Error Kind
  | [] => .error .empty
  | c :: rest =>
    if isPunctuation c && rest.isEmpty then .ok .punctuation
    else if isQuote c then .ok .quoted
    else .ok .word

/-! ### Laying tokens out -/

/-- Whether a space stands between two neighbours. An opening parenthesis takes one only after a
comma. -/
def needsSpace (previous token : Text) : Bool :=
  if token = opening then previous = comma
  else token ≠ closing && token ≠ comma && previous ≠ opening

/-- The text of the tokens that follow `previous`. -/
def joinAfter (previous : Text) : List Text → Text
  | [] => []
  | token :: rest =>
    (if needsSpace previous token then [' '] else []) ++ token ++ joinAfter token rest

/-- The text of a list of tokens. -/
def join : List Text → Text
  | [] => []
  | token :: rest => token ++ joinAfter token rest

end SqliteAccess.Token
