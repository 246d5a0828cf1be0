import SqliteAccess.Text.Display
import SqliteAccess.Token.Basic

/-!
# The token lexer

The lexer reads SQL text from left to right with one symbol of lookahead. A space outside quotes
separates tokens, punctuation stands alone, and a quoted region is one token with its doubled
quotes as written. A region that is never closed is the last token.

The machine is driven from outside, one symbol at a time, and a symbol is any text: the empty text
and a text of several characters are neither a space nor punctuation nor a quote.

## Main definitions

* `Lexer` : the state of the machine.
* `Lexer.step` : one transition.
* `Lexer.close` : the end of the text.
* `tokens` : the tokens of a text.
-/

namespace SqliteAccess

/-- Where the lexer is. -/
inductive Lexer.Mode
  | blank
  | word
  | quoted
  deriving DecidableEq

namespace Lexer.Mode

/-- The name of a mode. -/
def name : Mode → Text
  | blank => "whitespace".toList
  | word => "in_word".toList
  | quoted => "in_quote".toList

/-- The mode of an exact name. -/
def ofName (name : Text) : Except UnknownName Mode :=
  match [blank, word, quoted].find? fun m => m.name = name with
  | some m => .ok m
  | none => .error ⟨"ScanState".toList, name⟩

end Lexer.Mode

/-- The state of the lexer. -/
structure Lexer where
  /-- Where the lexer is. -/
  mode : Lexer.Mode := .blank
  /-- The symbol that opened the current quoted region. -/
  quote : Option Text := none
  /-- The part of the current token that has been read. -/
  pending : Text := []
  deriving DecidableEq

namespace Lexer

/-- What one transition does. -/
structure Step where
  /-- How many symbols have been read: two where the lookahead belongs to a doubled quote. -/
  consumed : Nat
  /-- The tokens that are complete. -/
  emitted : List Text
  /-- The state afterwards. -/
  lexer : Lexer

/-- The pending text as a token, unless it is empty. -/
def flush (s : Lexer) : List Text := if s.pending.isEmpty then [] else [s.pending]

/-- A transition inside a quoted region: only the symbol that opened the region can close it, and
its double is part of the token. -/
def stepQuoted (s : Lexer) (symbol : Text) (lookahead : Option Text) : Step :=
  let s := { s with pending := s.pending ++ symbol }
  if s.quote ≠ some symbol then ⟨1, [], s⟩
  else if lookahead = some symbol then ⟨2, [], { s with pending := s.pending ++ symbol }⟩
  else ⟨1, s.flush, {}⟩

/-- One transition. -/
def step (s : Lexer) (symbol : Text) (lookahead : Option Text) : Step :=
  if s.mode = .quoted then s.stepQuoted symbol lookahead
  else
    match symbol with
    | [c] =>
      if c = ' ' then ⟨1, s.flush, { s with mode := .blank, pending := [] }⟩
      else if Token.isPunctuation c then
        ⟨1, s.flush ++ [[c]], { s with mode := .blank, pending := [] }⟩
      else if isQuote c then ⟨1, s.flush, ⟨.quoted, some [c], [c]⟩⟩
      else ⟨1, [], { s with mode := .word, pending := s.pending ++ [c] }⟩
    | _ => ⟨1, [], { s with mode := .word, pending := s.pending ++ symbol }⟩

/-- The tokens that remain at the end of a text. The lexer is new afterwards. -/
def close (s : Lexer) : List Text × Lexer := (s.flush, {})

/-- Reads a text to its end. -/
def run (s : Lexer) : Text → List Text
  | [] => s.close.1
  | [c] =>
    let step := s.step [c] none
    step.emitted ++ step.lexer.close.1
  | c :: next :: rest =>
    let step := s.step [c] (some [next])
    step.emitted ++
      (if step.consumed = 2 then run step.lexer rest else run step.lexer (next :: rest))

end Lexer

/-- The tokens of a text, in order. -/
def tokens (sql : Text) : List Text := Lexer.run {} sql

end SqliteAccess
