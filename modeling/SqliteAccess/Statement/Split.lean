import SqliteAccess.Statement.Completeness

/-!
# Splitting a script into statements

A script is cut after every semicolon at which the text since the last cut ends with a complete
statement. The pieces lose the blanks at their ends, and a piece that holds nothing else than
blanks and semicolons is dropped.

A script can also be cut while its lexemes are read once: the automaton follows the lexemes, a
semicolon that completes a statement ends a piece, and the automaton starts anew behind it. What
remains after the last lexeme belongs to the last piece.

## Main definitions

* `Statement.segments` : the pieces between the cuts.
* `Statement.statement?` : the statement of a piece.
* `Statement.split` : the statements of a script.
* `Statement.pass` : the pieces of a script, cut in one pass.
-/

namespace SqliteAccess.Statement

/-- Why a script cannot be split. -/
inductive Error
  /-- A text whose completeness is in question holds the null character. -/
  | nullCharacter
  deriving DecidableEq

/-- The wording of an error. -/
def Error.message : Error → Text
  | nullCharacter => "embedded null character".toList

/-- The pieces of a script, where `piece` is the current piece so far, last character first. -/
def segmentsFrom (piece : Text) : Text → Except Error (List Text)
  | [] => .ok [piece.reverse]
  | c :: rest =>
    if c = ';' then
      let candidate := (c :: piece).reverse
      if candidate.contains '\x00' then .error .nullCharacter
      else if isComplete candidate then (segmentsFrom [] rest).map fun pieces => candidate :: pieces
      else segmentsFrom (c :: piece) rest
    else segmentsFrom (c :: piece) rest

/-- The pieces of a script between its cuts. -/
def segments (sql : Text) : Except Error (List Text) := segmentsFrom [] sql

/-- The statement of a piece, unless the piece holds blanks and semicolons only. -/
def statement? (piece : Text) : Option Text :=
  let statement := Text.strip piece
  if (Text.strip (Text.trimRight (· = ';') statement)).isEmpty then none else some statement

/-- The statements of a script, in order. -/
def split (sql : Text) : Except Error (List Text) :=
  (segments sql).map fun pieces => pieces.filterMap statement?

/-! ### Cutting in one pass -/

/-- The pieces of a list of lexemes, in a phase of the automaton and with the current piece so
far. -/
def passFrom (phase : Phase) (piece : Text) (remainder : Text) : List (Lexeme × Text) → List Text
  | [] => [piece ++ remainder]
  | (kind, text) :: rest =>
    if kind = .semicolon ∧ phase.step kind = .start then
      (piece ++ text) :: passFrom .initial [] remainder rest
    else passFrom (phase.step kind) (piece ++ text) remainder rest

/-- The pieces of a script, cut while its lexemes are read once. -/
def pass (sql : Text) : List Text :=
  let (lexemes, _, remainder) := read sql
  passFrom .initial [] remainder lexemes

/-- The pieces of a pass hold the piece so far, the lexemes and the remainder, in order. -/
theorem flatten_passFrom (phase : Phase) (piece remainder : Text) (lexemes : List (Lexeme × Text)) :
    (passFrom phase piece remainder lexemes).flatten =
      piece ++ lexemes.flatMap (·.2) ++ remainder := by
  induction lexemes generalizing phase piece with
  | nil => simp [passFrom]
  | cons l rest ih =>
    rw [passFrom]
    split <;> simp [ih]

end SqliteAccess.Statement
