import SqliteAccess.Statement.Lexeme

/-!
# Complete statements

Whether a script ends with a complete statement is decided by an automaton over its lexemes. It
keeps apart the statements that create a trigger, because their bodies hold statements of their
own: such a statement is complete only after a semicolon, the word END and another semicolon.

## Main definitions

* `Statement.Phase` : the states of the automaton.
* `Statement.Phase.step` : its transitions.
* `Statement.isComplete` : whether a text ends with a complete statement.
-/

namespace SqliteAccess.Statement

/-- How far a statement has been read. -/
inductive Phase
  /-- Nothing has been read. -/
  | initial
  /-- The last statement is complete. -/
  | start
  /-- Inside a statement that creates no trigger. -/
  | normal
  /-- After EXPLAIN at the start of a statement. -/
  | explain
  /-- After CREATE at the start of a statement. -/
  | create
  /-- Inside the body of a trigger. -/
  | trigger
  /-- After a semicolon inside the body of a trigger. -/
  | triggerSemicolon
  /-- After END behind such a semicolon. -/
  | triggerEnd
  deriving DecidableEq

namespace Phase

/-- One transition outside the body of a trigger, for a phase in which blanks keep the phase. -/
private def atStart : Lexeme → Phase
  | .semicolon => start
  | .explain => explain
  | .create => create
  | _ => normal

/-- The phase after a lexeme. -/
def step (phase : Phase) (lexeme : Lexeme) : Phase :=
  match phase, lexeme with
  | initial, .blank => initial
  | initial, l => atStart l
  | start, .blank => start
  | start, l => atStart l
  | normal, .semicolon => start
  | normal, _ => normal
  | explain, .semicolon => start
  | explain, .blank => explain
  | explain, .other => explain
  | explain, .create => create
  | explain, _ => normal
  | create, .semicolon => start
  | create, .blank => create
  | create, .temporary => create
  | create, .trigger => trigger
  | create, _ => normal
  | trigger, .semicolon => triggerSemicolon
  | trigger, _ => trigger
  | triggerSemicolon, .semicolon => triggerSemicolon
  | triggerSemicolon, .blank => triggerSemicolon
  | triggerSemicolon, .finish => triggerEnd
  | triggerSemicolon, _ => trigger
  | triggerEnd, .semicolon => start
  | triggerEnd, .blank => triggerEnd
  | triggerEnd, _ => trigger

end Phase

/-- Whether a text ends with a complete statement. A text with an unclosed quote, bracket or block
comment does not; a line comment at the very end counts as nothing. -/
def isComplete (sql : Text) : Bool :=
  let (lexemes, remainder, _) := read sql
  remainder ≠ .unclosed && (lexemes.foldl (fun p l => p.step l.1) Phase.initial) = .start

end SqliteAccess.Statement
