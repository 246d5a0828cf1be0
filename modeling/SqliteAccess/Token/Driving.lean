import SqliteAccess.Token.Lexing

/-!
# Driving the lexer

The lexer is driven from outside, one call for each transition and one for the end of a text. A call
says which character follows its own, and nothing makes that true. The calls that read a text say
the truth: each one passes the next character that has not been consumed, with the one behind it.
One lexer reads any number of texts in this way, one after the other.

## Main definitions

* `Lexer.Call`, `Lexer.answer` : the calls, and what they do.
* `Lexer.after`, `Lexer.emitted`, `Lexer.kept` : the state, the tokens and the text behind calls.
* `Lexer.reading`, `Lexer.readings` : the calls that read a text, and several texts.
* `Lexer.Consistent` : the states in which mode, quote and pending text fit together.
-/

namespace SqliteAccess.Lexer

/-- A call of the lexer. -/
inductive Call
  /-- A transition on one character, with the character that is said to follow it. -/
  | feed (c : Char) (lookahead : Option Char)
  /-- The end of a text. -/
  | finish
  deriving DecidableEq

/-- The characters that a call passes. -/
def Call.passed : Call → Text
  | feed c lookahead => c :: lookahead.toList
  | finish => []

/-- What a call does. The end of a text consumes no character. -/
def answer (s : Lexer) : Call → Step
  | .feed c lookahead => s.step [c] (lookahead.map ([·]))
  | .finish => ⟨0, s.close.1, s.close.2⟩

/-- The characters that a call consumes. -/
def taken (s : Lexer) (call : Call) : Text := call.passed.take (s.answer call).consumed

/-- The characters that a call consumes and keeps, which are all of them but a space outside the
quoted regions. -/
def keeps (s : Lexer) (call : Call) : Text :=
  if s.mode ≠ .quoted ∧ s.taken call = [' '] then [] else s.taken call

/-- The state behind calls. -/
def after (s : Lexer) : List Call → Lexer
  | [] => s
  | call :: calls => (s.answer call).lexer.after calls

/-- The tokens that calls emit. -/
def emitted (s : Lexer) : List Call → List Text
  | [] => []
  | call :: calls => (s.answer call).emitted ++ (s.answer call).lexer.emitted calls

/-- The characters that calls consume and keep. -/
def kept (s : Lexer) : List Call → Text
  | [] => []
  | call :: calls => s.keeps call ++ (s.answer call).lexer.kept calls

/-- The calls that read a text to its end. Behind each call the text goes on with the first
character that the call has not consumed. -/
def reading (s : Lexer) : Text → List Call
  | [] => [.finish]
  | c :: rest =>
    let call := Call.feed c rest.head?
    let step := s.answer call
    call :: step.lexer.reading (rest.drop (step.consumed - 1))
termination_by text => text.length
decreasing_by
  rw [List.length_drop, List.length_cons]
  omega

/-- The calls that read texts one after the other. -/
def readings (s : Lexer) : List Text → List Call
  | [] => []
  | text :: texts => s.reading text ++ (s.after (s.reading text)).readings texts

/-- Whether mode, quote and pending text fit together. Nothing is pending between tokens, a word is
pending in a word, and inside a region all that has been read of the region. -/
def Consistent (s : Lexer) : Prop :=
  match s.mode with
  | .blank => s.quote = none ∧ s.pending = []
  | .word => s.quote = none ∧ Token.IsWord s.pending
  | .quoted => ∃ quote, s.quote = some [quote] ∧ Token.IsOpenBy quote s.pending

section

variable (s : Lexer) (calls more : List Call)

theorem after_append : s.after (calls ++ more) = (s.after calls).after more := by
  induction calls generalizing s with
  | nil => rfl
  | cons call calls ih => exact ih _

theorem emitted_append :
    s.emitted (calls ++ more) = s.emitted calls ++ (s.after calls).emitted more := by
  induction calls generalizing s with
  | nil => rfl
  | cons call calls ih =>
    rw [List.cons_append, emitted, emitted, ih, List.append_assoc]
    rfl

end

end SqliteAccess.Lexer
