import SqliteAccess.Text.Basic

/-!
# Lexemes of a script

To find the ends of statements a script is read as a sequence of lexemes: semicolons, the few
keywords that open and close a trigger, blanks and comments, and everything else. Quoted and
bracketed regions are single lexemes. A region or comment that the text does not close is no
lexeme: it remains.

## Main definitions

* `Statement.Lexeme` : the kinds of lexemes.
* `Statement.front` : the first lexeme of a text.
* `Statement.read` : the lexemes of a text with what remains.
-/

namespace SqliteAccess.Statement

/-- The kind of a lexeme. -/
inductive Lexeme
  | semicolon
  | blank
  | other
  | explain
  | create
  | temporary
  | trigger
  | finish
  deriving DecidableEq

/-- What a text starts with. -/
inductive Front
  /-- A lexeme with its text, and what follows it. -/
  | lexeme (kind : Lexeme) (text rest : Text)
  /-- A quote, a bracket or a block comment that is never closed. -/
  | unclosed
  /-- A line comment that no line end closes. -/
  | lastLine

/-- The characters of words: ASCII letters and digits, the low line, the dollar sign, and every
character outside ASCII. -/
def isIdentifierChar (c : Char) : Bool := c.isAlphanum || c = '_' || c = '$' || 0x80 ≤ c.toNat

/-- The blanks between lexemes. The vertical tab is not one. -/
def isSeparator (c : Char) : Bool := c = ' ' || c = '\t' || c = '\n' || c = '\x0c' || c = '\r'

/-- The text up to and including the first `stop`, and what follows it. -/
def through (stop : Char) : Text → Option (Text × Text)
  | [] => none
  | c :: rest =>
    if c = stop then some ([c], rest)
    else (through stop rest).map fun (text, rest) => (c :: text, rest)

/-- The text up to and including the first end of a block comment, and what follows it. -/
def throughComment : Text → Option (Text × Text)
  | [] => none
  | c :: rest =>
    if c = '*' ∧ rest.head? = some '/' then some ([c, '/'], rest.tail)
    else (throughComment rest).map fun (text, rest) => (c :: text, rest)

/-- The kind of a word. Keywords are recognised in any mixture of ASCII cases. -/
def wordKind (word : Text) : Lexeme :=
  let folded := word.map Char.toLower
  if folded = "create".toList then .create
  else if folded = "trigger".toList then .trigger
  else if folded = "temp".toList ∨ folded = "temporary".toList then .temporary
  else if folded = "end".toList then .finish
  else if folded = "explain".toList then .explain
  else .other

/-- A region that starts with `start` and is closed as `region` says. -/
def closedBy (kind : Lexeme) (start : Text) (region : Option (Text × Text)) (failure : Front) :
    Front :=
  match region with
  | some (text, rest) => .lexeme kind (start ++ text) rest
  | none => failure

/-- What the text `c :: rest` starts with. -/
def front (c : Char) (rest : Text) : Front :=
  if c = ';' then .lexeme .semicolon [c] rest
  else if isSeparator c then .lexeme .blank [c] rest
  else if c = '/' ∧ rest.head? = some '*' then
    closedBy .blank ['/', '*'] (throughComment rest.tail) .unclosed
  else if c = '-' ∧ rest.head? = some '-' then
    closedBy .blank ['-', '-'] (through '\n' rest.tail) .lastLine
  else if c = '[' then closedBy .other [c] (through ']' rest) .unclosed
  else if c = '\x60' ∨ c = '"' ∨ c = '\'' then closedBy .other [c] (through c rest) .unclosed
  else if isIdentifierChar c then
    let word := c :: rest.takeWhile isIdentifierChar
    .lexeme (wordKind word) word (rest.dropWhile isIdentifierChar)
  else .lexeme .other [c] rest

private theorem length_of_through {stop : Char} {t u r : Text} (h : through stop t = some (u, r)) :
    r.length < t.length := by
  induction t generalizing u r with
  | nil => simp [through] at h
  | cons c t ih =>
    simp only [through] at h
    split at h
    · simp only [Option.some.injEq, Prod.mk.injEq] at h
      simp [← h.2]
    · obtain ⟨⟨u', r'⟩, h', e⟩ := Option.map_eq_some_iff.1 h
      simp only [Prod.mk.injEq] at e
      have := ih h'
      simp only [List.length_cons, ← e.2]
      omega

private theorem length_of_throughComment {t u r : Text} (h : throughComment t = some (u, r)) :
    r.length < t.length := by
  induction t generalizing u r with
  | nil => simp [throughComment] at h
  | cons c t ih =>
    simp only [throughComment] at h
    split at h
    · simp only [Option.some.injEq, Prod.mk.injEq] at h
      simp only [← h.2, List.length_tail, List.length_cons]
      omega
    · obtain ⟨⟨u', r'⟩, h', e⟩ := Option.map_eq_some_iff.1 h
      simp only [Prod.mk.injEq] at e
      have := ih h'
      simp only [List.length_cons, ← e.2]
      omega

/-- A lexeme has at least one character. -/
theorem length_lt_of_front {c : Char} {t u r : Text} {k : Lexeme}
    (h : front c t = .lexeme k u r) : r.length < (c :: t).length := by
  have tail : ∀ {v : Text}, v.length < t.tail.length → v.length < (c :: t).length := by
    intro v hv
    simp only [List.length_tail, List.length_cons] at *
    omega
  unfold front at h
  split at h
  · injection h with _ _ e; simp [← e]
  split at h
  · injection h with _ _ e; simp [← e]
  split at h
  · unfold closedBy at h
    split at h
    · next hc =>
      injection h with _ _ e
      exact e ▸ tail (length_of_throughComment hc)
    · exact Front.noConfusion h
  split at h
  · unfold closedBy at h
    split at h
    · next hc =>
      injection h with _ _ e
      exact e ▸ tail (length_of_through hc)
    · exact Front.noConfusion h
  split at h
  · unfold closedBy at h
    split at h
    · next hc =>
      injection h with _ _ e
      have := length_of_through hc
      simp only [List.length_cons, ← e]
      omega
    · exact Front.noConfusion h
  split at h
  · unfold closedBy at h
    split at h
    · next hc =>
      injection h with _ _ e
      have := length_of_through hc
      simp only [List.length_cons, ← e]
      omega
    · exact Front.noConfusion h
  split at h
  · injection h with _ _ e
    have := (List.dropWhile_sublist isIdentifierChar (l := t)).length_le
    simp only [List.length_cons, ← e]
    omega
  · injection h with _ _ e; simp [← e]

/-- What follows the last lexeme of a text. -/
inductive Remainder
  /-- Nothing. -/
  | none
  /-- A quote, a bracket or a block comment that is never closed. -/
  | unclosed
  /-- A line comment that no line end closes. -/
  | lastLine
  deriving DecidableEq

/-- The lexemes of a text with their own texts, and what remains after them. -/
def read : Text → List (Lexeme × Text) × Remainder × Text
  | [] => ([], .none, [])
  | c :: rest =>
    match _h : front c rest with
    | .lexeme kind text rest' =>
      let (lexemes, remainder) := read rest'
      ((kind, text) :: lexemes, remainder)
    | .unclosed => ([], .unclosed, c :: rest)
    | .lastLine => ([], .lastLine, c :: rest)
termination_by text => text.length
decreasing_by exact length_lt_of_front _h

end SqliteAccess.Statement
