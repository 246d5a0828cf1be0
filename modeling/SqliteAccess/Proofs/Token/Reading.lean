import Mathlib.Logic.Basic
import SqliteAccess.Token.Lexing

/-!
# Reading tokens off the front of a text

Outside the quoted regions the state of the lexer is the word that it has read so far, and inside a
region it is the quote of the region with the pending text. In both states a whole stretch of text
is read by one equation, and so a complete token at the front of a text is the first token of the
text whenever what follows cannot continue it.

## Main definitions

* `Lexer.outside`, `Lexer.inside` : the two families of states.
* `Token.IsWordChar` : the characters of words.
* `Token.Detached` : a text that cannot continue the token in front of it.

## Main results

* `Lexer.run_cons` : one transition at the front of a text.
* `Lexer.run_enclose` : a whole region is read as one token from every state outside regions.
* `Lexer.run_token` : a complete token is the first token of a text that starts with it.
-/

namespace SqliteAccess

namespace Token

/-- The characters of words: no space, no punctuation and no quote. -/
def IsWordChar (c : Char) : Prop := c ≠ ' ' ∧ isPunctuation c = false ∧ isQuote c = false

/-- Every character is exactly one of a word character, a space, punctuation and a quote. -/
theorem not_isWordChar_iff {c : Char} :
    ¬IsWordChar c ↔ c = ' ' ∨ isPunctuation c = true ∨ isQuote c = true := by
  simp only [IsWordChar, ne_eq, not_and_or, Decidable.not_not, Bool.not_eq_false]

/-- Whether `text` cannot continue the token in front of it: behind a word stands no word
character, behind a whole region no quote of the same kind. -/
def Detached (token text : Text) : Prop :=
  (IsWord token → ∀ c ∈ text.head?, ¬IsWordChar c) ∧
    ∀ quote, IsQuotedBy quote token → text.head? ≠ some quote

end Token

namespace Lexer

open Token

/-- The lexer outside the quoted regions, where `word` has been read of the current word. -/
def outside (word : Text) : Lexer := ⟨if word.isEmpty then .blank else .word, none, word⟩

/-- The lexer inside a region of `quote`. -/
def inside (quote : Char) (pending : Text) : Lexer := ⟨.quoted, some [quote], pending⟩

@[simp]
theorem outside_nil : outside [] = {} := rfl

theorem mode_outside (word : Text) : (outside word).mode ≠ .quoted := by
  unfold outside
  split <;> simp

@[simp]
theorem flush_outside (word : Text) : (outside word).flush = if word.isEmpty then [] else [word] :=
  rfl

/-! ### One transition -/

theorem step_outside_space (word : Text) (lookahead : Option Text) :
    (outside word).step [' '] lookahead = ⟨1, (outside word).flush, {}⟩ := by
  rw [step, if_neg (mode_outside word)]
  rfl

theorem step_outside_punctuation {c : Char} (hc : isPunctuation c = true) (word : Text)
    (lookahead : Option Text) :
    (outside word).step [c] lookahead = ⟨1, (outside word).flush ++ [[c]], {}⟩ := by
  have hspace : c ≠ ' ' := by
    rintro rfl
    exact absurd hc (by decide)
  rw [step, if_neg (mode_outside word)]
  simp only [hspace, if_false, hc, if_true]
  rfl

theorem step_outside_word {c : Char} (hc : IsWordChar c) (word : Text)
    (lookahead : Option Text) :
    (outside word).step [c] lookahead = ⟨1, [], outside (word ++ [c])⟩ := by
  obtain ⟨hspace, hpunctuation, hquote⟩ := hc
  rw [step, if_neg (mode_outside word)]
  simp [hspace, hpunctuation, hquote, outside]

/-- A quote opens its region from every state outside the regions. -/
theorem step_quote {s : Lexer} (hs : s.mode ≠ .quoted) {quote : Char}
    (hquote : isQuote quote = true) (lookahead : Option Text) :
    s.step [quote] lookahead = ⟨1, s.flush, inside quote [quote]⟩ := by
  have hspace : quote ≠ ' ' := by
    rintro rfl
    exact absurd hquote (by decide)
  have hpunctuation : isPunctuation quote = false := by
    simp only [isQuote, Bool.or_eq_true, decide_eq_true_eq] at hquote
    rcases hquote with rfl | rfl <;> decide
  rw [step, if_neg hs]
  simp only [hspace, if_false, hpunctuation, hquote, if_true, Bool.false_eq_true]
  rfl

theorem step_inside_of_ne {quote c : Char} (hc : c ≠ quote) (pending : Text)
    (lookahead : Option Text) :
    (inside quote pending).step [c] lookahead = ⟨1, [], inside quote (pending ++ [c])⟩ := by
  simp [step, stepQuoted, inside, Ne.symm hc]

theorem step_inside_double (quote : Char) (pending : Text) :
    (inside quote pending).step [quote] (some [quote]) =
      ⟨2, [], inside quote (pending ++ [quote, quote])⟩ := by
  simp [step, stepQuoted, inside]

theorem step_inside_close {quote : Char} {lookahead : Option Text}
    (h : lookahead ≠ some [quote]) (pending : Text) :
    (inside quote pending).step [quote] lookahead = ⟨1, [pending ++ [quote]], {}⟩ := by
  simp [step, stepQuoted, inside, h, flush]

/-! ### Runs -/

@[simp]
theorem run_nil (s : Lexer) : s.run [] = s.flush := rfl

/-- One transition at the front of a text. The lookahead is the next character, and it is read
too where the transition consumes two. -/
theorem run_cons {s : Lexer} {c : Char} {t : Text} {step : Step}
    (h : s.step [c] (t.head?.map ([·])) = step) :
    s.run (c :: t) =
      step.emitted ++ step.lexer.run (if step.consumed = 2 then t.tail else t) := by
  subst h
  cases t with
  | nil =>
    simp only [List.tail_nil, ite_self]
    rfl
  | cons d t =>
    simp only [run, List.head?_cons, Option.map_some, List.tail_cons]
    split <;> simp_all

theorem run_outside_space (word t : Text) :
    (outside word).run (' ' :: t) = (outside word).flush ++ run {} t :=
  run_cons (step_outside_space word _)

theorem run_outside_punctuation {c : Char} (hc : isPunctuation c = true) (word t : Text) :
    (outside word).run (c :: t) = (outside word).flush ++ [c] :: run {} t := by
  rw [run_cons (step_outside_punctuation hc word _), List.append_assoc]
  rfl

theorem run_quote {s : Lexer} (hs : s.mode ≠ .quoted) {quote : Char}
    (hquote : isQuote quote = true) (t : Text) :
    s.run (quote :: t) = s.flush ++ (inside quote [quote]).run t :=
  run_cons (step_quote hs hquote _)

theorem run_outside_word {u : Text} (hu : ∀ c ∈ u, IsWordChar c) (word t : Text) :
    (outside word).run (u ++ t) = (outside (word ++ u)).run t := by
  induction u generalizing word with
  | nil => simp
  | cons c u ih =>
    obtain ⟨hc, hu⟩ := List.forall_mem_cons.1 hu
    rw [List.cons_append, run_cons (step_outside_word hc word _)]
    simpa using ih hu (word ++ [c])

/-- A word ends in front of everything that is no word character. -/
theorem run_outside_of_not_isWordChar {t : Text} (ht : ∀ c ∈ t.head?, ¬IsWordChar c)
    (word : Text) : (outside word).run t = (outside word).flush ++ run {} t := by
  cases t with
  | nil => simp [run_nil, flush]
  | cons c t =>
    rcases not_isWordChar_iff.1 (ht c rfl) with rfl | hc | hc
    · rw [run_outside_space, ← outside_nil, run_outside_space]
      rfl
    · rw [run_outside_punctuation hc, ← outside_nil, run_outside_punctuation hc]
      rfl
    · rw [run_quote (mode_outside word) hc, run_quote (by decide) hc]
      rfl

/-- Spaces in front of a text do not count. -/
theorem run_gap {gap : Text} (hgap : IsGap gap) (t : Text) : run {} (gap ++ t) = run {} t := by
  induction gap with
  | nil => rfl
  | cons c gap ih =>
    obtain ⟨rfl, hrest⟩ := List.forall_mem_cons.1 hgap
    rw [List.cons_append, ← outside_nil, run_outside_space]
    exact ih hrest

/-- The doubled body of a region stays pending, whatever follows it. -/
theorem run_inside_double (quote : Char) (pending s t : Text) :
    (inside quote pending).run (Text.double quote s ++ t) =
      (inside quote (pending ++ Text.double quote s)).run t := by
  induction s generalizing pending with
  | nil => simp
  | cons c s ih =>
    by_cases hc : c = quote
    · subst hc
      simp only [Text.double, if_true, List.cons_append]
      rw [run_cons (step_inside_double c pending)]
      simpa using ih (pending ++ [c, c])
    · simp only [Text.double, hc, if_false, List.cons_append]
      rw [run_cons (step_inside_of_ne hc pending _)]
      simpa using ih (pending ++ [c])

/-- A single quote closes its region. -/
theorem run_inside_close {quote : Char} {t : Text} (ht : t.head? ≠ some quote) (pending : Text) :
    (inside quote pending).run (quote :: t) = (pending ++ [quote]) :: run {} t := by
  have hlookahead : t.head?.map ([·]) ≠ some [quote] := by
    cases t with
    | nil => simp
    | cons d t => simpa using ht
  exact run_cons (step_inside_close hlookahead pending)

/-- A whole region is read as one token from every state outside the regions, unless another
quote of the same kind follows it. -/
theorem run_enclose {s : Lexer} (hs : s.mode ≠ .quoted) {quote : Char}
    (hquote : isQuote quote = true) (v : Text) {t : Text} (ht : t.head? ≠ some quote) :
    s.run (Text.enclose quote v ++ t) = s.flush ++ Text.enclose quote v :: run {} t := by
  simp only [Text.enclose, List.cons_append, List.append_assoc, List.nil_append]
  rw [run_quote hs hquote, run_inside_double, run_inside_close ht]
  simp

/-- A region that the text does not close is the last token. -/
theorem run_open {quote : Char} (hquote : isQuote quote = true) (v : Text) :
    run {} (quote :: Text.double quote v) = [quote :: Text.double quote v] := by
  have h := run_inside_double quote [quote] v []
  rw [List.append_nil] at h
  rw [run_quote (by decide) hquote, h]
  rfl

/-! ### Tokens -/

/-- A complete token is the first token of every text that starts with it and does not continue
it. -/
theorem run_token {token rest : Text} (htoken : IsComplete token) (hrest : Detached token rest) :
    run {} (token ++ rest) = token :: run {} rest := by
  cases htoken with
  | punctuation hc => exact run_outside_punctuation hc [] rest
  | word hword =>
    have hempty : token.isEmpty = false := by simpa using hword.1
    rw [← outside_nil, run_outside_word hword.2, List.nil_append,
      run_outside_of_not_isWordChar (hrest.1 hword)]
    simp [hempty]
  | @quoted quote _ hquoted =>
    obtain ⟨hquote, v, rfl⟩ := id hquoted
    rw [run_enclose (by decide) hquote v (hrest.2 quote hquoted)]
    rfl

end Lexer

end SqliteAccess
