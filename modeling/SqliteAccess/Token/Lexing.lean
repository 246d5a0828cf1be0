import SqliteAccess.Token.Lexer

/-!
# Lexings of a text

A lexing of a text writes it as tokens with gaps of spaces between them. The relation does not
mention the lexer: it says which texts are tokens and which neighbours may touch.

## Main definitions

* `Token.IsWord`, `Token.IsQuotedBy`, `Token.IsOpenBy` : the shapes of tokens.
* `Token.IsComplete` : the tokens that may stand anywhere.
* `Token.MayTouch` : the neighbours that need no gap.
* `Token.Lexing` : the lexings of a text behind a given token.
-/

namespace SqliteAccess.Token

/-- A word is not empty and holds no space, no punctuation and no quote. -/
def IsWord (t : Text) : Prop :=
  t ≠ [] ∧ ∀ c ∈ t, c ≠ ' ' ∧ isPunctuation c = false ∧ isQuote c = false

/-- A whole quoted region: the quotes inside come in pairs. -/
def IsQuotedBy (quote : Char) (t : Text) : Prop :=
  isQuote quote = true ∧ ∃ s, t = Text.enclose quote s

/-- A quoted region that the text does not close: the quotes inside come in pairs too. -/
def IsOpenBy (quote : Char) (t : Text) : Prop :=
  isQuote quote = true ∧ ∃ s, t = quote :: Text.double quote s

/-- The tokens that may stand anywhere in a text. -/
inductive IsComplete : Text → Prop
  | punctuation {c : Char} (h : isPunctuation c = true) : IsComplete [c]
  | word {t : Text} (h : IsWord t) : IsComplete t
  | quoted {quote : Char} {t : Text} (h : IsQuotedBy quote t) : IsComplete t

/-- Whether `second` may follow `first` without a gap: two words would be one word, and a quote
behind a region of the same quote would continue the region. -/
def MayTouch (first second : Text) : Prop :=
  ¬(IsWord first ∧ IsWord second) ∧
    ∀ quote, IsQuotedBy quote first → second.head? ≠ some quote

/-- A gap is made of spaces only. -/
def IsGap (gap : Text) : Prop := ∀ c ∈ gap, c = ' '

/-- Whether a token may follow the one before it at the given gap. -/
def Separated (previous : Option Text) (gap token : Text) : Prop :=
  gap = [] → ∀ p ∈ previous, MayTouch p token

/-- The lexings of a text, where `previous` is the token in front of it. Only the last token may be
a region that is not closed, and nothing follows it. -/
inductive Lexing : Option Text → Text → List Text → Prop
  | done {previous : Option Text} {gap : Text} (hgap : IsGap gap) : Lexing previous gap []
  | last {previous : Option Text} {gap token : Text} {quote : Char} (hgap : IsGap gap)
      (htoken : IsOpenBy quote token) (hsep : Separated previous gap token) :
      Lexing previous (gap ++ token) [token]
  | next {previous : Option Text} {gap token rest : Text} {tokens : List Text} (hgap : IsGap gap)
      (htoken : IsComplete token) (hsep : Separated previous gap token)
      (hrest : Lexing (some token) rest tokens) :
      Lexing previous (gap ++ token ++ rest) (token :: tokens)

/-- A punctuation character is no word. -/
theorem not_isWord_of_isPunctuation {c : Char} (h : isPunctuation c = true) : ¬IsWord [c] := by
  intro hw
  have := (hw.2 c (by simp)).2.1
  simp [h] at this

/-- No token that may stand anywhere is empty. -/
theorem IsComplete.ne_nil {t : Text} (h : IsComplete t) : t ≠ [] := by
  cases h with
  | punctuation => simp
  | word h => exact h.1
  | quoted h =>
    obtain ⟨-, s, rfl⟩ := h
    simp [Text.enclose]

end SqliteAccess.Token
