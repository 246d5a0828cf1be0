import SqliteAccess.Proofs.Token.Marks
import SqliteAccess.Proofs.Token.Splicing

/-!
# Quoting, unquoting and tokens

A quoted value is read in two ways: `unquote` takes the value out of it, and the lexer takes the
token off the front of a text. Both stop at the first quote that stands alone, or at the end of the
text. So a token denotes what the text denotes that starts with it, and quoting this again gives the
token, with the closing quote that a last token may lack.

## Main definitions

* `requote` : the quoted form of a text with a given quote.

## Main results

* `Token.exists_first_token` : the first token of a text that starts with a quote.
* `quotation_agrees` : quoting, unquoting and the lexer agree.
-/

namespace SqliteAccess

/-- The quoted form of a text: a literal for the single quote and a name for the double quote. -/
def requote (quote : Char) (text : Text) : Text :=
  if quote = '\'' then literal text else Dialect.sqlite.identifier text

theorem requote_eq_enclose {quote : Char} (hquote : isQuote quote = true) (text : Text) :
    requote quote text = Text.enclose quote text := by
  rw [isQuote, Bool.or_eq_true, decide_eq_true_eq, decide_eq_true_eq] at hquote
  rcases hquote with rfl | rfl
  · rfl
  · rfl

namespace Token

variable {quote : Char} {t : Text}

theorem IsQuotedBy.requote_unquote (h : IsQuotedBy quote t) : requote quote (unquote t) = t := by
  obtain ⟨hquote, v, rfl⟩ := h
  rw [unquote_enclose hquote, requote_eq_enclose hquote]

/-- Quoting again closes the region. -/
theorem IsOpenBy.requote_unquote (h : IsOpenBy quote t) :
    requote quote (unquote t) = t ++ [quote] := by
  obtain ⟨hquote, v, rfl⟩ := h
  rw [unquote_open hquote, requote_eq_enclose hquote]
  rfl

theorem IsQuotedBy.head?_eq (h : IsQuotedBy quote t) : t.head? = some quote := by
  obtain ⟨-, v, rfl⟩ := h
  rfl

theorem IsOpenBy.head?_eq (h : IsOpenBy quote t) : t.head? = some quote := by
  obtain ⟨-, v, rfl⟩ := h
  rfl

theorem IsComplete.not_isOpenBy (h : IsComplete t) : ¬IsOpenBy quote t := by
  intro hopen
  have hunclosed : Shape.unclosed.Holds t := ⟨quote, hopen⟩
  cases h with
  | punctuation hc =>
    exact nomatch (show Shape.punctuation.Holds _ from ⟨_, hc, rfl⟩).unique hunclosed
  | word hword => exact nomatch (show Shape.word.Holds t from hword).unique hunclosed
  | quoted hquoted => exact not_isOpenBy_of_isQuotedBy hquoted hopen

/-- A text that starts with a quote starts with a token that denotes the same value. -/
theorem exists_first_token (hquote : isQuote quote = true) (t : Text) :
    ∃ first rest, tokens (quote :: t) = first :: rest ∧ first <+: quote :: t ∧
      unquote (quote :: t) = unquote first := by
  rcases Text.closes_or_eq_double quote t with ⟨v, rest, rfl, hrest⟩ | ⟨v, rfl⟩
  · have htext : quote :: (Text.double quote v ++ quote :: rest) =
        Text.enclose quote v ++ rest := by simp [Text.enclose]
    rw [htext]
    refine ⟨Text.enclose quote v, tokens rest, ?_, List.prefix_append _ _, ?_⟩
    · exact Lexer.run_enclose (by decide) hquote v hrest
    · rw [unquote_enclose_append hquote v hrest, unquote_enclose hquote]
  · exact ⟨_, [], Lexer.run_open hquote v, List.prefix_rfl, rfl⟩

/-- Every quoted token is a whole region, or a region that is not closed, which only the last token
may be. -/
theorem isQuotedBy_or_isOpenBy_of_mem_tokens {sql k : Text} {before after : List Text}
    (htokens : tokens sql = before ++ k :: after) (hkind : classify k = .ok .quoted) :
    ∃ quote, IsQuotedBy quote k ∨ (IsOpenBy quote k ∧ after = []) := by
  have hlexing : Lexing none sql (before ++ k :: after) := htokens ▸ lexing_run (by simp)
  obtain ⟨shape, hshape⟩ := hlexing.exists_shape k (by simp)
  have hquoted : shape.kind = .quoted := Except.ok.inj (hshape.classify_eq.symm.trans hkind)
  cases shape with
  | punctuation => exact nomatch hquoted
  | word => exact nomatch hquoted
  | quoted =>
    obtain ⟨quote, h⟩ := hshape
    exact ⟨quote, .inl h⟩
  | unclosed =>
    obtain ⟨quote, h⟩ := hshape
    refine ⟨quote, .inr ⟨h, ?_⟩⟩
    cases after with
    | nil => rfl
    | cons next after =>
      have hbefore : Lexing none sql ((before ++ [k]) ++ next :: after) := by simpa using hlexing
      exact absurd h (hbefore.isComplete_of_append k (by simp)).not_isOpenBy

end Token

open Token

/-- **Quoting, unquoting and the lexer agree.** A quoted value is read back whatever follows it,
except the quote itself. A text that starts with a quote denotes what its first token denotes. And a
quoted token is what quoting its value gives, but for the closing quote that a region at the end of
the text may lack. -/
theorem quotation_agrees (v z sql : Text) :
    ((z.head? ≠ some '\'' → unquote (literal v ++ z) = v) ∧
      (z.head? ≠ some '"' → unquote (Dialect.sqlite.identifier v ++ z) = v)) ∧
    (∀ quote ∈ sql.head?, isQuote quote = true →
      ∃ first rest, tokens sql = first :: rest ∧ first <+: sql ∧ unquote sql = unquote first) ∧
    ∀ before k after, tokens sql = before ++ k :: after → classify k = .ok .quoted →
      ∃ quote, k.head? = some quote ∧ isQuote quote = true ∧
        ((IsQuotedBy quote k ∧ requote quote (unquote k) = k) ∨
          (IsOpenBy quote k ∧ after = [] ∧ requote quote (unquote k) = k ++ [quote])) := by
  refine ⟨⟨unquote_enclose_append (by decide) v, unquote_enclose_append (by decide) v⟩, ?_, ?_⟩
  · intro quote hhead hquote
    obtain ⟨t, rfl⟩ := List.head?_eq_some_iff.1 hhead
    exact exists_first_token hquote t
  · intro before k after htokens hkind
    obtain ⟨quote, h | ⟨h, hafter⟩⟩ := isQuotedBy_or_isOpenBy_of_mem_tokens htokens hkind
    · exact ⟨quote, h.head?_eq, h.1, .inl ⟨h, h.requote_unquote⟩⟩
    · exact ⟨quote, h.head?_eq, h.1, .inr ⟨h, hafter, h.requote_unquote⟩⟩

/-- A name with a doubled quote that the text does not close. -/
example : requote '"' (unquote "\"a\"\"b".toList) = "\"a\"\"b\"".toList := by decide

end SqliteAccess
