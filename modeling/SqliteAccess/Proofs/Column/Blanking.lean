import SqliteAccess.Column.Entry
import SqliteAccess.Proofs.Token.Marks

/-!
# Layout characters outside quotes

Reading layout characters as spaces changes nothing inside the quoted regions, and outside them it
acts on each character alone. Texts of tokens without layout characters stay as they are.

## Main definitions

* `Column.blankChar` : what becomes of a character outside quotes.

## Main results

* `Column.unquoted_blankLayout` : the characters outside quotes change one by one.
* `Column.blankLayout_join_append` : joined tokens of entries stay.
* `Column.isToken_of_mem` : the complete tokens of the changed text are tokens of entries.
-/

namespace SqliteAccess.Column

/-- What becomes of a character outside quotes. -/
def blankChar (c : Char) : Char := if Text.isLayout c then ' ' else c

theorem isLayout_blankChar (c : Char) : Text.isLayout (blankChar c) = false := by
  by_cases hc : Text.isLayout c = true
  · rw [blankChar, if_pos hc]
    decide
  · rw [blankChar, if_neg hc, Bool.eq_false_iff]
    exact hc

theorem isQuote_blankChar {c : Char} (hc : isQuote c = false) : isQuote (blankChar c) = false := by
  unfold blankChar
  split
  · decide
  · exact hc

/-- A layout character is no punctuation, and neither is a space. -/
theorem isPunctuation_blankChar (c : Char) :
    Token.isPunctuation (blankChar c) = Token.isPunctuation c := by
  by_cases hc : Text.isLayout c = true
  · rw [blankChar, if_pos hc]
    simp only [Text.isLayout, Bool.or_eq_true, decide_eq_true_eq] at hc
    rcases hc with (((rfl | rfl) | rfl) | rfl) | rfl <;> decide
  · rw [blankChar, if_neg hc]

theorem unquotedFrom_blankFrom (quote : Option Char) (sql : Text) :
    Token.unquotedFrom quote (blankFrom quote sql) =
      (Token.unquotedFrom quote sql).map blankChar := by
  induction sql generalizing quote with
  | nil => rfl
  | cons c rest ih =>
    cases quote with
    | some q => exact ih _
    | none =>
      by_cases hc : isQuote c = true
      · simp only [blankFrom, Token.unquotedFrom, hc, if_true]
        exact ih _
      · rw [Bool.not_eq_true] at hc
        have hblank : isQuote (if Text.isLayout c then ' ' else c) = false := isQuote_blankChar hc
        simp only [blankFrom, Token.unquotedFrom, hc, hblank, Bool.false_eq_true, if_false, ih,
          List.map_cons, blankChar]

/-- Outside quotes every character is changed on its own. -/
theorem unquoted_blankLayout (sql : Text) :
    Token.unquoted (blankLayout sql) = (Token.unquoted sql).map blankChar :=
  unquotedFrom_blankFrom none sql

theorem filter_unquoted_blankLayout (sql : Text) :
    (Token.unquoted (blankLayout sql)).filter Token.isPunctuation =
      (Token.unquoted sql).filter Token.isPunctuation := by
  rw [unquoted_blankLayout, List.filter_map]
  have hmark : Token.isPunctuation ∘ blankChar = Token.isPunctuation :=
    funext isPunctuation_blankChar
  rw [hmark]
  refine (List.map_congr_left fun c hc => ?_).trans (List.map_id _)
  have hlayout : ¬Text.isLayout c = true := by
    intro h
    have hspace := isPunctuation_blankChar c
    rw [(List.mem_filter.1 hc).2, blankChar, if_pos h] at hspace
    exact absurd hspace (by decide)
  rw [blankChar, if_neg hlayout]
  rfl

/-! ### Texts that stay -/

theorem blankLayout_append {x : Text} (hx : ∀ c ∈ x, isQuote c = false ∧ Text.isLayout c = false)
    (t : Text) : blankLayout (x ++ t) = x ++ blankLayout t := by
  induction x with
  | nil => rfl
  | cons c x ih =>
    obtain ⟨⟨hquote, hlayout⟩, hx⟩ := List.forall_mem_cons.1 hx
    simpa [blankLayout, blankFrom, hquote, hlayout] using ih hx

/-- The body of a region stays, and the text behind it is still inside the region. -/
theorem blankFrom_double_append {quote : Char} (hquote : isQuote quote = true) (s t : Text) :
    blankFrom (some quote) (Text.double quote s ++ t) =
      Text.double quote s ++ blankFrom (some quote) t := by
  induction s with
  | nil => rfl
  | cons c s ih =>
    by_cases hc : c = quote
    · subst hc
      simpa [Text.double, blankFrom, hquote] using ih
    · simpa [Text.double, blankFrom, hc] using ih

theorem blankLayout_enclose_append {quote : Char} (hquote : isQuote quote = true) (s t : Text) :
    blankLayout (Text.enclose quote s ++ t) = Text.enclose quote s ++ blankLayout t := by
  simp [blankLayout, Text.enclose, blankFrom, hquote, blankFrom_double_append hquote]

theorem IsToken.blankLayout_append {token : Text} (h : IsToken token) (t : Text) :
    blankLayout (token ++ t) = token ++ blankLayout t := by
  cases h with
  | @punctuation c hc =>
    refine Column.blankLayout_append (List.forall_mem_singleton.2 ⟨?_, ?_⟩) t
    · exact Token.isQuote_eq_false_of_isPunctuation hc
    · simp only [Token.isPunctuation, Bool.or_eq_true, decide_eq_true_eq] at hc
      rcases hc with (rfl | rfl) | rfl <;> decide
  | word hword hlayout =>
    exact Column.blankLayout_append (fun c hc => ⟨(hword.2 c hc).2.2, hlayout c hc⟩) t
  | quoted hquoted =>
    obtain ⟨hquote, s, rfl⟩ := hquoted
    exact blankLayout_enclose_append hquote s t

theorem blankLayout_joinAfter_append {previous : Text} {ts : List Text}
    (hts : ∀ t ∈ ts, IsToken t) (rest : Text) :
    blankLayout (Token.joinAfter previous ts ++ rest) =
      Token.joinAfter previous ts ++ blankLayout rest := by
  induction ts generalizing previous with
  | nil => rfl
  | cons t ts ih =>
    obtain ⟨ht, hts⟩ := List.forall_mem_cons.1 hts
    have hgap : ∀ c ∈ (if Token.needsSpace previous t then [' '] else []),
        isQuote c = false ∧ Text.isLayout c = false := by
      split <;> simp [isQuote, Text.isLayout]
    simp only [Token.joinAfter, List.append_assoc]
    rw [blankLayout_append hgap, ht.blankLayout_append, ih hts]

theorem blankLayout_join_append {ts : List Text} (hts : ∀ t ∈ ts, IsToken t) (rest : Text) :
    blankLayout (Token.join ts ++ rest) = Token.join ts ++ blankLayout rest := by
  cases ts with
  | nil => rfl
  | cons t ts =>
    obtain ⟨ht, hts⟩ := List.forall_mem_cons.1 hts
    simp only [Token.join, List.append_assoc]
    rw [ht.blankLayout_append, blankLayout_joinAfter_append hts]

/-! ### Tokens of the changed text -/

/-- The words of the changed text hold no layout characters. -/
theorem isLayout_of_mem_word {sql word : Text} (hmem : word ∈ tokens (blankLayout sql))
    (hword : Token.IsWord word) : ∀ c ∈ word, Text.isLayout c = false := by
  intro c hc
  have hunquoted := (Token.lexing_tokens _).mem_unquoted word hmem hword c hc
  rw [unquoted_blankLayout] at hunquoted
  obtain ⟨d, -, rfl⟩ := List.mem_map.1 hunquoted
  exact isLayout_blankChar d

theorem isToken_of_mem {sql token : Text} (hmem : token ∈ tokens (blankLayout sql))
    (htoken : Token.IsComplete token) : IsToken token :=
  .of_isComplete htoken fun hword => isLayout_of_mem_word hmem hword

end SqliteAccess.Column
