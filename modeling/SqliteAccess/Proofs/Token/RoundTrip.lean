import Mathlib.Data.Set.Function
import SqliteAccess.Proofs.Token.Joining

/-!
# The round trip of tokens

Joined tokens are a text, and a text has tokens. Joining is undone by the lexer for every list of
tokens that some text has: all of them complete, except that the last one may be a region which is
not closed. The joined text is laid out so that it has a lexing with these tokens, with a gap
wherever a space is put, and a text has only one lexing.

So the joined text of the tokens of a text is a normal form of the text. It has the same tokens,
joining its tokens changes it no more, and two texts share it exactly if they have the same tokens.

## Main definitions

* `Token.IsTokenList` : the lists of tokens that texts have.

## Main results

* `Token.mayTouch_of_needsSpace_eq_false` : neighbours that are put side by side may touch.
* `Token.IsTokenList.lexing_join` : joined tokens are laid out as a lexing.
* `Token.isTokenList_tokens` : the tokens of every text are such a list.
* `Token.tokens_join` : the round trips.
-/

namespace SqliteAccess.Token

/-- The lists of tokens that texts have. Only the last token may be a region that is not closed. -/
inductive IsTokenList : List Text → Prop
  | nil : IsTokenList []
  | last {quote : Char} {token : Text} (htoken : IsOpenBy quote token) : IsTokenList [token]
  | cons {token : Text} {tokens : List Text} (htoken : IsComplete token)
      (htokens : IsTokenList tokens) : IsTokenList (token :: tokens)

/-- Neighbours without a space between them may touch, because one of them is punctuation. -/
theorem mayTouch_of_needsSpace_eq_false {previous token : Text}
    (h : needsSpace previous token = false) : MayTouch previous token := by
  rcases isPunctuation_of_needsSpace_eq_false h with rfl | ⟨c, hc, rfl⟩
  · refine ⟨fun hwords => not_isWord_of_isPunctuation (by decide) hwords.1, fun quote hquoted => ?_⟩
    exact absurd hquoted (not_isQuotedBy_singleton quote '(')
  · refine ⟨fun hwords => not_isWord_of_isPunctuation hc hwords.2, fun quote hquoted hhead => ?_⟩
    obtain rfl : c = quote := by simpa using hhead
    exact absurd hc (by simp [isPunctuation_eq_false_of_isQuote hquoted.1])

/-- What stands between two joined neighbours separates them. -/
theorem separated_of_needsSpace (previous token : Text) :
    Separated (some previous) (if needsSpace previous token then [' '] else []) token := by
  intro hgap p hp
  obtain rfl : previous = p := by simpa using hp
  refine mayTouch_of_needsSpace_eq_false ?_
  by_contra hspace
  simp [hspace] at hgap

theorem isGap_of_needsSpace (previous token : Text) :
    IsGap (if needsSpace previous token then [' '] else []) := by
  split <;> simp [IsGap]

theorem IsTokenList.lexing_joinAfter {ts : List Text} (h : IsTokenList ts) (previous : Text) :
    Lexing (some previous) (joinAfter previous ts) ts := by
  induction h generalizing previous with
  | nil => exact .done (by simp [joinAfter, IsGap])
  | @last _ token htoken =>
    have hlast := Lexing.last (isGap_of_needsSpace previous token) htoken
      (separated_of_needsSpace previous token)
    simpa [joinAfter] using hlast
  | @cons token _ htoken _ ih =>
    exact .next (isGap_of_needsSpace previous token) htoken
      (separated_of_needsSpace previous token) (ih token)

/-- **Joined tokens are laid out as a lexing** of their text. -/
theorem IsTokenList.lexing_join {ts : List Text} (h : IsTokenList ts) :
    Lexing none (join ts) ts := by
  have hgap : IsGap [] := by simp [IsGap]
  have hfirst (token : Text) : Separated none [] token := by simp [Separated]
  cases h with
  | nil => exact .done hgap
  | @last _ token htoken =>
    have hlast := Lexing.last hgap htoken (hfirst token)
    simpa [join, joinAfter] using hlast
  | @cons token _ htoken htokens =>
    exact .next hgap htoken (hfirst token) (htokens.lexing_joinAfter token)

theorem IsTokenList.tokens_join_eq {ts : List Text} (h : IsTokenList ts) : tokens (join ts) = ts :=
  h.lexing_join.run_eq

theorem isTokenList_of_forall {ts : List Text} (h : ∀ t ∈ ts, IsComplete t) : IsTokenList ts := by
  induction ts with
  | nil => exact .nil
  | cons t ts ih =>
    obtain ⟨ht, hts⟩ := List.forall_mem_cons.1 h
    exact .cons ht (ih hts)

theorem Lexing.isTokenList {previous : Option Text} {text : Text} {ts : List Text}
    (h : Lexing previous text ts) : IsTokenList ts := by
  induction h with
  | done => exact .nil
  | last _ htoken => exact .last htoken
  | next _ htoken _ _ ih => exact .cons htoken ih

theorem isTokenList_tokens (sql : Text) : IsTokenList (tokens sql) :=
  (lexing_tokens sql).isTokenList

/-- **Joining is undone by the lexer**, for exactly the lists of tokens that texts have. So the
joined text of the tokens of a text has these tokens again, joining them once more gives the same
text, and no other list of this kind has the same joined text. -/
theorem tokens_join :
    (∀ ts, IsTokenList ts ↔ tokens (join ts) = ts) ∧
      (∀ sql, tokens (join (tokens sql)) = tokens sql) ∧
      (∀ sql, join (tokens (join (tokens sql))) = join (tokens sql)) ∧
      Set.InjOn join {ts | IsTokenList ts} := by
  have hround (sql : Text) : tokens (join (tokens sql)) = tokens sql :=
    (isTokenList_tokens sql).tokens_join_eq
  have hinverse : Set.LeftInvOn tokens join {ts | IsTokenList ts} := fun _ => (·.tokens_join_eq)
  refine ⟨fun ts => ⟨IsTokenList.tokens_join_eq, fun h => ?_⟩, hround, fun sql => ?_,
    hinverse.injOn⟩
  · rw [← h]
    exact isTokenList_tokens _
  · rw [hround]

/-- Unbalanced parentheses, two regions of one quote side by side, and a region that is not closed
behind a parenthesis. -/
theorem tokens_join_unbalanced :
    let ts := [")".toList, "a".toList, "b".toList, "'c''d'".toList, "''".toList, ",".toList,
      "(".toList, "(".toList, "'(e".toList]
    IsTokenList ts ∧ join ts = ") a b 'c''d' '', (('(e".toList ∧ tokens (join ts) = ts ∧
      tokens (join (tokens ") a b'c''d' '',( ('(e".toList)) = ts ∧
      ∀ us, IsTokenList us → join us = ") a b 'c''d' '', (('(e".toList → us = ts := by
  intro ts
  obtain ⟨hlists, hround, -, hinj⟩ := tokens_join
  have hts : IsTokenList ts := (hlists ts).2 (by decide)
  have hjoin : join ts = ") a b 'c''d' '', (('(e".toList := by decide
  exact ⟨hts, hjoin, (hlists ts).1 hts, (hround _).trans (by decide),
    fun us hus h => hinj hus hts (h.trans hjoin.symm)⟩

end SqliteAccess.Token
