import Mathlib.Data.List.Basic
import SqliteAccess.Proofs.Token.Regions
import SqliteAccess.Proofs.Token.RoundTrip
import SqliteAccess.Proofs.Token.Unquoting

/-!
# Words and regions in joined texts

A word that runs into a quoted region is a token of its own, and the region is the next one. The
lexer does not tell whether a space stood between the two, and joining always puts one there. So a
joined text parts every word from a region behind it, even where the two touched before.

## Main results

* `Token.exists_join_region` : a joined text around a region and the token in front of it.
* `Token.tokens_append_quote` : a quote starts a token.
* `Token.Lexing.exists_last` : the last token ends with the last character of a text.
* `Token.IsTokenList.parted` : what stands in front of a region of a joined text.
-/

namespace SqliteAccess.Token

/-! ### Parts of joined texts -/

theorem joinAfter_append (previous : Text) (s r : List Text) :
    joinAfter previous (s ++ r) =
      joinAfter previous s ++ joinAfter (s.getLastD previous) r := by
  induction s generalizing previous with
  | nil => rfl
  | cons t s ih =>
    simp only [List.cons_append, joinAfter, ih, List.getLastD_cons, List.append_assoc]

/-- The text of the tokens behind some token depends on no other token in front of them. -/
theorem join_append_cons (s : List Text) (t : Text) (r : List Text) :
    join (s ++ t :: r) = join (s ++ [t]) ++ joinAfter t r := by
  cases s with
  | nil => simp [join, joinAfter]
  | cons x s => simp [join, joinAfter_append, joinAfter]

/-- A gap stands between the last token and the text of the others. -/
theorem exists_join_concat (s : List Text) (t : Text) :
    ∃ gap, IsGap gap ∧ join (s ++ [t]) = join s ++ gap ++ t := by
  cases s with
  | nil => exact ⟨[], by simp [IsGap], by simp [join, joinAfter]⟩
  | cons x s =>
    refine ⟨_, isGap_of_needsSpace (s.getLastD x) t, ?_⟩
    simp [join, joinAfter_append, joinAfter]

/-- A space is put in front of a region, unless it stands behind an opening parenthesis. -/
theorem needsSpace_region {previous : Text} (hprevious : previous ≠ opening) {quote : Char}
    (hquote : isQuote quote = true) (x : Text) : needsSpace previous (quote :: x) = true := by
  have hregion {c : Char} (hc : isPunctuation c = true) : quote :: x ≠ [c] := by
    intro h
    obtain rfl : quote = c := (List.cons.inj h).1
    exact absurd hc (by simp [isPunctuation_eq_false_of_isQuote hquote])
  have hopening : quote :: x ≠ opening := hregion (by decide)
  have hclosing : quote :: x ≠ closing := hregion (by decide)
  have hcomma : quote :: x ≠ comma := hregion (by decide)
  rw [needsSpace, if_neg hopening]
  simp [hprevious, hclosing, hcomma]

theorem join_append_region (s r : List Text) {t : Text} (ht : t ≠ opening) {quote : Char}
    (hquote : isQuote quote = true) (x : Text) :
    join (s ++ t :: (quote :: x) :: r) =
      join (s ++ [t]) ++ ' ' :: (quote :: x ++ joinAfter (quote :: x) r) := by
  rw [join_append_cons, joinAfter, if_pos (needsSpace_region ht hquote x)]
  simp

/-- **A joined text around a region** and the token in front of it: a space parts the two, and what
stands on both sides of them has the other tokens. -/
theorem exists_join_region {s r : List Text} (hs : ∀ x ∈ s, IsComplete x) (hr : IsTokenList r)
    {t : Text} (ht : t ≠ opening) {quote : Char} (hquote : isQuote quote = true) (x : Text) :
    ∃ front back, join (s ++ t :: (quote :: x) :: r) =
        front ++ t ++ ' ' :: (quote :: x ++ back) ∧
      tokens front = s ∧ tokens back = r := by
  obtain ⟨gap, hgap, hjoin⟩ := exists_join_concat s t
  refine ⟨join s ++ gap, joinAfter (quote :: x) r, ?_, ?_, ?_⟩
  · rw [join_append_region s r ht hquote, hjoin]
  · have hbehind (previous : Text) : Lexing (some previous) gap [] := .done hgap
    have hnothing : Lexer.run {} gap = [] := (hbehind []).run_eq
    rw [tokens, Lexer.run_join_append hs fun x _ => (hbehind x).detached, hnothing,
      List.append_nil]
  · exact (hr.lexing_joinAfter _).run_eq

/-! ### Regions behind other tokens -/

/-- A quote outside the regions starts a token, unless the same quote stands in front of it. -/
theorem tokens_append_quote {a : Text} (ha : quoteAfter none a = none) {quote : Char}
    (hquote : isQuote quote = true) (hlast : a.getLast? ≠ some quote) (t : Text) :
    tokens (a ++ quote :: t) = tokens a ++ tokens (quote :: t) := by
  have hseam : ∀ c ∈ a.getLast?, (quote :: t).head? ≠ some c := by
    intro c hc hhead
    obtain rfl : quote = c := by simpa using hhead
    exact hlast hc
  have houtside : (Lexer.scan {} a).2.mode ≠ .quoted := (Lexer.mode_scan_iff a).2 ha
  have hfirst : tokens (quote :: t) = (Lexer.inside quote [quote]).run t :=
    Lexer.run_quote (by decide) hquote t
  have htokens : tokens a = (Lexer.scan {} a).1 ++ (Lexer.scan {} a).2.flush :=
    Lexer.run_eq_scan {} a
  calc tokens (a ++ quote :: t)
      = (Lexer.scan {} a).1 ++ (Lexer.scan {} a).2.run (quote :: t) := Lexer.run_append {} a _ hseam
    _ = tokens a ++ tokens (quote :: t) := by
        rw [Lexer.run_quote houtside hquote, hfirst, htokens, List.append_assoc]

/-- The last token ends with the last character, unless that is a space. -/
theorem Lexing.exists_last {previous : Option Text} {text : Text} {ts : List Text}
    (h : Lexing previous text ts) {c : Char} (hlast : text.getLast? = some c) (hc : c ≠ ' ') :
    ∃ s t, ts = s ++ [t] ∧ t.getLast? = some c := by
  induction h with
  | done hgap => exact absurd (hgap c (List.mem_of_getLast? hlast)) hc
  | @last _ gap token _ _ htoken _ =>
    obtain ⟨-, v, rfl⟩ := htoken
    exact ⟨[], _, rfl, by rwa [List.getLast?_append_of_ne_nil _ (List.cons_ne_nil _ _)] at hlast⟩
  | @next _ gap token rest ts _ htoken _ hrest ih =>
    cases rest with
    | nil =>
      rw [List.append_nil, List.getLast?_append_of_ne_nil _ htoken.ne_nil] at hlast
      obtain rfl : [] = ts := hrest.run_eq
      exact ⟨[], token, rfl, hlast⟩
    | cons d rest =>
      rw [List.getLast?_append_of_ne_nil _ (List.cons_ne_nil _ _)] at hlast
      obtain ⟨s, t, rfl, ht⟩ := ih hlast
      exact ⟨token :: s, t, rfl, ht⟩

theorem isGap_of_tokens_eq_nil {t : Text} (h : tokens t = []) : IsGap t := by
  have hlexing : Lexing none t [] := h ▸ lexing_tokens t
  cases hlexing with
  | done hgap => exact hgap

/-- A text that starts with a quote has a first token, which starts with the quote. -/
theorem exists_tokens_quote {quote : Char} (hquote : isQuote quote = true) (t : Text) :
    ∃ x r, tokens (quote :: t) = (quote :: x) :: r := by
  obtain ⟨first, r, htokens, hfirst, -⟩ := exists_first_token hquote t
  rcases List.prefix_cons_iff.1 hfirst with rfl | ⟨x, rfl, -⟩
  · have hmem : [] ∈ tokens (quote :: t) := by simp [htokens]
    obtain ⟨shape, hshape⟩ := (lexing_tokens _).exists_shape [] hmem
    exact absurd rfl hshape.ne_nil
  · exact ⟨x, r, htokens⟩

theorem tokens_append_quote_ne {a : Text} (ha : quoteAfter none a = none) {quote : Char}
    (hquote : isQuote quote = true) (hlast : a.getLast? ≠ some quote) (t : Text) :
    tokens (a ++ quote :: t) ≠ tokens a := by
  obtain ⟨x, r, hx⟩ := exists_tokens_quote hquote t
  rw [tokens_append_quote ha hquote hlast, hx]
  simp

/-- What can be added to joined tokens without adding a token. -/
theorem isGap_of_tokens_join_append {ts : List Text} (hts : ∀ t ∈ ts, IsComplete t) {t : Text}
    (h : tokens (join ts ++ ' ' :: t) = ts) : IsGap t := by
  have htokens : tokens (join ts ++ ' ' :: t) = ts ++ tokens t := by
    rw [tokens, Lexer.run_join_append hts fun y _ => detached_space y t, Lexer.run_space]
    rfl
  exact isGap_of_tokens_eq_nil (List.self_eq_append_right.1 (h.symm.trans htokens))

/-- A text cannot go on with a quote behind `a` and with a space behind the joined tokens of `a`. If
`a` is longer, it is longer by spaces only. If the joined text is longer, it reaches into the region
and has one token more. -/
theorem append_quote_ne_join_append_space {a : Text} (ha : quoteAfter none a = none)
    {c quote : Char} (hlast : a.getLast? = some c) (hspace : c ≠ ' ')
    (hquote : isQuote quote = true) (hother : c ≠ quote)
    (hcomplete : ∀ t ∈ tokens a, IsComplete t) (back rest : Text) :
    a ++ quote :: back ≠ join (tokens a) ++ ' ' :: rest := by
  have hregion : ' ' ≠ quote := by
    rintro rfl
    exact absurd hquote (by decide)
  rw [Ne, List.append_eq_append_iff]
  rintro (⟨more, hmore, hbehind⟩ | ⟨more, hmore, hbehind⟩)
  · cases more with
    | nil => exact hregion (List.cons.inj hbehind).1.symm
    | cons d more =>
      obtain rfl : quote = d := (List.cons.inj hbehind).1
      refine tokens_append_quote_ne ha hquote (by simpa [hlast] using hother) more ?_
      rw [← hmore, (isTokenList_tokens a).tokens_join_eq]
  · cases more with
    | nil => exact hregion (List.cons.inj hbehind).1
    | cons d gap =>
      obtain rfl : ' ' = d := (List.cons.inj hbehind).1
      have hgap : IsGap (' ' :: gap) := List.forall_mem_cons.2
        ⟨rfl, isGap_of_tokens_join_append hcomplete (congrArg tokens hmore).symm⟩
      have hmem : (' ' :: gap).getLast? = some c := by
        rw [← hlast, hmore, List.getLast?_append_of_ne_nil _ (List.cons_ne_nil _ _)]
      exact hspace (hgap c (List.mem_of_getLast? hmem))

/-- **In front of a region of a joined text** stands a space, an opening parenthesis or nothing. -/
theorem IsTokenList.parted {ts : List Text} (hts : IsTokenList ts) {front back : Text}
    {c quote : Char} (htext : join ts = (front ++ [c]) ++ quote :: back)
    (hfront : quoteAfter none (front ++ [c]) = none) (hquote : isQuote quote = true)
    (hc : c ≠ quote) : c = ' ' ∨ c = '(' := by
  by_contra hne
  rw [not_or] at hne
  obtain ⟨hspace, hopening⟩ := hne
  have hlast : (front ++ [c]).getLast? = some c := List.getLast?_concat
  have hother : (front ++ [c]).getLast? ≠ some quote := by simpa [hlast] using hc
  obtain ⟨s, t, hs, ht⟩ := (lexing_tokens (front ++ [c])).exists_last hlast hspace
  obtain ⟨x, r, hx⟩ := exists_tokens_quote hquote back
  have htne : t ≠ opening := by
    rintro rfl
    exact hopening (by simpa [opening, eq_comm] using ht)
  have hsplit : ts = s ++ t :: (quote :: x) :: r := by
    rw [← hts.tokens_join_eq, htext, tokens_append_quote hfront hquote hother, hs, hx,
      List.append_assoc, List.singleton_append]
  have hcomplete : ∀ y ∈ s ++ [t], IsComplete y := by
    have hlexing : Lexing none (join ts) ((s ++ [t]) ++ (quote :: x) :: r) := by
      simpa [hsplit] using hts.lexing_join
    exact hlexing.isComplete_of_append
  rw [hsplit, join_append_region s r htne hquote, ← hs] at htext
  exact append_quote_ne_join_append_space hfront hlast hspace hquote hc (hs ▸ hcomplete) _ _
    htext.symm

end SqliteAccess.Token
