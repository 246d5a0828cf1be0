import SqliteAccess.Proofs.Token.Lexing
import SqliteAccess.Token.Unquoted

/-!
# Punctuation among the tokens

The lexer and the count of quotes agree on what stands outside the quoted regions: the punctuation
tokens of a text are the punctuation characters outside its regions, in the same order, and each
word is made of characters outside the regions.

## Main definitions

* `Token.mark?` : the character of a punctuation token.

## Main results

* `Token.Lexing.filterMap_mark` : the punctuation of a lexing is that outside the regions.
* `Token.Lexing.mem_unquoted` : the characters of a word stand outside the regions.
* `Token.Lexing.isComplete_of_append` : only the last token may be incomplete.
-/

namespace SqliteAccess.Token

/-- The character of a punctuation token. -/
def mark? : Text → Option Char
  | [c] => if isPunctuation c then some c else none
  | _ => none

theorem mark?_eq_some_iff {t : Text} {c : Char} :
    mark? t = some c ↔ t = [c] ∧ isPunctuation c = true := by
  unfold mark?
  split
  · split
    · grind
    · grind
  · simp_all

/-- Among the texts with a shape only punctuation has a mark. -/
theorem Shape.Holds.mark?_eq_none {shape : Shape} {t : Text} (h : shape.Holds t)
    (hshape : shape ≠ .punctuation) : mark? t = none := by
  rw [Option.eq_none_iff_forall_ne_some]
  intro c hc
  obtain ⟨rfl, hpunctuation⟩ := mark?_eq_some_iff.1 hc
  have hmark : Shape.punctuation.Holds [c] := ⟨c, hpunctuation, rfl⟩
  exact hshape (h.unique hmark)

theorem isQuote_eq_false_of_isPunctuation {c : Char} (h : isPunctuation c = true) :
    isQuote c = false := by
  rw [← Bool.not_eq_true]
  exact fun hquote => absurd h (by simp [isPunctuation_eq_false_of_isQuote hquote])

theorem unquoted_gap_append {gap : Text} (hgap : IsGap gap) (t : Text) :
    unquoted (gap ++ t) = gap ++ unquoted t :=
  unquoted_append (fun c hc => by rw [hgap c hc]; decide) t

theorem filter_isPunctuation_gap {gap : Text} (hgap : IsGap gap) :
    gap.filter isPunctuation = [] := by
  rw [List.filter_eq_nil_iff]
  intro c hc
  rw [hgap c hc]
  decide

/-- What a complete token leaves outside the regions: a word leaves itself, and the punctuation that
is left is its mark. -/
theorem IsComplete.exists_unquoted {t : Text} (h : IsComplete t) :
    ∃ x, (∀ rest, unquoted (t ++ rest) = x ++ unquoted rest) ∧
      x.filter isPunctuation = (mark? t).toList ∧ (IsWord t → x = t) := by
  cases h with
  | @punctuation c hc =>
    have hquote : ∀ d ∈ [c], isQuote d = false :=
      List.forall_mem_singleton.2 (isQuote_eq_false_of_isPunctuation hc)
    exact ⟨[c], unquoted_append hquote, by simp [mark?, hc], fun _ => rfl⟩
  | word hword =>
    have hshape : Shape.word.Holds t := hword
    have hfilter : t.filter isPunctuation = [] :=
      List.filter_eq_nil_iff.2 fun c hc => by simp [(hword.2 c hc).2.1]
    have hmark : mark? t = none := hshape.mark?_eq_none (by decide)
    exact ⟨t, unquoted_append fun c hc => (hword.2 c hc).2.2, by rw [hfilter, hmark]; rfl,
      fun _ => rfl⟩
  | @quoted quote _ hquoted =>
    have hshape : Shape.quoted.Holds t := ⟨quote, hquoted⟩
    have hword : ¬IsWord t := not_isWord_of_isQuotedBy hquoted
    obtain ⟨hquote, s, rfl⟩ := hquoted
    exact ⟨[], unquoted_enclose_append hquote s, by rw [hshape.mark?_eq_none (by decide)]; rfl,
      fun h => absurd h hword⟩

/-- **The punctuation of a lexing** is the punctuation outside the quoted regions of its text. -/
theorem Lexing.filterMap_mark {previous : Option Text} {text : Text} {ts : List Text}
    (h : Lexing previous text ts) :
    ts.filterMap mark? = (unquoted text).filter isPunctuation := by
  induction h with
  | @done _ gap hgap =>
    have hgapped := unquoted_gap_append hgap []
    rw [List.append_nil, unquoted_nil, List.append_nil] at hgapped
    rw [hgapped, filter_isPunctuation_gap hgap]
    rfl
  | @last _ gap token quote hgap htoken _ =>
    have hshape : Shape.unclosed.Holds token := ⟨quote, htoken⟩
    obtain ⟨hquote, s, rfl⟩ := htoken
    rw [unquoted_gap_append hgap, unquoted_open hquote, List.append_nil,
      filter_isPunctuation_gap hgap, List.filterMap_cons_none (hshape.mark?_eq_none (by decide))]
    rfl
  | @next _ gap token rest ts hgap htoken _ _ ih =>
    obtain ⟨x, hx, hmark, -⟩ := htoken.exists_unquoted
    rw [List.append_assoc, unquoted_gap_append hgap, hx, List.filter_append, List.filter_append,
      filter_isPunctuation_gap hgap, hmark, ← ih, List.nil_append]
    cases h : mark? token <;> simp [h]

/-- The characters of a word stand outside the quoted regions. -/
theorem Lexing.mem_unquoted {previous : Option Text} {text : Text} {ts : List Text}
    (h : Lexing previous text ts) :
    ∀ t ∈ ts, IsWord t → ∀ c ∈ t, c ∈ unquoted text := by
  induction h with
  | done => simp
  | @last _ _ token quote _ htoken _ =>
    intro t ht hword
    obtain rfl : t = token := by simpa using ht
    obtain ⟨hquote, s, rfl⟩ := htoken
    exact absurd hquote (by simp [(hword.2 quote List.mem_cons_self).2.2])
  | @next _ gap token rest _ hgap htoken _ _ ih =>
    intro t ht hword c hc
    obtain ⟨x, hx, -, hself⟩ := htoken.exists_unquoted
    rw [List.append_assoc, unquoted_gap_append hgap, hx]
    refine List.mem_append_right _ ?_
    rcases List.mem_cons.1 ht with rfl | ht
    · rw [hself hword]
      exact List.mem_append_left _ hc
    · exact List.mem_append_right _ (ih t ht hword c hc)

/-- A token with another one behind it is complete. -/
theorem Lexing.isComplete_of_append {previous : Option Text} {text : Text} {a b : List Text}
    {t : Text} (h : Lexing previous text (a ++ t :: b)) : ∀ x ∈ a, IsComplete x := by
  induction a generalizing previous text with
  | nil => simp
  | cons x a ih =>
    generalize hts : x :: a ++ t :: b = ts at h
    cases h with
    | done => simp at hts
    | last => simp at hts
    | next hgap htoken hsep hrest =>
      obtain ⟨rfl, rfl⟩ := List.cons.inj hts
      exact List.forall_mem_cons.2 ⟨htoken, ih hrest⟩

end SqliteAccess.Token
