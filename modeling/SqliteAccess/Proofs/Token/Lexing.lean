import Mathlib.Logic.ExistsUnique
import SqliteAccess.Proofs.Token.Reading

/-!
# The only lexing of a text

The tokens that the lexer emits are a lexing of the text, and the text has no other one. Both halves
rest on the same observation: in a lexing the text behind a token cannot continue the token, and in
front of such a text the lexer reads the token as a whole.

## Main definitions

* `Token.Shape` : the four shapes of tokens.
* `Token.Shape.Holds` : whether a text has a shape.

## Main results

* `Token.Lexing.run_eq` : every lexing lists what the lexer emits.
* `Token.lexing_run` : what the lexer emits is a lexing.
* `Token.tokens_unique_lexing` : a text has exactly one lexing, and each token of it has exactly one
  shape, of which `Token.classify` finds the kind.
-/

namespace SqliteAccess.Token

/-! ### Shapes -/

/-- The shapes of tokens. The last one is that of a region which its text does not close. -/
inductive Shape
  | punctuation
  | word
  | quoted
  | unclosed
  deriving DecidableEq

/-- The kind of the tokens of a shape. -/
def Shape.kind : Shape → Kind
  | punctuation => .punctuation
  | word => .word
  | quoted => .quoted
  | unclosed => .quoted

/-- Whether a text has a shape. -/
def Shape.Holds : Shape → Text → Prop
  | punctuation, t => ∃ c, isPunctuation c = true ∧ t = [c]
  | word, t => IsWord t
  | quoted, t => ∃ quote, IsQuotedBy quote t
  | unclosed, t => ∃ quote, IsOpenBy quote t

theorem IsComplete.exists_shape {t : Text} (h : IsComplete t) : ∃ shape : Shape, shape.Holds t := by
  cases h with
  | punctuation hc => exact ⟨.punctuation, _, hc, rfl⟩
  | word h => exact ⟨.word, h⟩
  | quoted h => exact ⟨.quoted, _, h⟩

theorem isPunctuation_eq_false_of_isQuote {c : Char} (h : isQuote c = true) :
    isPunctuation c = false := by
  simp only [isQuote, Bool.or_eq_true, decide_eq_true_eq] at h
  rcases h with rfl | rfl <;> decide

private theorem classify_of_isQuote {quote : Char} (h : isQuote quote = true) (t : Text) :
    classify (quote :: t) = .ok .quoted := by
  simp [classify, isPunctuation_eq_false_of_isQuote h, h]

/-- A text of some shape has the kind of the shape. -/
theorem Shape.Holds.classify_eq {shape : Shape} {t : Text} (h : shape.Holds t) :
    classify t = .ok shape.kind := by
  cases shape with
  | punctuation =>
    obtain ⟨c, hc, rfl⟩ := h
    simp [classify, hc, kind]
  | word =>
    cases t with
    | nil => exact absurd rfl h.1
    | cons c t =>
      obtain ⟨-, hpunctuation, hquote⟩ := h.2 c List.mem_cons_self
      simp [classify, hpunctuation, hquote, kind]
  | quoted =>
    obtain ⟨quote, hquote, s, rfl⟩ := h
    exact classify_of_isQuote hquote _
  | unclosed =>
    obtain ⟨quote, hquote, s, rfl⟩ := h
    exact classify_of_isQuote hquote _

theorem Shape.Holds.ne_nil {shape : Shape} {t : Text} (h : shape.Holds t) : t ≠ [] := by
  rintro rfl
  simpa [classify] using h.classify_eq

theorem not_isWord_of_isQuotedBy {quote : Char} {t : Text} (h : IsQuotedBy quote t) :
    ¬IsWord t := by
  obtain ⟨hquote, s, rfl⟩ := h
  intro hword
  exact absurd hquote (by simp [(hword.2 quote List.mem_cons_self).2.2])

theorem not_isQuotedBy_singleton (quote c : Char) : ¬IsQuotedBy quote [c] := by
  rintro ⟨-, s, h⟩
  simp [Text.enclose] at h

/-- A whole region holds its quote an even number of times, a region that is not closed an odd
number of times. -/
theorem not_isOpenBy_of_isQuotedBy {q r : Char} {t : Text} (hq : IsQuotedBy q t) :
    ¬IsOpenBy r t := by
  rintro ⟨-, u, hu⟩
  obtain ⟨-, s, rfl⟩ := hq
  obtain rfl : q = r := (List.cons.inj hu).1
  have hcount := congrArg (List.count q) hu
  simp only [Text.enclose, List.count_cons_self, List.count_append, Text.count_double,
    List.count_nil] at hcount
  omega

/-- A text has at most one shape. The kind tells all shapes apart but those of regions, and
these differ in the number of their quotes. -/
theorem Shape.Holds.unique {a b : Shape} {t : Text} (ha : a.Holds t) (hb : b.Holds t) : a = b := by
  have hkind : a.kind = b.kind := Except.ok.inj (ha.classify_eq.symm.trans hb.classify_eq)
  have hregions : a = b ∨ (a = .quoted ∧ b = .unclosed) ∨ (a = .unclosed ∧ b = .quoted) := by
    revert hkind
    cases a <;> cases b <;> decide
  rcases hregions with h | ⟨rfl, rfl⟩ | ⟨rfl, rfl⟩
  · exact h
  · exact absurd hb.choose_spec (not_isOpenBy_of_isQuotedBy ha.choose_spec)
  · exact absurd ha.choose_spec (not_isOpenBy_of_isQuotedBy hb.choose_spec)

/-- Among the texts with a shape the words are those that start with a word character. -/
theorem Shape.Holds.isWord_of_head {shape : Shape} {t : Text} (h : shape.Holds t)
    (hhead : ∃ c ∈ t.head?, IsWordChar c) : IsWord t := by
  obtain ⟨c, hc, -, hpunctuation, hquote⟩ := hhead
  cases shape with
  | punctuation =>
    obtain ⟨d, hd, rfl⟩ := h
    obtain rfl : d = c := by simpa using hc
    exact absurd hd (by simp [hpunctuation])
  | word => exact h
  | quoted =>
    obtain ⟨q, hq, s, rfl⟩ := h
    obtain rfl : q = c := by simpa [Text.enclose] using hc
    exact absurd hq (by simp [hquote])
  | unclosed =>
    obtain ⟨q, hq, s, rfl⟩ := h
    obtain rfl : q = c := by simpa using hc
    exact absurd hq (by simp [hquote])

/-! ### Neighbours -/

/-- A space continues no token. -/
theorem detached_space (token t : Text) : Detached token (' ' :: t) := by
  refine ⟨fun _ c hc => ?_, fun quote hquoted hc => ?_⟩
  · obtain rfl : ' ' = c := by simpa using hc
    exact fun h => h.1 rfl
  · obtain rfl : ' ' = quote := by simpa using hc
    exact absurd hquoted.1 (by decide)

theorem detached_nil (token : Text) : Detached token [] := by
  refine ⟨fun _ c hc => ?_, fun _ _ hc => ?_⟩
  · simp at hc
  · simp at hc

/-- Two neighbours may touch exactly when the second one, with whatever follows it, cannot
continue the first. -/
theorem mayTouch_iff_detached {first second : Text} {shape : Shape} (h : shape.Holds second)
    (rest : Text) : MayTouch first second ↔ Detached first (second ++ rest) := by
  have hhead : (second ++ rest).head? = second.head? := by
    obtain ⟨c, t, rfl⟩ := List.exists_cons_of_ne_nil h.ne_nil
    rfl
  rw [MayTouch, Detached, hhead]
  refine and_congr_left fun _ => ⟨fun hwords hfirst c hc hword => ?_, fun hchars hwords => ?_⟩
  · exact hwords ⟨hfirst, h.isWord_of_head ⟨c, hc, hword⟩⟩
  · obtain ⟨c, t, rfl⟩ := List.exists_cons_of_ne_nil hwords.2.1
    exact hchars hwords.1 c rfl (hwords.2.2 c List.mem_cons_self)

/-- Behind a gap a token is separated from the one in front exactly when the whole text cannot
continue that one. -/
theorem separated_iff_detached {previous : Option Text} {gap token : Text} {shape : Shape}
    (hgap : IsGap gap) (h : shape.Holds token) (rest : Text) :
    Separated previous gap token ↔ ∀ p ∈ previous, Detached p (gap ++ (token ++ rest)) := by
  cases gap with
  | nil =>
    simp only [Separated, forall_const, List.nil_append]
    exact forall₂_congr fun p _ => mayTouch_iff_detached h rest
  | cons c gap =>
    obtain rfl : c = ' ' := hgap c List.mem_cons_self
    simp only [Separated, reduceCtorEq, false_imp_iff, true_iff]
    exact fun p _ => detached_space p _

/-! ### Every lexing lists what the lexer emits -/

theorem Lexing.detached {token text : Text} {ts : List Text} (h : Lexing (some token) text ts) :
    Detached token text := by
  cases h with
  | done hgap =>
    cases text with
    | nil => exact detached_nil token
    | cons c gap =>
      obtain rfl : c = ' ' := hgap c List.mem_cons_self
      exact detached_space token gap
  | @last _ gap t quote hgap htoken hsep =>
    have hshape : Shape.unclosed.Holds t := ⟨quote, htoken⟩
    simpa using (separated_iff_detached hgap hshape []).1 hsep token rfl
  | @next _ gap t rest _ hgap htoken hsep =>
    obtain ⟨shape, hshape⟩ := htoken.exists_shape
    rw [List.append_assoc]
    exact (separated_iff_detached hgap hshape rest).1 hsep token rfl

theorem Lexing.run_eq {previous : Option Text} {text : Text} {ts : List Text}
    (h : Lexing previous text ts) : Lexer.run {} text = ts := by
  induction h with
  | @done _ gap hgap =>
    have hrun := Lexer.run_gap hgap []
    rwa [List.append_nil] at hrun
  | last hgap htoken =>
    obtain ⟨hquote, s, rfl⟩ := htoken
    rw [Lexer.run_gap hgap, Lexer.run_open hquote]
  | next hgap htoken _ hrest ih =>
    rw [List.append_assoc, Lexer.run_gap hgap, Lexer.run_token htoken hrest.detached, ih]

/-! ### What the lexer emits is a lexing -/

theorem Lexing.space_cons {text : Text} {ts : List Text} (h : Lexing none text ts)
    (previous : Option Text) : Lexing previous (' ' :: text) ts := by
  have hgap : ∀ {gap : Text}, IsGap gap → IsGap (' ' :: gap) := fun h =>
    List.forall_mem_cons.2 ⟨rfl, h⟩
  cases h with
  | done h => exact .done (hgap h)
  | last h htoken => exact .last (hgap h) htoken fun h => absurd h (by simp)
  | next h htoken _ hrest => exact .next (hgap h) htoken (fun h => absurd h (by simp)) hrest

theorem Lexing.cons {previous : Option Text} {token rest : Text} {ts : List Text}
    (htoken : IsComplete token) (hprevious : ∀ p ∈ previous, Detached p (token ++ rest))
    (hrest : Lexing (some token) rest ts) : Lexing previous (token ++ rest) (token :: ts) := by
  obtain ⟨shape, hshape⟩ := htoken.exists_shape
  have hgap : IsGap [] := by simp [IsGap]
  exact .next hgap htoken ((separated_iff_detached hgap hshape rest).2 hprevious) hrest

/-- A text that starts with a word character starts with a whole word. -/
theorem exists_word_append {c : Char} (hc : IsWordChar c) (t : Text) :
    ∃ word rest, c :: t = word ++ rest ∧ IsWord word ∧ ∀ d ∈ rest.head?, ¬IsWordChar d := by
  induction t generalizing c with
  | nil => exact ⟨[c], [], rfl, ⟨by simp, List.forall_mem_singleton.2 hc⟩, by simp⟩
  | cons d t ih =>
    by_cases hd : IsWordChar d
    · obtain ⟨word, rest, h, hword, hrest⟩ := ih hd
      refine ⟨c :: word, rest, by rw [h, List.cons_append], ⟨by simp, ?_⟩, hrest⟩
      exact List.forall_mem_cons.2 ⟨hc, hword.2⟩
    · exact ⟨[c], d :: t, rfl, ⟨by simp, List.forall_mem_singleton.2 hc⟩, by simpa using hd⟩

theorem lexing_run {previous : Option Text} {text : Text}
    (h : ∀ p ∈ previous, Detached p text) : Lexing previous text (Lexer.run {} text) := by
  induction hn : text.length using Nat.strongRecOn generalizing previous text with
  | ind n ih =>
  subst hn
  -- a complete token in front leaves a shorter text, which the token in front of it detaches
  have hnext (token rest : Text) (htext : text = token ++ rest) (htoken : IsComplete token)
      (hrest : Detached token rest) : Lexing previous text (Lexer.run {} text) := by
    subst htext
    rw [Lexer.run_token htoken hrest]
    refine .cons htoken h (ih _ ?_ (by simpa using hrest) rfl)
    simpa using List.length_pos_iff.2 htoken.ne_nil
  match text with
  | [] => exact .done (by simp [IsGap])
  | c :: t =>
    by_cases hc : IsWordChar c
    · obtain ⟨word, rest, htext, hword, hrest⟩ := exists_word_append hc t
      refine hnext word rest htext (.word hword) ⟨fun _ => hrest, fun quote hquoted => ?_⟩
      exact absurd hword (not_isWord_of_isQuotedBy hquoted)
    rcases not_isWordChar_iff.1 hc with rfl | hc | hc
    · rw [← Lexer.outside_nil, Lexer.run_outside_space]
      exact (ih _ (by simp) (by simp) rfl).space_cons previous
    · refine hnext [c] t rfl (.punctuation hc) ⟨fun hword => ?_, fun quote hquoted => ?_⟩
      · exact absurd hword (not_isWord_of_isPunctuation hc)
      · exact absurd hquoted (not_isQuotedBy_singleton quote c)
    · rcases Text.closes_or_eq_double c t with ⟨s, rest, rfl, hrest⟩ | ⟨s, rfl⟩
      · have hquoted : IsQuotedBy c (Text.enclose c s) := ⟨hc, s, rfl⟩
        refine hnext (Text.enclose c s) rest (by simp [Text.enclose]) (.quoted hquoted)
          ⟨fun hword => ?_, fun quote hquoted' => ?_⟩
        · exact absurd hword (not_isWord_of_isQuotedBy hquoted)
        · obtain ⟨-, u, hu⟩ := hquoted'
          rwa [← (List.cons.inj hu).1]
      · have hopen : IsOpenBy c (c :: Text.double c s) := ⟨hc, s, rfl⟩
        have hgap : IsGap [] := by simp [IsGap]
        have hshape : Shape.unclosed.Holds (c :: Text.double c s) := ⟨c, hopen⟩
        rw [Lexer.run_open hc]
        exact .last hgap hopen ((separated_iff_detached hgap hshape []).2 (by simpa using h))

theorem lexing_tokens (sql : Text) : Lexing none sql (tokens sql) := lexing_run (by simp)

/-! ### The only lexing -/

theorem Lexing.exists_shape {previous : Option Text} {text : Text} {ts : List Text}
    (h : Lexing previous text ts) : ∀ t ∈ ts, ∃ shape : Shape, shape.Holds t := by
  induction h with
  | done => simp
  | @last _ _ token quote _ htoken =>
    intro t ht
    obtain rfl : t = token := by simpa using ht
    exact ⟨.unclosed, quote, htoken⟩
  | next _ htoken _ _ ih => exact List.forall_mem_cons.2 ⟨htoken.exists_shape, ih⟩

/-- **A text has exactly one lexing**, and the lexer emits its tokens. Each token has exactly one
of the four shapes, and its kind is that of its shape. -/
theorem tokens_unique_lexing (sql : Text) :
    (∀ ts, Lexing none sql ts ↔ ts = tokens sql) ∧
      ∀ t ∈ tokens sql, t ≠ [] ∧ (∃! shape : Shape, shape.Holds t) ∧
        ∀ shape : Shape, shape.Holds t → classify t = .ok shape.kind := by
  have hlexing : Lexing none sql (tokens sql) := lexing_run (by simp)
  refine ⟨fun ts => ⟨fun h => h.run_eq.symm, fun h => h ▸ hlexing⟩, fun t ht => ?_⟩
  obtain ⟨shape, hshape⟩ := hlexing.exists_shape t ht
  exact ⟨hshape.ne_nil, ⟨shape, hshape, fun _ h => h.unique hshape⟩, fun _ h => h.classify_eq⟩

/-- A word, a region that touches it, punctuation, and a region that is not closed. -/
theorem tokens_unique_lexing_touching :
    Lexing none "a'b''c'(\"d".toList
        ["a".toList, "'b''c'".toList, "(".toList, "\"d".toList] ∧
      "\"d".toList ∈ tokens "a'b''c'(\"d".toList ∧ classify "\"d".toList = .ok .quoted := by
  have h := tokens_unique_lexing "a'b''c'(\"d".toList
  have hmem : "\"d".toList ∈ tokens "a'b''c'(\"d".toList := by decide
  exact ⟨(h.1 _).2 (by decide), hmem, (h.2 _ hmem).2.2 .unclosed ⟨'"', rfl, ['d'], rfl⟩⟩

end SqliteAccess.Token
