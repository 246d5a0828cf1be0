import SqliteAccess.Proofs.Token.Joining
import SqliteAccess.Proofs.Token.Marks
import SqliteAccess.Proofs.Token.Splicing

/-!
# Quoted regions with and without lookahead

A region can be followed in two ways. The lexer looks one character ahead and stays inside the
region at a doubled quote. A reader without lookahead leaves the region at the first quote of the
pair and enters a new one at the second. Both read the same characters as quoted, in every text,
because the region that is left and the one that is entered have the same quote, and no character
stands between the two.

So a text can be cut wherever no region is open: the lexer emits the tokens of the part in front,
and then those of a part behind it that starts with a space or with punctuation.

## Main definitions

* `Token.quoteAfter` : the quote of the region that is open behind a text, read without lookahead.
* `Token.quotedMarks` : the characters that belong to a region, read without lookahead.
* `Lexer.quotedMarks` : the characters that the lexer reads as part of a region.
* `Lexer.IsAt` : the states of the lexer in a region and outside all regions.

## Main results

* `Lexer.isAt_scan` : the lexer and the reader without lookahead are in the same region.
* `Lexer.quotedMarks_eq` : they read the same characters as quoted.
* `Token.Lexing.append` : a lexing goes on behind a text that ends outside the regions.
* `Token.tokens_append_space`, `Token.tokens_append_punctuation` : a text is cut at a space and
  around punctuation outside the regions.
-/

namespace SqliteAccess

namespace Token

/-- The quote of the open region behind one more character, read without lookahead. -/
def quoteStep (quote : Option Char) (c : Char) : Option Char :=
  match quote with
  | some q => if c = q then none else some q
  | none => if isQuote c then some c else none

/-- The quote of the region that is open behind a text, read without lookahead. -/
def quoteAfter (quote : Option Char) (text : Text) : Option Char := text.foldl quoteStep quote

/-- Whether each character belongs to a region, its quotes included, read without lookahead. -/
def quotedMarks (quote : Option Char) : Text → List Bool
  | [] => []
  | c :: rest =>
    (quote.isSome || (quoteStep quote c).isSome) :: quotedMarks (quoteStep quote c) rest

@[simp]
theorem quotedMarks_cons (quote : Option Char) (c : Char) (t : Text) :
    quotedMarks quote (c :: t) =
      (quote.isSome || (quoteStep quote c).isSome) :: quotedMarks (quoteStep quote c) t := rfl

@[simp]
theorem quoteAfter_nil (quote : Option Char) : quoteAfter quote [] = quote := rfl

@[simp]
theorem quoteAfter_cons (quote : Option Char) (c : Char) (t : Text) :
    quoteAfter quote (c :: t) = quoteAfter (quoteStep quote c) t := rfl

@[simp]
theorem quoteAfter_append (quote : Option Char) (s t : Text) :
    quoteAfter quote (s ++ t) = quoteAfter (quoteAfter quote s) t := List.foldl_append

/-- Only quotes open a region. -/
theorem isQuote_of_mem_quoteAfter {quote : Option Char} (hquote : ∀ q ∈ quote, isQuote q = true)
    (t : Text) : ∀ q ∈ quoteAfter quote t, isQuote q = true := by
  induction t generalizing quote with
  | nil => exact hquote
  | cons c t ih =>
    refine ih fun q hq => ?_
    cases quote with
    | none =>
      obtain ⟨hc, rfl⟩ : isQuote c = true ∧ c = q := by simpa [quoteStep] using hq
      exact hc
    | some r =>
      obtain ⟨-, rfl⟩ : ¬c = r ∧ r = q := by simpa [quoteStep] using hq
      exact hquote r rfl

/-- Only quotes open and close regions. -/
theorem quoteAfter_of_forall {quote : Option Char} (hquote : ∀ q ∈ quote, isQuote q = true)
    {t : Text} (ht : ∀ c ∈ t, isQuote c = false) : quoteAfter quote t = quote := by
  induction t with
  | nil => rfl
  | cons c t ih =>
    obtain ⟨hc, ht⟩ := List.forall_mem_cons.1 ht
    have hstep : quoteStep quote c = quote := by
      cases quote with
      | none => simp [quoteStep, hc]
      | some q =>
        have hne : c ≠ q := fun h => by simp [← h, hc] at hquote
        simp [quoteStep, hne]
    rw [quoteAfter_cons, hstep, ih ht]

/-- The body of a region leaves the region open. -/
theorem quoteAfter_double {quote : Char} (hquote : isQuote quote = true) (s : Text) :
    quoteAfter (some quote) (Text.double quote s) = some quote := by
  induction s with
  | nil => rfl
  | cons c s ih =>
    by_cases hc : c = quote
    · simpa [Text.double, hc, quoteStep, hquote] using ih
    · simpa [Text.double, hc, quoteStep] using ih

/-- Behind a complete token no region is open. -/
theorem IsComplete.quoteAfter_eq {t : Text} (h : IsComplete t) : quoteAfter none t = none := by
  cases h with
  | punctuation hc =>
    exact quoteAfter_of_forall (by simp)
      (List.forall_mem_singleton.2 (isQuote_eq_false_of_isPunctuation hc))
  | word hword => exact quoteAfter_of_forall (by simp) fun c hc => (hword.2 c hc).2.2
  | quoted hquoted =>
    obtain ⟨hquote, s, rfl⟩ := hquoted
    simp [Text.enclose, quoteStep, hquote, quoteAfter_double hquote]

theorem IsGap.quoteAfter_eq {gap : Text} (h : IsGap gap) : quoteAfter none gap = none :=
  quoteAfter_of_forall (by simp) fun c hc => by rw [h c hc]; decide

/-- A character that is no quote leaves the regions as they are. -/
theorem quoteAfter_append_singleton {c : Char} (hc : isQuote c = false) (t : Text) :
    quoteAfter none (t ++ [c]) = quoteAfter none t := by
  rw [quoteAfter_append]
  exact quoteAfter_of_forall (isQuote_of_mem_quoteAfter (by simp) t)
    (List.forall_mem_singleton.2 hc)

/-- A character outside the regions stands somewhere in the text, with no region open in front of
it. -/
theorem exists_append_of_unquotedFrom {quote : Option Char} {sql x y : Text} {c : Char}
    (h : unquotedFrom quote sql = x ++ c :: y) :
    ∃ a b, sql = a ++ c :: b ∧ quoteAfter quote a = none ∧ unquotedFrom quote a = x ∧
      unquoted b = y := by
  induction sql generalizing quote x with
  | nil => simp [unquotedFrom] at h
  | cons d sql ih =>
    cases quote with
    | some q =>
      obtain ⟨a, b, rfl, ha, hx, hy⟩ := ih h
      exact ⟨d :: a, b, rfl, ha, hx, hy⟩
    | none =>
      by_cases hd : isQuote d = true
      · rw [unquotedFrom, if_pos hd] at h
        obtain ⟨a, b, rfl, ha, hx, hy⟩ := ih h
        exact ⟨d :: a, b, rfl, by rwa [quoteAfter_cons, quoteStep, if_pos hd],
          by rwa [unquotedFrom, if_pos hd], hy⟩
      · rw [unquotedFrom, if_neg hd] at h
        cases x with
        | nil =>
          obtain ⟨rfl, rfl⟩ := List.cons.inj h
          exact ⟨[], sql, rfl, rfl, rfl, rfl⟩
        | cons e x =>
          obtain ⟨rfl, hrest⟩ := List.cons.inj h
          obtain ⟨a, b, rfl, ha, hx, hy⟩ := ih hrest
          exact ⟨d :: a, b, rfl, by rwa [quoteAfter_cons, quoteStep, if_neg hd],
            by rw [unquotedFrom, if_neg hd, hx], hy⟩

/-- Every token of a lexing stands in the text, with no region open in front of it. -/
theorem Lexing.exists_append {previous : Option Text} {text : Text} {ts : List Text}
    (h : Lexing previous text ts) :
    ∀ t ∈ ts, ∃ front back, text = front ++ (t ++ back) ∧ quoteAfter none front = none := by
  induction h with
  | done => simp
  | @last _ gap token _ hgap =>
    exact List.forall_mem_singleton.2 ⟨gap, [], by simp, hgap.quoteAfter_eq⟩
  | @next _ gap token rest _ hgap htoken _ _ ih =>
    refine List.forall_mem_cons.2 ⟨⟨gap, rest, by simp, hgap.quoteAfter_eq⟩, fun t ht => ?_⟩
    obtain ⟨front, back, rfl, hfront⟩ := ih t ht
    refine ⟨gap ++ (token ++ front), back, by simp, ?_⟩
    rw [quoteAfter_append, quoteAfter_append, hgap.quoteAfter_eq, htoken.quoteAfter_eq, hfront]

theorem Shape.Holds.isWord {shape : Shape} {t : Text} (h : shape.Holds t)
    (hkind : classify t = .ok .word) : IsWord t := by
  have hshape : shape.kind = .word := Except.ok.inj (h.classify_eq.symm.trans hkind)
  cases shape with
  | word => exact h
  | punctuation | quoted | unclosed => exact absurd hshape (by decide)

/-- A region leaves nothing outside, whether or not it is closed. -/
theorem Shape.Holds.unquoted_eq_nil {shape : Shape} {t : Text} (h : shape.Holds t)
    (hkind : classify t = .ok .quoted) : unquoted t = [] := by
  have hshape : shape.kind = .quoted := Except.ok.inj (h.classify_eq.symm.trans hkind)
  cases shape with
  | punctuation | word => exact absurd hshape (by decide)
  | quoted =>
    obtain ⟨quote, hquote, s, rfl⟩ := h
    simpa using unquoted_enclose_append hquote s []
  | unclosed =>
    obtain ⟨quote, hquote, s, rfl⟩ := h
    exact unquoted_open hquote s

end Token

namespace Lexer

open Token

/-- The states of the lexer in the region of a quote, and outside all regions. -/
inductive IsAt : Lexer → Option Char → Prop
  | outside (word : Text) : IsAt (outside word) none
  | inside {quote : Char} (hquote : isQuote quote = true) (pending : Text) :
      IsAt (inside quote pending) (some quote)

/-- Whether each character is read as part of a region, its quotes included. A doubled quote is
read in one transition. -/
def quotedMarks (s : Lexer) : Text → List Bool
  | [] => []
  | [c] => [decide (s.mode = .quoted ∨ (s.step [c] none).lexer.mode = .quoted)]
  | c :: next :: rest =>
    let step := s.step [c] (some [next])
    let mark := decide (s.mode = .quoted ∨ step.lexer.mode = .quoted)
    if step.consumed = 2 then mark :: mark :: quotedMarks step.lexer rest
    else mark :: quotedMarks step.lexer (next :: rest)

variable {s : Lexer} {quote : Option Char}

theorem IsAt.mode_iff (h : s.IsAt quote) : s.mode = .quoted ↔ quote.isSome = true := by
  cases h with
  | outside word => simp [mode_outside]
  | inside hquote pending => simp [Lexer.inside]

/-- One transition, unless it reads a doubled quote: one character is read, the lookahead does not
matter, and the region behind it is the one that is found without lookahead. -/
theorem IsAt.step (h : s.IsAt quote) {c : Char} {lookahead : Option Text}
    (hsingle : quote = some c → lookahead ≠ some [c]) :
    s.step [c] lookahead = s.step [c] none ∧ (s.step [c] none).consumed = 1 ∧
      (s.step [c] none).lexer.IsAt (quoteStep quote c) := by
  cases h with
  | outside word =>
    by_cases hc : IsWordChar c
    · rw [step_outside_word hc, step_outside_word hc, quoteStep, if_neg (by simp [hc.2.2])]
      exact ⟨rfl, rfl, .outside _⟩
    rcases not_isWordChar_iff.1 hc with rfl | hc | hc
    · rw [step_outside_space, step_outside_space]
      exact ⟨rfl, rfl, .outside []⟩
    · rw [step_outside_punctuation hc, step_outside_punctuation hc, quoteStep,
        if_neg (by simp [isQuote_eq_false_of_isPunctuation hc])]
      exact ⟨rfl, rfl, .outside []⟩
    · rw [step_quote (mode_outside word) hc, step_quote (mode_outside word) hc, quoteStep,
        if_pos hc]
      exact ⟨rfl, rfl, .inside hc _⟩
  | @inside q hquote pending =>
    by_cases hc : c = q
    · subst hc
      rw [step_inside_close (hsingle rfl), step_inside_close (by simp), quoteStep, if_pos rfl]
      exact ⟨rfl, rfl, .outside []⟩
    · rw [step_inside_of_ne hc, step_inside_of_ne hc, quoteStep, if_neg hc]
      exact ⟨rfl, rfl, .inside hquote _⟩

/-- The last character of a text is read alone. -/
theorem IsAt.step_last (h : s.IsAt quote) (c : Char) :
    (s.step [c] none).lexer.IsAt (quoteStep quote c) := by
  have hsingle : quote = some c → (none : Option Text) ≠ some [c] := by simp
  exact (h.step hsingle).2.2

/-- A doubled quote is read in one transition, inside its region. -/
theorem IsAt.step_double {c : Char} (h : s.IsAt (some c)) :
    (s.step [c] (some [c])).consumed = 2 ∧ (s.step [c] (some [c])).lexer.IsAt (some c) := by
  cases h with
  | inside hquote pending =>
    rw [step_inside_double]
    exact ⟨rfl, .inside hquote _⟩

/-- Two characters are read at once only where the first one doubles the quote of its region. -/
theorem IsAt.eq_of_consumed (h : s.IsAt quote) {c next : Char}
    (hconsumed : (s.step [c] (some [next])).consumed = 2) : quote = some c ∧ next = c := by
  refine not_not.1 fun hdouble => ?_
  have hsingle : quote = some c → some [next] ≠ some [c] := by simpa using hdouble
  obtain ⟨hstep, hone, -⟩ := h.step hsingle
  rw [hstep, hone] at hconsumed
  exact absurd hconsumed (by decide)

/-- One character that is read alone, whatever stands behind it. -/
theorem IsAt.step_of_consumed (h : s.IsAt quote) {c next : Char}
    (hconsumed : (s.step [c] (some [next])).consumed ≠ 2) :
    (s.step [c] (some [next])).lexer.IsAt (quoteStep quote c) := by
  have hsingle : quote = some c → some [next] ≠ some [c] := by
    rintro rfl hnext
    obtain rfl : next = c := by simpa using hnext
    exact hconsumed h.step_double.1
  obtain ⟨hstep, -, hat⟩ := h.step hsingle
  rwa [hstep]

/-- The pair of a doubled quote leaves its region and enters one with the same quote. -/
theorem quoteStep_quoteStep_self {c : Char} (hc : isQuote c = true) :
    quoteStep (quoteStep (some c) c) c = some c := by
  simp [quoteStep, hc]

theorem IsAt.isQuote {c : Char} (h : s.IsAt (some c)) : isQuote c = true := by
  cases h with
  | inside hquote => exact hquote

/-- **Both readings are in the same region** behind every text. -/
theorem isAt_scan (h : s.IsAt quote) (a : Text) : (s.scan a).2.IsAt (quoteAfter quote a) := by
  revert quote
  induction s, a using scan.induct
  case case1 s => exact fun h => h
  case case2 s c => exact fun h => h.step_last c
  case case3 s c next rest step hconsumed ih =>
    intro quote h
    obtain ⟨rfl, rfl⟩ := h.eq_of_consumed hconsumed
    rw [scan, if_pos hconsumed, quoteAfter_cons, quoteAfter_cons,
      quoteStep_quoteStep_self h.isQuote]
    exact ih h.step_double.2
  case case4 s c next rest step hconsumed ih =>
    intro quote h
    rw [scan, if_neg hconsumed, quoteAfter_cons]
    exact ih (h.step_of_consumed hconsumed)

/-- A text ends outside the regions for the lexer exactly if it does without lookahead. -/
theorem mode_scan_iff (a : Text) :
    (scan {} a).2.mode ≠ .quoted ↔ quoteAfter none a = none := by
  have hat : IsAt {} none := .outside []
  rw [Ne, (isAt_scan hat a).mode_iff, Option.isSome_iff_ne_none, not_not]

/-- **Both readings find the same characters quoted**, whether or not the last region is closed. -/
theorem quotedMarks_eq (h : s.IsAt quote) (t : Text) :
    s.quotedMarks t = Token.quotedMarks quote t := by
  revert quote
  induction s, t using scan.induct
  case case1 s => exact fun _ => rfl
  case case2 s c =>
    intro quote h
    have hstep := h.step_last c
    simp only [quotedMarks, Token.quotedMarks, h.mode_iff, hstep.mode_iff, Bool.decide_or,
      Bool.decide_eq_true]
  case case3 s c next rest step hconsumed ih =>
    intro quote h
    obtain ⟨rfl, rfl⟩ := h.eq_of_consumed hconsumed
    rw [quotedMarks, if_pos hconsumed, ih h.step_double.2, Token.quotedMarks, Token.quotedMarks,
      quoteStep_quoteStep_self h.isQuote]
    simp [h.mode_iff]
  case case4 s c next rest step hconsumed ih =>
    intro quote h
    have hstep := h.step_of_consumed hconsumed
    rw [quotedMarks, if_neg hconsumed, ih hstep, Token.quotedMarks_cons quote]
    simp only [h.mode_iff, hstep.mode_iff, Bool.decide_or, Bool.decide_eq_true]

end Lexer

/-! ### Cuts outside the regions -/

namespace Token

/-- A region that the text does not close is open behind it. -/
theorem IsOpenBy.quoteAfter_eq {quote : Char} {t : Text} (h : IsOpenBy quote t) :
    quoteAfter none t = some quote := by
  obtain ⟨hquote, s, rfl⟩ := h
  rw [quoteAfter_cons, quoteStep, if_pos hquote, quoteAfter_double hquote]

theorem Lexing.gap_append {gap text : Text} {ts : List Text} (hgap : IsGap gap)
    (h : ∀ previous, Lexing previous text ts) (previous : Option Text) :
    Lexing previous (gap ++ text) ts := by
  induction gap generalizing previous with
  | nil => exact h previous
  | cons c gap ih =>
    obtain ⟨rfl, hrest⟩ := List.forall_mem_cons.1 hgap
    exact (ih hrest none).space_cons previous

/-- A lexing can be continued behind every text that ends outside the regions, by a text that may
stand behind every token. -/
theorem Lexing.append {previous : Option Text} {a t : Text} {ts us : List Text}
    (h : Lexing previous a ts) (ha : quoteAfter none a = none)
    (ht : ∀ previous, Lexing previous t us) : Lexing previous (a ++ t) (ts ++ us) := by
  induction h with
  | @done previous gap hgap => exact Lexing.gap_append hgap ht previous
  | last hgap htoken =>
    rw [quoteAfter_append, hgap.quoteAfter_eq, htoken.quoteAfter_eq] at ha
    exact nomatch ha
  | @next _ gap token rest _ hgap htoken hsep _ ih =>
    rw [quoteAfter_append, quoteAfter_append, hgap.quoteAfter_eq, htoken.quoteAfter_eq] at ha
    rw [List.append_assoc]
    exact .next hgap htoken hsep (ih ha)

/-- **A text can be cut in front of every space outside the regions.** -/
theorem tokens_append_space {a : Text} (ha : quoteAfter none a = none) (t : Text) :
    tokens (a ++ ' ' :: t) = tokens a ++ tokens t :=
  ((lexing_tokens a).append ha (lexing_tokens t).space_cons).run_eq

/-- **A text can be cut around every punctuation character outside the regions.** -/
theorem tokens_append_punctuation {a : Text} (ha : quoteAfter none a = none) {c : Char}
    (hc : isPunctuation c = true) (t : Text) :
    tokens (a ++ c :: t) = tokens a ++ [c] :: tokens t := by
  have hrest : Lexing (some [c]) t (tokens t) := lexing_run fun p hp => by
    obtain rfl : [c] = p := by simpa using hp
    exact detached_of_isPunctuation_left hc t
  have hlexing (previous : Option Text) : Lexing previous (c :: t) ([c] :: tokens t) :=
    Lexing.cons (.punctuation hc) (fun p _ => detached_of_isPunctuation hc p t) hrest
  exact ((lexing_tokens a).append ha hlexing).run_eq

end Token

end SqliteAccess
