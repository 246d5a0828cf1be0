import Mathlib.Tactic.SplitIfs
import SqliteAccess.Proofs.Token.Reading
import SqliteAccess.Token.Driving

/-!
# What the lexer keeps between calls

Each transition changes mode, quote and pending text on its own, and they fit together all the same:
a consistent state is one of the two families `outside` and `inside`, and every call leads from one
of them to another. In both families a call only moves text from the pending part to the tokens. So
no character is lost but a space outside the quoted regions, whatever is said to follow a character.

Two characters are consumed only where the second one is passed with the call. A text is therefore
never read past its end, and since its end leaves the lexer as new, one lexer reads texts one after
the other.

## Main results

* `Lexer.consistent_iff` : the consistent states.
* `Lexer.Consistent.isSound_answer` : what one call does in a consistent state.
* `Lexer.run_reading` : the calls that read a text emit what a run emits.
* `Lexer.calls_conserve_text` : what holds behind every sequence of calls.
-/

namespace SqliteAccess.Lexer

open Token

/-! ### Consistent states -/

variable {s : Lexer}

theorem flatten_flush (s : Lexer) : s.flush.flatten = s.pending := by
  rw [flush]
  split
  · rename_i hempty
    rw [List.isEmpty_iff.1 hempty]
    rfl
  · exact List.append_nil s.pending

theorem nil_notMem_flush (s : Lexer) : [] ∉ s.flush := by
  rw [flush]
  split
  · exact List.not_mem_nil
  · rename_i hempty
    rw [List.mem_singleton]
    exact fun h => hempty (List.isEmpty_iff.2 h.symm)

theorem consistent_outside {word : Text} (hword : ∀ c ∈ word, IsWordChar c) :
    (outside word).Consistent := by
  cases word with
  | nil => exact ⟨rfl, rfl⟩
  | cons c word => exact ⟨rfl, List.cons_ne_nil c word, hword⟩

theorem consistent_inside {quote : Char} (hquote : isQuote quote = true) (body : Text) :
    (inside quote (quote :: Text.double quote body)).Consistent :=
  ⟨quote, rfl, hquote, body, rfl⟩

/-- The consistent states are those outside the regions with a part of a word, and those inside a
region with a part of the region. -/
theorem consistent_iff : s.Consistent ↔
    (∃ word, (∀ c ∈ word, IsWordChar c) ∧ s = outside word) ∨
      ∃ quote body, isQuote quote = true ∧ s = inside quote (quote :: Text.double quote body) := by
  constructor
  · obtain ⟨mode, quote, pending⟩ := s
    intro h
    cases mode with
    | blank =>
      obtain ⟨rfl, rfl⟩ : quote = none ∧ pending = [] := h
      exact .inl ⟨[], by simp, rfl⟩
    | word =>
      obtain ⟨rfl, hne, hword⟩ : quote = none ∧ IsWord pending := h
      obtain ⟨c, word, rfl⟩ := List.exists_cons_of_ne_nil hne
      exact .inl ⟨c :: word, hword, rfl⟩
    | quoted =>
      obtain ⟨quote, rfl, hquote, body, rfl⟩ : ∃ q, quote = some [q] ∧ IsOpenBy q pending := h
      exact .inr ⟨quote, body, hquote, rfl⟩
  · rintro (⟨word, hword, rfl⟩ | ⟨quote, body, hquote, rfl⟩)
    · exact consistent_outside hword
    · exact consistent_inside hquote body

/-! ### One call -/

/-- Two characters are consumed exactly where both are the quote of the open region. -/
theorem consumed_answer (s : Lexer) (c : Char) (lookahead : Option Char) :
    (s.answer (.feed c lookahead)).consumed =
      if s.mode = .quoted ∧ s.quote = some [c] ∧ lookahead = some c then 2 else 1 := by
  have hlookahead : lookahead.map ([·]) = some [c] ↔ lookahead = some c := by
    cases lookahead <;> simp
  by_cases hmode : s.mode = .quoted
  · rw [answer, step, if_pos hmode, stepQuoted]
    by_cases hquote : s.quote = some [c]
    · simp only [hquote, hmode, hlookahead, ne_eq, not_true, if_false, true_and]
      split_ifs <;> rfl
    · simp [hquote]
  · rw [if_neg fun h => hmode h.1, answer, step, if_neg hmode]
    split_ifs <;> rfl

theorem keeps_feed (s : Lexer) (c : Char) (lookahead : Option Char) :
    s.keeps (.feed c lookahead) =
      if s.mode = .quoted ∧ s.quote = some [c] ∧ lookahead = some c then [c, c]
      else if s.mode ≠ .quoted ∧ c = ' ' then []
      else [c] := by
  rw [keeps, taken, Call.passed, consumed_answer]
  by_cases hdouble : s.mode = .quoted ∧ s.quote = some [c] ∧ lookahead = some c
  · rw [if_pos hdouble, if_pos hdouble, if_neg fun h => h.1 hdouble.1, hdouble.2.2]
    rfl
  · rw [if_neg hdouble, if_neg hdouble]
    simp

/-- A step leads to a consistent state, loses nothing of the text before it, and emits no empty
token. -/
structure Step.IsSound (step : Step) (text : Text) : Prop where
  consistent : step.lexer.Consistent
  conserves : text = step.emitted.flatten ++ step.lexer.pending
  nil_notMem : [] ∉ step.emitted

theorem isSound_outside {word : Text} (hword : ∀ c ∈ word, IsWordChar c) (c : Char)
    (lookahead : Option Text) :
    ((outside word).step [c] lookahead).IsSound (word ++ if c = ' ' then [] else [c]) := by
  have hflush := flatten_flush (outside word)
  have hnil := nil_notMem_flush (outside word)
  by_cases hspace : c = ' '
  · subst hspace
    rw [step_outside_space, if_pos rfl]
    exact ⟨⟨rfl, rfl⟩, by rw [hflush]; rfl, hnil⟩
  rw [if_neg hspace]
  by_cases hc : IsWordChar c
  · have hlonger : ∀ d ∈ word ++ [c], IsWordChar d :=
      List.forall_mem_append.2 ⟨hword, List.forall_mem_singleton.2 hc⟩
    rw [step_outside_word hc]
    exact ⟨consistent_outside hlonger, rfl, List.not_mem_nil⟩
  rcases (not_isWordChar_iff.1 hc).resolve_left hspace with hc | hc
  · rw [step_outside_punctuation hc]
    refine ⟨⟨rfl, rfl⟩, ?_, ?_⟩
    · rw [List.flatten_append, hflush, List.append_nil]
      rfl
    · rw [List.mem_append, not_or]
      exact ⟨hnil, by simp⟩
  · rw [step_quote (mode_outside word) hc]
    exact ⟨consistent_inside hc [], by rw [hflush]; rfl, hnil⟩

theorem isSound_inside {quote : Char} (hquote : isQuote quote = true) (body : Text) (c : Char)
    (lookahead : Option Char) :
    ((inside quote (quote :: Text.double quote body)).step [c] (lookahead.map ([·]))).IsSound
      (quote :: Text.double quote body ++
        if c = quote ∧ lookahead = some c then [c, c] else [c]) := by
  by_cases hc : c = quote
  · subst hc
    by_cases hlookahead : lookahead = some c
    · subst hlookahead
      have hbody : c :: Text.double c body ++ [c, c] = c :: Text.double c (body ++ [c]) := by
        simp [Text.double_append, Text.double]
      rw [Option.map_some, step_inside_double, if_pos ⟨rfl, rfl⟩, hbody]
      exact ⟨consistent_inside hquote _, rfl, List.not_mem_nil⟩
    · have hclose : lookahead.map ([·]) ≠ some [c] := by simpa using hlookahead
      rw [step_inside_close hclose, if_neg fun h => hlookahead h.2]
      exact ⟨⟨rfl, rfl⟩, by simp, by simp⟩
  · have hbody : quote :: Text.double quote body ++ [c] =
        quote :: Text.double quote (body ++ [c]) := by
      simp [Text.double_append, Text.double, hc]
    rw [step_inside_of_ne hc, if_neg fun h => hc h.1, hbody]
    exact ⟨consistent_inside hquote _, rfl, List.not_mem_nil⟩

/-- Every call is sound in a consistent state, and leads to another one. -/
theorem Consistent.isSound_answer (h : s.Consistent) (call : Call) :
    (s.answer call).IsSound (s.pending ++ s.keeps call) := by
  cases call with
  | finish =>
    have hkeeps : s.keeps .finish = [] := by
      simp [keeps, taken, Call.passed]
    rw [hkeeps, List.append_nil]
    exact ⟨⟨rfl, rfl⟩, by rw [answer, close, flatten_flush, List.append_nil], nil_notMem_flush s⟩
  | feed c lookahead =>
    rcases consistent_iff.1 h with ⟨word, hword, rfl⟩ | ⟨quote, body, hquote, rfl⟩
    -- a false lookahead matters inside a region only, and is consumed there as a part of it
    · have hkeeps : (outside word).keeps (.feed c lookahead) = if c = ' ' then [] else [c] := by
        simp [keeps_feed, mode_outside]
      rw [hkeeps]
      exact isSound_outside hword c _
    · have hkeeps : (inside quote (quote :: Text.double quote body)).keeps (.feed c lookahead) =
          if c = quote ∧ lookahead = some c then [c, c] else [c] := by
        simp [keeps_feed, inside, eq_comm]
      rw [hkeeps]
      exact isSound_inside hquote body c lookahead

theorem Consistent.consistent_after (h : s.Consistent) (calls : List Call) :
    (s.after calls).Consistent := by
  induction calls generalizing s with
  | nil => exact h
  | cons call calls ih => exact ih (h.isSound_answer call).consistent

/-- What is pending in front of calls, and what they keep, is in their tokens or pending behind
them. -/
theorem Consistent.pending_append_kept (h : s.Consistent) (calls : List Call) :
    s.pending ++ s.kept calls = (s.emitted calls).flatten ++ (s.after calls).pending := by
  induction calls generalizing s with
  | nil => simp [kept, emitted, after]
  | cons call calls ih =>
    have hcall := h.isSound_answer call
    rw [kept, ← List.append_assoc, hcall.conserves, List.append_assoc, ih hcall.consistent, emitted,
      List.flatten_append, List.append_assoc, after]

/-! ### Reading texts -/

theorem reading_cons (s : Lexer) (c : Char) (rest : Text) :
    s.reading (c :: rest) =
      .feed c rest.head? :: (s.answer (.feed c rest.head?)).lexer.reading
        (if (s.answer (.feed c rest.head?)).consumed = 2 then rest.tail else rest) := by
  have hrest : rest.drop ((s.answer (.feed c rest.head?)).consumed - 1) =
      if (s.answer (.feed c rest.head?)).consumed = 2 then rest.tail else rest := by
    rw [consumed_answer]
    by_cases hdouble : s.mode = .quoted ∧ s.quote = some [c] ∧ rest.head? = some c
    · rw [if_pos hdouble, if_pos rfl]
      exact List.drop_one
    · rw [if_neg hdouble, if_neg (by decide)]
      exact List.drop_zero
  rw [reading]
  simp only [hrest]

/-- A text is read from any state, and the lexer is new behind its end. -/
theorem run_reading (s : Lexer) (text : Text) :
    s.emitted (s.reading text) = s.run text ∧ s.after (s.reading text) = {} := by
  induction hn : text.length using Nat.strongRecOn generalizing s text with
  | ind n ih =>
  subst hn
  cases text with
  | nil =>
    rw [reading, run_nil]
    exact ⟨List.append_nil s.flush, rfl⟩
  | cons c rest =>
    have hshorter : (if (s.answer (.feed c rest.head?)).consumed = 2 then rest.tail
        else rest).length < (c :: rest).length := by
      rw [apply_ite List.length, List.length_tail, List.length_cons]
      split_ifs <;> omega
    obtain ⟨hemitted, hafter⟩ := ih _ hshorter (s.answer (.feed c rest.head?)).lexer _ rfl
    rw [reading_cons, emitted, hemitted, after, hafter]
    exact ⟨(run_cons rfl).symm, rfl⟩

theorem run_readings (texts : List Text) :
    emitted {} (readings {} texts) = texts.flatMap tokens ∧ after {} (readings {} texts) = {} := by
  induction texts with
  | nil => exact ⟨rfl, rfl⟩
  | cons text texts ih =>
    obtain ⟨hemitted, hafter⟩ := run_reading {} text
    rw [readings, emitted_append, after_append, hafter, hemitted, ih.1, ih.2, List.flatMap_cons]
    exact ⟨rfl, rfl⟩

/-- No call that reads a text consumes more than is left of it. -/
theorem consumed_le (s : Lexer) (c : Char) (rest : Text) :
    (s.answer (.feed c rest.head?)).consumed ≤ (c :: rest).length := by
  rw [consumed_answer, List.length_cons]
  split_ifs with hdouble
  · obtain ⟨rest, rfl⟩ := List.head?_eq_some_iff.1 hdouble.2.2
    simp
  · omega

/-! ### All calls -/

/-- **No call loses text**, whatever calls came before it and whatever it says about the next
character. Mode, quote and pending text always fit together. A call consumes two characters where
both are the quote of the open region, and one elsewhere, so no reading goes past the end of its
text. What was pending and what the call keeps is in the tokens or pending behind it, no token is
empty, and the same holds of all calls together. Behind the end of a text the lexer is new, and the
texts that it reads then give their tokens one after the other. -/
theorem calls_conserve_text (calls : List Call) :
    let s := after {} calls
    s.Consistent ∧
      (∀ c lookahead,
        (s.answer (.feed c lookahead)).consumed =
          if s.mode = .quoted ∧ s.quote = some [c] ∧ lookahead = some c then 2 else 1) ∧
      (∀ c rest, (s.answer (.feed c rest.head?)).consumed ≤ (c :: rest).length) ∧
      (∀ call, s.pending ++ s.keeps call =
          (s.answer call).emitted.flatten ++ (s.answer call).lexer.pending ∧
        [] ∉ (s.answer call).emitted) ∧
      kept {} calls = (emitted {} calls).flatten ++ s.pending ∧
      (s.answer .finish).lexer = {} ∧
      ∀ texts, emitted {} (calls ++ .finish :: readings {} texts) =
          emitted {} calls ++ s.flush ++ texts.flatMap tokens ∧
        after {} (calls ++ .finish :: readings {} texts) = {} := by
  intro s
  have hnew : Consistent {} := ⟨rfl, rfl⟩
  have hconsistent : s.Consistent := hnew.consistent_after calls
  refine ⟨hconsistent, consumed_answer s, consumed_le s, fun call => ?_,
    hnew.pending_append_kept calls, rfl, fun texts => ?_⟩
  · have hcall := hconsistent.isSound_answer call
    exact ⟨hcall.conserves, hcall.nil_notMem⟩
  · obtain ⟨hemitted, hafter⟩ := run_readings texts
    have hfinish : s.emitted (.finish :: readings {} texts) =
        s.flush ++ emitted {} (readings {} texts) := rfl
    rw [emitted_append, after_append, hfinish, hemitted, List.append_assoc]
    exact ⟨rfl, hafter⟩

end SqliteAccess.Lexer
