import SqliteAccess.Proofs.Token.Lexing

/-!
# Reading joined tokens

Joining puts a space between two tokens unless one of them is punctuation, and punctuation cannot
continue another token. So the lexer finds the tokens of a joined text again, whatever follows it
without continuing one of them.

## Main results

* `Token.detached_joinAfter` : joined tokens do not continue the token in front of them.
* `Lexer.run_join_append` : the lexer reads joined tokens one by one.
-/

namespace SqliteAccess

namespace Token

/-- Punctuation continues no token. -/
theorem detached_of_isPunctuation {c : Char} (hc : isPunctuation c = true) (token t : Text) :
    Detached token (c :: t) := by
  refine ⟨fun _ d hd hword => ?_, fun quote hquoted hhead => ?_⟩
  · obtain rfl : c = d := by simpa using hd
    exact absurd hc (by simp [hword.2.1])
  · obtain rfl : c = quote := by simpa using hhead
    exact absurd hc (by simp [isPunctuation_eq_false_of_isQuote hquoted.1])

/-- Nothing continues punctuation. -/
theorem detached_of_isPunctuation_left {c : Char} (hc : isPunctuation c = true) (t : Text) :
    Detached [c] t :=
  ⟨fun hword => absurd hword (not_isWord_of_isPunctuation hc),
    fun quote hquoted => absurd hquoted (not_isQuotedBy_singleton quote c)⟩

/-- Without a space between two neighbours, one of them is punctuation. -/
theorem isPunctuation_of_needsSpace_eq_false {previous token : Text}
    (h : needsSpace previous token = false) :
    previous = opening ∨ ∃ c, isPunctuation c = true ∧ token = [c] := by
  by_cases hopening : token = opening
  · exact .inr ⟨'(', by decide, hopening⟩
  by_cases hclosing : token = closing
  · exact .inr ⟨')', by decide, hclosing⟩
  by_cases hcomma : token = comma
  · exact .inr ⟨',', by decide, hcomma⟩
  · exact .inl (by simpa [needsSpace, hopening, hclosing, hcomma] using h)

theorem detached_joinAfter {previous rest : Text} (ts : List Text)
    (hrest : Detached previous rest) : Detached previous (joinAfter previous ts ++ rest) := by
  cases ts with
  | nil => exact hrest
  | cons t ts =>
    by_cases hspace : needsSpace previous t = true
    · simpa [joinAfter, hspace] using detached_space previous _
    · rw [Bool.not_eq_true] at hspace
      rcases isPunctuation_of_needsSpace_eq_false hspace with rfl | ⟨c, hc, rfl⟩
      · exact detached_of_isPunctuation_left (by decide) _
      · simpa [joinAfter, hspace] using detached_of_isPunctuation hc previous _

end Token

namespace Lexer

open Token

theorem run_joinAfter_append {previous : Text} {ts : List Text} {rest : Text}
    (hts : ∀ t ∈ ts, IsComplete t) (hrest : ∀ t ∈ ts, Detached t rest) :
    run {} (joinAfter previous ts ++ rest) = ts ++ run {} rest := by
  induction ts generalizing previous with
  | nil => rfl
  | cons t ts ih =>
    obtain ⟨ht, hts⟩ := List.forall_mem_cons.1 hts
    obtain ⟨htrest, hrest⟩ := List.forall_mem_cons.1 hrest
    have hgap : IsGap (if needsSpace previous t then [' '] else []) := by
      split <;> simp [IsGap]
    rw [joinAfter, List.append_assoc, List.append_assoc, run_gap hgap,
      run_token ht (detached_joinAfter ts htrest), ih hts hrest, List.cons_append]

/-- Complete tokens are read one by one off the front of their joined text, unless what follows
continues one of them. -/
theorem run_join_append {ts : List Text} {rest : Text} (hts : ∀ t ∈ ts, IsComplete t)
    (hrest : ∀ t ∈ ts, Detached t rest) : run {} (join ts ++ rest) = ts ++ run {} rest := by
  cases ts with
  | nil => rfl
  | cons t ts =>
    obtain ⟨ht, hts⟩ := List.forall_mem_cons.1 hts
    obtain ⟨htrest, hrest⟩ := List.forall_mem_cons.1 hrest
    rw [join, List.append_assoc, run_token ht (detached_joinAfter ts htrest),
      run_joinAfter_append hts hrest, List.cons_append]

theorem run_space (rest : Text) : run {} (' ' :: rest) = run {} rest := by
  have hgap : IsGap [' '] := by simp [IsGap]
  exact run_gap hgap rest

theorem run_punctuation {c : Char} (hc : isPunctuation c = true) (rest : Text) :
    run {} (c :: rest) = [c] :: run {} rest :=
  run_token (.punctuation hc) (detached_of_isPunctuation_left hc rest)

/-- Joined tokens end in front of punctuation. -/
theorem run_join_punctuation {ts : List Text} (hts : ∀ t ∈ ts, IsComplete t) {c : Char}
    (hc : isPunctuation c = true) (rest : Text) :
    run {} (join ts ++ (c :: rest)) = ts ++ [c] :: run {} rest := by
  rw [run_join_append hts fun token _ => detached_of_isPunctuation hc token rest,
    run_punctuation hc]

end Lexer

end SqliteAccess
