import Mathlib.Tactic.SplitIfs
import SqliteAccess.Proofs.Token.Reading
import SqliteAccess.Quoting

/-!
# Splicing quoted texts between tokens

A value or a name is spliced into SQL text between two other texts. If the text in front ends
outside the quoted regions and the quote of the spliced region is repeated on neither side, the
lexer emits the tokens of both sides as if each stood alone, with the region as one token between
them.

## Main definitions

* `Lexer.scan` : the tokens emitted on a text, with the state behind it.

## Main results

* `Lexer.run_append` : the run on two texts in a row goes on behind the first one.
* `Lexer.tokens_append_enclose_append` : a spliced region is one token.
* `tokens_splice` : the two forms of quotation, with the values they are read back as.
-/

namespace SqliteAccess

namespace Lexer

/-- Reads a text without closing it: the tokens that are emitted, and the state behind the text. -/
def scan (s : Lexer) : Text → List Text × Lexer
  | [] => ([], s)
  | [c] =>
    let step := s.step [c] none
    (step.emitted, step.lexer)
  | c :: next :: rest =>
    let step := s.step [c] (some [next])
    if step.consumed = 2 then
      (step.emitted ++ (scan step.lexer rest).1, (scan step.lexer rest).2)
    else (step.emitted ++ (scan step.lexer (next :: rest)).1, (scan step.lexer (next :: rest)).2)

/-- Two lookaheads that do not double the symbol make no difference. -/
theorem step_lookahead {s : Lexer} {symbol : Text} {l m : Option Text} (hl : l ≠ some symbol)
    (hm : m ≠ some symbol) : s.step symbol l = s.step symbol m := by
  simp only [step, stepQuoted, hl, hm, if_false]

/-- Only a doubled symbol takes two characters. -/
theorem consumed_step {s : Lexer} {symbol : Text} {l : Option Text} (hl : l ≠ some symbol) :
    (s.step symbol l).consumed = 1 := by
  simp only [step, stepQuoted, hl, if_false]
  split_ifs
  · rfl
  · rfl
  · split
    · split_ifs <;> rfl
    · rfl

/-- The run on two texts in a row goes on with the second one behind the first, unless the first
character of the second repeats the last one of the first. -/
theorem run_append (s : Lexer) (a t : Text) (hseam : ∀ c ∈ a.getLast?, t.head? ≠ some c) :
    s.run (a ++ t) = (s.scan a).1 ++ (s.scan a).2.run t := by
  induction s, a using scan.induct with
  | case1 s => rfl
  | case2 s c =>
    have hlookahead : t.head?.map ([·]) ≠ some [c] := by
      cases t with
      | nil => simp
      | cons d t => simpa using hseam c rfl
    have hstep : s.step [c] (t.head?.map ([·])) = s.step [c] none :=
      step_lookahead hlookahead (by simp)
    have hconsumed : (s.step [c] none).consumed ≠ 2 := by simp [consumed_step]
    rw [List.singleton_append, run_cons hstep, if_neg hconsumed]
    rfl
  | case3 s c next rest step hconsumed ih =>
    have hrest : ∀ d ∈ rest.getLast?, t.head? ≠ some d := by
      cases rest with
      | nil => simp
      | cons d rest => simpa using hseam
    rw [List.cons_append, List.cons_append, run, scan, if_pos hconsumed, if_pos hconsumed,
      ih hrest, List.append_assoc]
  | case4 s c next rest step hconsumed ih =>
    have hrest : ∀ d ∈ (next :: rest).getLast?, t.head? ≠ some d := by simpa using hseam
    have hih := ih hrest
    rw [List.cons_append] at hih
    rw [List.cons_append, List.cons_append, run, scan, if_neg hconsumed, if_neg hconsumed, hih,
      List.append_assoc]

/-- A run emits what is emitted on the text, and then what the state behind it still holds. -/
theorem run_eq_scan (s : Lexer) (t : Text) : s.run t = (s.scan t).1 ++ (s.scan t).2.flush := by
  simpa using run_append s t [] (by simp)

/-- A region that is spliced between two texts is one token. The text in front ends outside the
regions, and neither side repeats the quote at its end of the region. -/
theorem tokens_append_enclose_append {quote : Char} (hquote : isQuote quote = true)
    {a b : Text} (v : Text) (houtside : (scan {} a).2.mode ≠ .quoted)
    (ha : a.getLast? ≠ some quote) (hb : b.head? ≠ some quote) :
    tokens (a ++ Text.enclose quote v ++ b) =
      tokens a ++ [Text.enclose quote v] ++ tokens b := by
  have hseam : ∀ c ∈ a.getLast?, (Text.enclose quote v ++ b).head? ≠ some c := by
    intro c hc hhead
    obtain rfl : quote = c := by simpa [Text.enclose] using hhead
    exact ha hc
  calc tokens (a ++ Text.enclose quote v ++ b)
      = (scan {} a).1 ++ (scan {} a).2.run (Text.enclose quote v ++ b) := by
        rw [List.append_assoc]
        exact run_append {} a _ hseam
    _ = (scan {} a).1 ++ ((scan {} a).2.flush ++ Text.enclose quote v :: tokens b) := by
        rw [run_enclose houtside hquote v hb]
        rfl
    _ = tokens a ++ [Text.enclose quote v] ++ tokens b := by
        have htokens : tokens a = (scan {} a).1 ++ (scan {} a).2.flush := run_eq_scan {} a
        simp [htokens]

end Lexer

/-- Reading a region gives the text that it denotes. -/
theorem unquote_enclose {quote : Char} (hquote : isQuote quote = true) (v : Text) :
    unquote (Text.enclose quote v) = v := by
  have hrest : ([] : Text).head? ≠ some quote := by simp
  simpa using unquote_enclose_append hquote v hrest

/-- **No value and no name leaves its token.** Between two texts, of which the first ends outside
the quoted regions, the literal of a value is one token that reads back as the value, and the
tokens of both sides are those of each side alone. The same holds for the quoted form of a name. -/
theorem tokens_splice (a b v : Text) (houtside : (Lexer.scan {} a).2.mode ≠ .quoted) :
    (a.getLast? ≠ some '\'' → b.head? ≠ some '\'' →
      tokens (a ++ literal v ++ b) = tokens a ++ [literal v] ++ tokens b ∧
        unquote (literal v) = v) ∧
    (a.getLast? ≠ some '"' → b.head? ≠ some '"' →
      tokens (a ++ Dialect.sqlite.identifier v ++ b) =
          tokens a ++ [Dialect.sqlite.identifier v] ++ tokens b ∧
        unquote (Dialect.sqlite.identifier v) = v) :=
  ⟨fun ha hb => ⟨Lexer.tokens_append_enclose_append (by decide) v houtside ha hb,
      unquote_enclose (by decide) v⟩,
    fun ha hb => ⟨Lexer.tokens_append_enclose_append (by decide) v houtside ha hb,
      unquote_enclose (by decide) v⟩⟩

/-- A value that closes its literal for a reader without doubled quotes stays in its token. -/
theorem tokens_splice_statement :
    (Lexer.scan {} "VALUES (".toList).2.mode ≠ .quoted ∧
      tokens ("VALUES (".toList ++ literal "a'); DROP TABLE t".toList ++ ", 1)".toList) =
        ["VALUES".toList, "(".toList, "'a''); DROP TABLE t'".toList, ",".toList, "1".toList,
          ")".toList] ∧
      unquote "'a''); DROP TABLE t'".toList = "a'); DROP TABLE t".toList := by
  have houtside : (Lexer.scan {} "VALUES (".toList).2.mode ≠ .quoted := by decide
  have h := (tokens_splice "VALUES (".toList ", 1)".toList "a'); DROP TABLE t".toList houtside).1
    (by decide) (by decide)
  exact ⟨houtside, h.1.trans (by decide), h.2⟩

end SqliteAccess
