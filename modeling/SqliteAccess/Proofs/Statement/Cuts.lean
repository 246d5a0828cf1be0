import SqliteAccess.Proofs.Statement.Octets
import SqliteAccess.Statement.Split

/-!
# Where a script is cut

A script is cut by asking at every semicolon whether the text since the last cut is complete, so
that each text is read again from its start, and many of them end inside a quote, a comment or a
trigger. All these answers together give the cuts of a single pass over the lexemes.

The invariant behind a cut is `Follows`: a piece of the script has been read as whole lexemes, the
automaton is in a phase that is not the one behind a complete statement, and every continuation that
starts like the rest of the script is judged from this phase on. A semicolon inside a region cannot
complete anything, because the text up to it ends in an open region: a quote, a bracket or a block
comment answers no, and a line comment answers with a phase that is not `start`.

## Main definitions

* `Statement.completesFrom` : whether a text completes a statement that has been read so far.
* `Statement.Follows` : the invariant.
* `Statement.Cut` : the cuts of a script.
* `Statement.passPhase` : the phase of the single pass behind a list of lexemes.

## Main results

* `Statement.segments_eq` : the pieces of a script are those of the single pass.
* `Statement.cuts_of_single_pass` : the cuts, and where they lie among the lexemes.
-/

namespace SqliteAccess.Statement

/-! ### Completeness from a phase on -/

/-- Whether a text that is read from `phase` on ends with a complete statement. -/
def completesFrom (phase : Phase) (t : Text) : Bool :=
  let (lexemes, remainder, _) := read t
  remainder ≠ .unclosed && (lexemes.foldl (fun p l => p.step l.1) phase) = .start

theorem isComplete_eq (t : Text) : isComplete t = completesFrom .initial t := rfl

theorem completesFrom_leads {k : Lexeme} {x r : Text} (h : Leads k x r) (phase : Phase) :
    completesFrom phase (x ++ r) = completesFrom (phase.step k) r := by
  simp only [completesFrom, h.read_eq, List.foldl_cons]

theorem completesFrom_nil (phase : Phase) : completesFrom phase [] = decide (phase = .start) := by
  simp [completesFrom, read]

/-- An open region completes nothing. -/
theorem completesFrom_opens {t : Text} {rem : Remainder} (h : Opens t rem) {phase : Phase}
    (hphase : phase ≠ .start) : completesFrom phase t = false := by
  simp [completesFrom, h.read_eq, hphase]

/-- Only a semicolon completes a statement. -/
theorem Phase.step_ne_start {phase : Phase} {k : Lexeme} (hphase : phase ≠ .start)
    (hk : k ≠ .semicolon) : phase.step k ≠ .start := by
  revert hphase hk
  cases phase <;> cases k <;> decide

/-- The phases in which a semicolon completes no statement are those inside the body of a
trigger. -/
theorem Phase.step_semicolon_eq_start_iff {phase : Phase} :
    phase.step .semicolon = .start ↔ phase ≠ .trigger ∧ phase ≠ .triggerSemicolon := by
  cases phase <;> decide

/-! ### The invariant between two cuts -/

/-- The invariant between two cuts, where `piece` has been read since the last cut and `rest`
follows: the automaton has not just completed a statement, and it judges every continuation that
starts like `rest` from its phase on. -/
structure Follows (piece : Text) (phase : Phase) (rest : Text) : Prop where
  ne_start : phase ≠ .start
  isComplete_append : ∀ t : Text, t.head? = rest.head? →
    isComplete (piece ++ t) = completesFrom phase t

theorem Follows.initial (rest : Text) : Follows [] .initial rest where
  ne_start := by decide
  isComplete_append t _ := isComplete_eq t

/-- A lexeme that completes nothing keeps the invariant. -/
theorem Follows.step {piece x r : Text} {phase : Phase} {k : Lexeme}
    (h : Follows piece phase (x ++ r)) (hleads : Leads k x r) (hphase : phase.step k ≠ .start) :
    Follows (piece ++ x) (phase.step k) r where
  ne_start := hphase
  isComplete_append t ht := by
    have hbehind : Leads k x t := hleads.replace fun d hd => .inl (ht ▸ hd)
    have hhead : (x ++ t).head? = (x ++ r).head? := by
      obtain ⟨c, x, rfl⟩ := List.exists_cons_of_ne_nil hleads.ne_nil
      rfl
    rw [List.append_assoc, h.isComplete_append _ hhead, completesFrom_leads hbehind]

/-- An open region completes nothing behind the piece. -/
theorem Follows.isComplete_opens {piece rest t : Text} {phase : Phase} {rem : Remainder}
    (h : Follows piece phase rest) (ht : t.head? = rest.head?) (hopens : Opens t rem) :
    isComplete (piece ++ t) = false := by
  rw [h.isComplete_append t ht, completesFrom_opens hopens h.ne_start]

/-! ### The pieces of a script -/

theorem segmentsFrom_of_ne {c : Char} (hc : c ≠ ';') (piece rest : Text) :
    segmentsFrom piece.reverse (c :: rest) = segmentsFrom (piece ++ [c]).reverse rest := by
  rw [segmentsFrom, if_neg hc, List.reverse_append]
  rfl

theorem segmentsFrom_semicolon {piece : Text} (hnul : '\x00' ∉ piece) (rest : Text) :
    segmentsFrom piece.reverse (';' :: rest) =
      if isComplete (piece ++ [';']) then
        (segmentsFrom [] rest).map fun pieces => (piece ++ [';']) :: pieces
      else segmentsFrom (piece ++ [';']).reverse rest := by
  have hpiece : (';' :: piece.reverse).reverse = piece ++ [';'] := by simp
  have hcandidate : (piece ++ [';']).contains '\x00' = false := by simpa using hnul
  simp only [segmentsFrom, if_true, hpiece, hcandidate, Bool.false_eq_true, if_false,
    List.reverse_append, List.reverse_singleton, List.singleton_append]

/-- A stretch of text in which no semicolon completes a statement belongs to the piece. -/
theorem segmentsFrom_append {piece x : Text} (rest : Text) (hnul : '\x00' ∉ piece ++ x)
    (hx : ∀ t s : Text, x = t ++ ';' :: s → isComplete (piece ++ (t ++ [';'])) = false) :
    segmentsFrom piece.reverse (x ++ rest) = segmentsFrom (piece ++ x).reverse rest := by
  induction x generalizing piece with
  | nil => simp
  | cons c x ih =>
    have hassoc : piece ++ c :: x = piece ++ [c] ++ x := by simp
    have hrest : segmentsFrom (piece ++ [c]).reverse (x ++ rest) =
        segmentsFrom (piece ++ c :: x).reverse rest := by
      rw [hassoc]
      refine ih (hassoc ▸ hnul) fun t s hts => ?_
      simpa using hx (c :: t) s (by rw [hts, List.cons_append])
    by_cases hc : c = ';'
    · subst hc
      have hfalse : isComplete (piece ++ [';']) = false := hx [] x rfl
      have hpiece : '\x00' ∉ piece := fun h => hnul (List.mem_append_left _ h)
      rw [List.cons_append, segmentsFrom_semicolon hpiece, hfalse, if_neg (by decide), hrest]
    · rw [List.cons_append, segmentsFrom_of_ne hc, hrest]

/-- A stretch of text whose semicolons all stand inside a region belongs to the piece. -/
theorem Follows.segmentsFrom_append {piece x rest : Text} {phase : Phase}
    (h : Follows piece phase (x ++ rest)) (hnul : '\x00' ∉ piece ++ (x ++ rest))
    (hopens : ∀ t s : Text, x = t ++ ';' :: s → ∃ rem, Opens (t ++ [';']) rem) :
    segmentsFrom piece.reverse (x ++ rest) = segmentsFrom (piece ++ x).reverse rest := by
  rw [← List.append_assoc] at hnul
  refine Statement.segmentsFrom_append rest (fun hx => hnul (List.mem_append_left _ hx))
    fun t s hts => ?_
  obtain ⟨rem, hshort⟩ := hopens t s hts
  refine h.isComplete_opens ?_ hshort
  rw [hts]
  cases t <;> rfl

/-- The pieces of a script from a piece on that the invariant describes are those of the single
pass from its phase on. -/
theorem segmentsFrom_eq_passFrom {rest piece : Text} {phase : Phase}
    (h : Follows piece phase rest) (hnul : '\x00' ∉ piece ++ rest) :
    segmentsFrom piece.reverse rest =
      .ok (passFrom phase piece (read rest).2.2 (read rest).1) := by
  induction rest using text_induction generalizing piece phase with
  | nil => simp [segmentsFrom, read, passFrom]
  | opens t rem hopens =>
    have hskip : segmentsFrom piece.reverse (t ++ []) = segmentsFrom (piece ++ t).reverse [] :=
      Follows.segmentsFrom_append (by simpa using h) (by simpa using hnul)
        fun u s hus => hopens.opens_of_semicolon hus
    rw [List.append_nil] at hskip
    rw [hskip, hopens.read_eq]
    simp [segmentsFrom, passFrom]
  | leads k x r hleads ih =>
    have hnul' : '\x00' ∉ piece ++ x ++ r := by rwa [List.append_assoc]
    rw [hleads.read_eq, passFrom]
    by_cases hk : k = .semicolon
    · subst hk
      obtain rfl := hleads.eq_semicolon rfl
      -- the piece with its semicolon is judged by the phase that the semicolon leads to
      have hjudge : isComplete (piece ++ [';']) = decide (phase.step .semicolon = .start) := by
        have hsingle := completesFrom_leads (Leads.semicolon (r := [])) phase
        rw [List.append_nil, completesFrom_nil] at hsingle
        rw [h.isComplete_append [';'] rfl, hsingle]
      rw [List.singleton_append, segmentsFrom_semicolon fun hp => hnul (by simp [hp]), hjudge]
      by_cases hphase : phase.step .semicolon = .start
      · have hr : segmentsFrom [] r = .ok (passFrom .initial [] (read r).2.2 (read r).1) :=
          ih (.initial r) fun hp => hnul' (List.mem_append_right _ hp)
        rw [if_pos (by simpa using hphase), if_pos ⟨rfl, hphase⟩, hr]
        rfl
      · rw [if_neg (by simpa using hphase), if_neg (by simp [hphase]),
          ih (h.step hleads hphase) hnul']
    · have hphase := Phase.step_ne_start h.ne_start hk
      rw [h.segmentsFrom_append hnul fun t s hts => hleads.opens_of_semicolon hk hts,
        if_neg (by simp [hk]), ih (h.step hleads hphase) hnul']

/-- The pieces of a script are those of the single pass. -/
theorem segments_eq {sql : Text} (hnul : '\x00' ∉ sql) : segments sql = .ok (pass sql) :=
  segmentsFrom_eq_passFrom (.initial sql) hnul

/-! ### The single pass -/

/-- The phase behind a lexeme in the single pass, which starts anew behind a cut. -/
def Phase.passStep (phase : Phase) (k : Lexeme) : Phase :=
  if k = .semicolon ∧ phase.step k = .start then .initial else phase.step k

/-- The phase of the single pass behind a list of lexemes. -/
def passPhase (phase : Phase) (lexemes : List (Lexeme × Text)) : Phase :=
  lexemes.foldl (fun p l => p.passStep l.1) phase

theorem passPhase_cons (phase : Phase) (k : Lexeme) (x : Text) (ls : List (Lexeme × Text)) :
    passPhase phase ((k, x) :: ls) = passPhase (phase.passStep k) ls := rfl

/-- Behind a list of lexemes the single pass has closed some pieces and goes on with its phase and
an open piece. -/
theorem exists_passFrom_append (phase : Phase) (piece : Text) (ls : List (Lexeme × Text)) :
    ∃ closed last, closed.flatten ++ last = piece ++ ls.flatMap (·.2) ∧
      ∀ rem ms, passFrom phase piece rem (ls ++ ms) =
        closed ++ passFrom (passPhase phase ls) last rem ms := by
  induction ls generalizing phase piece with
  | nil => exact ⟨[], piece, by simp, fun rem ms => rfl⟩
  | cons l ls ih =>
    obtain ⟨k, x⟩ := l
    by_cases hcut : k = .semicolon ∧ phase.step k = .start
    · obtain ⟨closed, last, hflat, hpass⟩ := ih .initial []
      refine ⟨(piece ++ x) :: closed, last, by simp [hflat], fun rem ms => ?_⟩
      rw [List.cons_append, passFrom, if_pos hcut, hpass, passPhase_cons, Phase.passStep,
        if_pos hcut, List.cons_append]
    · obtain ⟨closed, last, hflat, hpass⟩ := ih (phase.step k) (piece ++ x)
      refine ⟨closed, last, by simp [hflat], fun rem ms => ?_⟩
      rw [List.cons_append, passFrom, if_neg hcut, hpass, passPhase_cons, Phase.passStep,
        if_neg hcut]

theorem passFrom_ne_nil (phase : Phase) (piece rem : Text) (ls : List (Lexeme × Text)) :
    passFrom phase piece rem ls ≠ [] := by
  induction ls generalizing phase piece with
  | nil => simp [passFrom]
  | cons l ls ih =>
    rw [passFrom]
    split
    · simp
    · exact ih _ _

/-- The single pass ends a piece only at a semicolon that completes a statement. -/
theorem exists_semicolon_of_passFrom {phase : Phase} {piece rem : Text}
    {ls : List (Lexeme × Text)} {closed rest : List Text}
    (h : passFrom phase piece rem ls = closed ++ rest) (hclosed : closed ≠ []) (hrest : rest ≠ []) :
    ∃ ls₁ x ls₂, ls = ls₁ ++ (.semicolon, x) :: ls₂ ∧
      (passPhase phase ls₁).step .semicolon = .start ∧
      closed.flatten = piece ++ ls₁.flatMap (·.2) ++ x ∧
      rest.flatten = ls₂.flatMap (·.2) ++ rem := by
  induction ls generalizing phase piece closed with
  | nil =>
    obtain ⟨c, closed, rfl⟩ := List.exists_cons_of_ne_nil hclosed
    have hnil : [] = closed ++ rest := (List.cons.inj h).2
    exact absurd (List.append_eq_nil_iff.1 hnil.symm).2 hrest
  | cons l ls ih =>
    obtain ⟨k, x⟩ := l
    rw [passFrom] at h
    by_cases hcut : k = .semicolon ∧ phase.step k = .start
    · obtain ⟨c, closed, rfl⟩ := List.exists_cons_of_ne_nil hclosed
      rw [if_pos hcut] at h
      obtain ⟨rfl, hpieces⟩ := List.cons.inj h
      by_cases hnil : closed = []
      · subst hnil
        obtain rfl : passFrom .initial [] rem ls = rest := hpieces
        obtain ⟨rfl, hstart⟩ := hcut
        exact ⟨[], x, ls, rfl, hstart, by simp, by simp [flatten_passFrom]⟩
      · obtain ⟨ls₁, y, ls₂, rfl, hstart, hflat, hbehind⟩ := ih hpieces hnil
        refine ⟨(k, x) :: ls₁, y, ls₂, rfl, ?_, by simp [hflat], hbehind⟩
        rwa [passPhase_cons, Phase.passStep, if_pos hcut]
    · rw [if_neg hcut] at h
      obtain ⟨ls₁, y, ls₂, rfl, hstart, hflat, hbehind⟩ := ih h hclosed
      refine ⟨(k, x) :: ls₁, y, ls₂, rfl, ?_, by simp [hflat], hbehind⟩
      rwa [passPhase_cons, Phase.passStep, if_neg hcut]

/-! ### The cuts -/

/-- A script is cut between `before` and `after` where some of its pieces make up `before` and all
others `after`. -/
def Cut (sql before after : Text) : Prop :=
  ∃ closed rest, segments sql = .ok (closed ++ rest) ∧ closed ≠ [] ∧ rest ≠ [] ∧
    closed.flatten = before ∧ rest.flatten = after

/-- **The cuts of a script are those of a single pass** that reads its lexemes once, restarts the
automaton behind each cut, and leaves what is open at the end of the text to the last piece. The
pass and the automaton may as well read the bytes of the script. No cut lies inside a lexeme, inside
what remains or inside the body of a trigger, and every semicolon that completes a statement is a
cut. -/
theorem cuts_of_single_pass (sql : Text) (hnul : '\x00' ∉ sql) :
    segments sql = .ok (pass sql) ∧
      split sql = .ok ((pass sql).filterMap statement?) ∧
      (∀ t : Text, isComplete t.octets = isComplete t) ∧
      pass sql.octets = (pass sql).map Text.octets ∧
      (read sql).1.flatMap (·.2) ++ (read sql).2.2 = sql ∧
      (∀ before after, Cut sql before after →
        ∃ ls₁ ls₂, (read sql).1 = ls₁ ++ (.semicolon, [';']) :: ls₂ ∧
          before = ls₁.flatMap (·.2) ++ [';'] ∧
          after = ls₂.flatMap (·.2) ++ (read sql).2.2 ∧
          (passPhase .initial ls₁).step .semicolon = .start ∧
          passPhase .initial ls₁ ≠ .trigger ∧ passPhase .initial ls₁ ≠ .triggerSemicolon) ∧
      ∀ ls₁ ls₂, (read sql).1 = ls₁ ++ (.semicolon, [';']) :: ls₂ →
        (passPhase .initial ls₁).step .semicolon = .start →
        Cut sql (ls₁.flatMap (·.2) ++ [';']) (ls₂.flatMap (·.2) ++ (read sql).2.2) := by
  refine ⟨segments_eq hnul, by rw [split, segments_eq hnul]; rfl, isComplete_octets,
    pass_octets sql, flatten_read sql, fun before after hcut => ?_, fun ls₁ ls₂ hread hstart => ?_⟩
  · obtain ⟨closed, rest, hsegments, hclosed, hrest, rfl, rfl⟩ := hcut
    have hpass : pass sql = closed ++ rest :=
      Except.ok.inj ((segments_eq hnul).symm.trans hsegments)
    obtain ⟨ls₁, x, ls₂, hread, hstart, hbefore, hafter⟩ :=
      exists_semicolon_of_passFrom hpass hclosed hrest
    have hmem : (.semicolon, x) ∈ (read sql).1 := by simp [hread]
    obtain rfl := eq_semicolon_of_mem_read hmem
    obtain ⟨htrigger, hsemicolon⟩ := Phase.step_semicolon_eq_start_iff.1 hstart
    exact ⟨ls₁, ls₂, hread, by simpa using hbefore, hafter, hstart, htrigger, hsemicolon⟩
  · obtain ⟨closed, last, hflat, hpass⟩ := exists_passFrom_append .initial [] ls₁
    have hpieces : pass sql = (closed ++ [last ++ [';']]) ++
        passFrom .initial [] (read sql).2.2 ls₂ := by
      have hread' := hpass (read sql).2.2 ((.semicolon, [';']) :: ls₂)
      rw [← hread, passFrom, if_pos ⟨rfl, hstart⟩] at hread'
      simpa [pass] using hread'
    refine ⟨_, _, (segments_eq hnul).trans (congrArg _ hpieces), by simp, passFrom_ne_nil _ _ _ _,
      ?_, by rw [flatten_passFrom]; simp⟩
    rw [List.flatten_append, List.flatten_singleton, ← List.append_assoc, hflat, List.nil_append]

/-- The semicolons in a literal, in the body of a trigger and in a comment cut nothing. -/
theorem cuts_of_single_pass_trigger :
    '\x00' ∉ "CREATE TRIGGER t BEGIN SELECT ';'; END; -- ;".toList ∧
      segments "CREATE TRIGGER t BEGIN SELECT ';'; END; -- ;".toList =
        .ok ["CREATE TRIGGER t BEGIN SELECT ';'; END;".toList, " -- ;".toList] := by
  have hnul : '\x00' ∉ "CREATE TRIGGER t BEGIN SELECT ';'; END; -- ;".toList := by decide
  refine ⟨hnul, (cuts_of_single_pass _ hnul).1.trans ?_⟩
  decide +kernel

end SqliteAccess.Statement
