import SqliteAccess.Proofs.Statement.Reading
import SqliteAccess.Statement.Split
import SqliteAccess.Text.Octets

/-!
# Reading a script byte by byte

All characters that start, close or separate lexemes are in ASCII, and every character outside ASCII
belongs to a word wherever it opens a lexeme. So a reader that takes the bytes of a script one by
one finds the same lexemes, each as its bytes, and cuts the script at the same places.

## Main results

* `Statement.read_octets` : the lexemes of the bytes are the bytes of the lexemes.
* `Statement.isComplete_octets` : a script is complete when its bytes are.
* `Statement.pass_octets` : the pieces of the bytes are the bytes of the pieces.
-/

namespace SqliteAccess.Statement

open Text

/-! ### Ends of regions -/

theorem through_append_of_notMem {stop : Char} {u : Text} (hu : stop ∉ u) (t : Text) :
    through stop (u ++ t) = (through stop t).map fun p => (u ++ p.1, p.2) := by
  induction u with
  | nil => simp
  | cons c u ih =>
    rw [List.mem_cons, not_or] at hu
    rw [List.cons_append, through, if_neg (Ne.symm hu.1), ih hu.2, Option.map_map]
    rfl

theorem throughComment_append_of_notMem {u : Text} (hu : '*' ∉ u) (t : Text) :
    throughComment (u ++ t) = (throughComment t).map fun p => (u ++ p.1, p.2) := by
  induction u with
  | nil => simp
  | cons c u ih =>
    rw [List.mem_cons, not_or] at hu
    rw [List.cons_append, throughComment, if_neg (fun h => hu.1 h.1.symm), ih hu.2, Option.map_map]
    rfl

theorem notMem_octets_singleton {c d : Char} (hc : 0x80 ≤ c.toNat) (hd : d.toNat < 0x80) :
    d ∉ octets [c] := fun h => Nat.not_le.2 hd ((octets_singleton_of_le hc).2 d h)

theorem through_octets {stop : Char} (hstop : stop.toNat < 0x80) (t : Text) :
    through stop (octets t) = (through stop t).map fun p => (octets p.1, octets p.2) := by
  induction t with
  | nil => rfl
  | cons c t ih =>
    rcases Nat.lt_or_ge c.toNat 0x80 with hc | hc
    · rw [octets_cons_of_lt hc, through, through]
      split
      · rw [Option.map_some, octets_singleton_of_lt hc]
      · rw [ih]
        cases through stop t with
        | none => rfl
        | some p => simp [octets_cons_of_lt hc]
    · have hne : c ≠ stop := by
        rintro rfl
        exact Nat.not_le.2 hstop hc
      rw [octets_cons, through_append_of_notMem (notMem_octets_singleton hc hstop), ih, through,
        if_neg hne]
      cases through stop t with
      | none => rfl
      | some p => simp [octets_cons c p.1]

theorem throughComment_octets (t : Text) :
    throughComment (octets t) = (throughComment t).map fun p => (octets p.1, octets p.2) := by
  induction t with
  | nil => rfl
  | cons c t ih =>
    rcases Nat.lt_or_ge c.toNat 0x80 with hc | hc
    · have hslash : (octets t).head? = some '/' ↔ t.head? = some '/' :=
        head?_octets_eq_some_iff (by decide)
      rw [octets_cons_of_lt hc, throughComment, throughComment]
      simp only [hslash]
      split
      · next hend =>
        obtain ⟨rest, rfl⟩ := List.head?_eq_some_iff.1 hend.2
        rw [Option.map_some, octets_cons_of_lt hc, octets_singleton_of_lt (by decide),
          octets_cons_of_lt (by decide)]
        rfl
      · rw [ih]
        cases throughComment t with
        | none => rfl
        | some p => simp [octets_cons_of_lt hc]
    · have hne : c ≠ '*' := by
        rintro rfl
        exact absurd hc (by decide)
      rw [octets_cons, throughComment_append_of_notMem (notMem_octets_singleton hc (by decide)), ih,
        throughComment, if_neg fun h => hne h.1]
      cases throughComment t with
      | none => rfl
      | some p => simp [octets_cons c p.1]

theorem IsRegion.close_octets {g : Region} (hg : IsRegion g) (t : Text) :
    g.close (octets t) = (g.close t).map fun p => (octets p.1, octets p.2) := by
  cases hg with
  | comment => exact throughComment_octets t
  | line => exact through_octets (by decide) t
  | bracket => exact through_octets (by decide) t
  | quoted h => exact through_octets (by rcases h with rfl | rfl | rfl <;> decide) t

theorem IsRegion.octets_start {g : Region} (hg : IsRegion g) : octets g.start = g.start := by
  refine octets_eq_self ?_
  cases hg with
  | quoted h => rcases h with rfl | rfl | rfl <;> rfl
  | _ => rfl

/-! ### Words -/

theorem isIdentifierChar_of_le {c : Char} (hc : 0x80 ≤ c.toNat) : isIdentifierChar c = true := by
  simp [isIdentifierChar, hc]

theorem lt_of_isIdentifierChar_eq_false {c : Char} (hc : isIdentifierChar c = false) :
    c.toNat < 0x80 := by
  refine Nat.lt_of_not_le fun hle => ?_
  rw [isIdentifierChar_of_le hle] at hc
  exact absurd hc (by decide)

/-- A word with a character outside ASCII is no keyword. -/
theorem wordKind_of_mem {c : Char} {word : Text} (hmem : c ∈ word) (hc : 0x80 ≤ c.toNat) :
    wordKind word = .other := by
  have hne {keyword : Text} (hkeyword : isAscii keyword = true) :
      word.map Char.toLower ≠ keyword := by
    rintro rfl
    have hlower := isAscii_iff.1 hkeyword c.toLower (List.mem_map_of_mem hmem)
    rw [toLower_of_le hc] at hlower
    exact Nat.not_le.2 hlower hc
  have hcreate : word.map Char.toLower ≠ "create".toList := hne rfl
  have htrigger : word.map Char.toLower ≠ "trigger".toList := hne rfl
  have htemp : word.map Char.toLower ≠ "temp".toList := hne rfl
  have htemporary : word.map Char.toLower ≠ "temporary".toList := hne rfl
  have hend : word.map Char.toLower ≠ "end".toList := hne rfl
  have hexplain : word.map Char.toLower ≠ "explain".toList := hne rfl
  simp only [wordKind, if_neg hcreate, if_neg htrigger, if_neg (not_or.2 ⟨htemp, htemporary⟩),
    if_neg hend, if_neg hexplain]

theorem wordKind_octets (word : Text) : wordKind (octets word) = wordKind word := by
  by_cases hascii : isAscii word = true
  · rw [octets_eq_self hascii]
  · simp only [isAscii_iff, not_forall, Nat.not_lt] at hascii
    obtain ⟨c, hmem, hc⟩ := hascii
    obtain ⟨s, t, rfl⟩ := List.append_of_mem hmem
    obtain ⟨hne, hbytes⟩ := octets_singleton_of_le hc
    obtain ⟨d, u, hu⟩ := List.exists_cons_of_ne_nil hne
    have hd : d ∈ octets (s ++ c :: t) := by simp [octets_cons c t, hu]
    rw [wordKind_of_mem hd (hbytes d (by simp [hu])), wordKind_of_mem hmem hc]

/-! ### Lexemes -/

theorem IsSymbol.toNat_lt {c : Char} (hc : IsSymbol c) : c.toNat < 0x80 :=
  lt_of_isIdentifierChar_eq_false hc.2.2.2.2

/-- The bytes of a lexeme are a lexeme of the same kind in front of the bytes behind it. -/
theorem Leads.octets {k : Lexeme} {x r : Text} (h : Leads k x r) :
    Leads k x.octets r.octets := by
  cases h with
  | semicolon => exact .semicolon
  | @separator c _ hc =>
    have hascii : c.toNat < 0x80 := by
      simp only [isSeparator, Bool.or_eq_true, decide_eq_true_eq] at hc
      rcases hc with (((rfl | rfl) | rfl) | rfl) | rfl <;> decide
    rw [octets_singleton_of_lt hascii]
    exact .separator hc
  | @region g u _ hg hu =>
    rw [octets_append, hg.octets_start]
    exact .region hg (by rw [hg.close_octets, hu]; rfl)
  | @word w _ hw hchars hr =>
    rw [← wordKind_octets]
    refine .word (octets_ne_nil hw) (fun c hc => ?_) fun d hd => ?_
    · exact (mem_octets hc).elim (hchars c) isIdentifierChar_of_le
    · cases r with
      | nil => simp at hd
      | cons c r =>
        have hc : isIdentifierChar c = false := hr c rfl
        rw [octets_cons_of_lt (lt_of_isIdentifierChar_eq_false hc)] at hd
        obtain rfl : c = d := Option.some.inj hd
        exact hc
  | @symbol c _ hc hr =>
    rw [octets_singleton_of_lt hc.toNat_lt]
    refine .symbol hc fun d hd => ⟨?_, ?_⟩
    · rintro ⟨rfl, rfl⟩
      exact (hr '*' ((head?_octets_eq_some_iff (by decide)).1 hd)).1 ⟨rfl, rfl⟩
    · rintro ⟨rfl, rfl⟩
      exact (hr '-' ((head?_octets_eq_some_iff (by decide)).1 hd)).2 ⟨rfl, rfl⟩

theorem Opens.octets {t : Text} {rem : Remainder} (h : Opens t rem) : Opens t.octets rem := by
  cases h with
  | @region g body hg hbody =>
    rw [octets_append, hg.octets_start]
    exact .region hg (by rw [hg.close_octets, hbody]; rfl)

/-- The lexemes of the bytes of a text are the bytes of its lexemes. -/
theorem read_octets (t : Text) :
    read t.octets =
      ((read t).1.map fun l => (l.1, l.2.octets), (read t).2.1, (read t).2.2.octets) := by
  induction t using text_induction with
  | nil => simp [read]
  | opens t rem h => simp [h.read_eq, h.octets.read_eq]
  | leads k x r h ih => rw [octets_append, h.read_eq, h.octets.read_eq, ih, List.map_cons]

/-- A script is complete when its bytes are. -/
theorem isComplete_octets (t : Text) : isComplete t.octets = isComplete t := by
  simp only [isComplete, read_octets, List.foldl_map]

theorem passFrom_octets (phase : Phase) (piece rem : Text) (ls : List (Lexeme × Text)) :
    passFrom phase piece.octets rem.octets (ls.map fun l => (l.1, l.2.octets)) =
      (passFrom phase piece rem ls).map Text.octets := by
  induction ls generalizing phase piece with
  | nil => simp [passFrom]
  | cons l ls ih =>
    obtain ⟨k, x⟩ := l
    rw [List.map_cons, passFrom, passFrom, ← octets_append, ih]
    split
    · exact congrArg _ (ih .initial [])
    · rfl

/-- The pieces of the bytes of a script are the bytes of its pieces. -/
theorem pass_octets (sql : Text) : pass sql.octets = (pass sql).map Text.octets := by
  rw [pass, pass, read_octets]
  exact passFrom_octets .initial [] (read sql).2.2 (read sql).1

end SqliteAccess.Statement
