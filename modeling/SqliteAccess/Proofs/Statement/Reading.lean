import Mathlib.Data.List.TakeWhile
import Mathlib.Tactic.SplitIfs
import SqliteAccess.Statement.Lexeme

/-!
# Reading lexemes off the front of a text

Every text that is not empty either starts with a lexeme or is an open region as a whole. The
relations of this module say so without the recursion of the reader: a lexeme depends on the text
behind it only through the next character, and a region that is cut short is open.

## Main definitions

* `Statement.Region` : the regions of a script, which are quotes, brackets and comments.
* `Statement.Leads` : a lexeme with a text that may stand behind it.
* `Statement.Opens` : a region that the text does not close.
* `Statement.Neutral` : the characters that continue no lexeme.

## Main results

* `Statement.text_induction` : induction along the lexemes of a text.
* `Statement.Leads.replace` : what may stand behind a lexeme.
* `Statement.Leads.opens_of_semicolon` : a semicolon inside a lexeme stands inside an open region.
* `Statement.read_append` : the lexemes of two texts in a row.
-/

namespace SqliteAccess.Statement

/-! ### Searches for the end of a region -/

/-- A search that splits a text behind the first end of a region. The end does not depend on what
stands behind it, and its last character is no semicolon. -/
structure Closing (close : Text → Option (Text × Text)) : Prop where
  eq_append : ∀ {t u r : Text}, close t = some (u, r) → t = u ++ r
  append : ∀ {t u r : Text}, close t = some (u, r) → ∀ s, close (u ++ s) = some (u, s)
  getLast_ne : ∀ {t u r : Text}, close t = some (u, r) → u.getLast? ≠ some ';'

namespace Closing

variable {close : Text → Option (Text × Text)} (h : Closing close)
include h

theorem close_append {t u r : Text} (ht : close t = some (u, r)) (s : Text) :
    close (t ++ s) = some (u, r ++ s) := by
  rw [h.eq_append ht, List.append_assoc]
  exact h.append ht (r ++ s)

/-- What a longer text does not close, a shorter one does not close either. -/
theorem eq_none_of_append {t s : Text} (hts : close (t ++ s) = none) : close t = none := by
  cases ht : close t with
  | none => rfl
  | some p =>
    obtain ⟨u, r⟩ := p
    rw [h.close_append ht s] at hts
    exact absurd hts (by simp)

/-- A region that is cut short behind a semicolon is not closed. -/
theorem eq_none_of_semicolon {t s : Text}
    (hclose : close (t ++ ';' :: s) = some (t ++ ';' :: s, [])) : close (t ++ [';']) = none := by
  cases ht : close (t ++ [';']) with
  | none => rfl
  | some p =>
    obtain ⟨u, r⟩ := p
    have hlonger := h.close_append ht s
    rw [List.append_assoc, List.singleton_append, hclose] at hlonger
    obtain ⟨hu, hrest⟩ := Prod.mk.inj (Option.some.inj hlonger)
    -- nothing stands behind the semicolon, so it would be the last character of the end
    obtain rfl : s = [] := (List.append_eq_nil_iff.1 hrest.symm).2
    exact absurd (by simp [← hu]) (h.getLast_ne ht)

end Closing

theorem through_eq_some_iff {stop : Char} {t u r : Text} :
    through stop t = some (u, r) ↔ ∃ v, stop ∉ v ∧ u = v ++ [stop] ∧ t = u ++ r := by
  constructor
  · intro h
    induction t generalizing u r with
    | nil => simp [through] at h
    | cons c t ih =>
      rw [through] at h
      split at h
      · next hc =>
        obtain ⟨rfl, rfl⟩ := Prod.mk.inj (Option.some.inj h)
        exact ⟨[], by simp, by simp [hc], rfl⟩
      · next hc =>
        obtain ⟨⟨u', r'⟩, h', hpair⟩ := Option.map_eq_some_iff.1 h
        obtain ⟨rfl, rfl⟩ := Prod.mk.inj hpair
        obtain ⟨v, hv, rfl, rfl⟩ := ih h'
        exact ⟨c :: v, by simp [Ne.symm hc, hv], rfl, rfl⟩
  · rintro ⟨v, hv, rfl, rfl⟩
    induction v with
    | nil => simp [through]
    | cons c v ih =>
      rw [List.mem_cons, not_or] at hv
      have hrest : through stop (v ++ [stop] ++ r) = some (v ++ [stop], r) := ih hv.2
      rw [List.cons_append, List.cons_append, through, if_neg (Ne.symm hv.1), hrest]
      rfl

theorem closing_through {stop : Char} (hstop : stop ≠ ';') : Closing (through stop) where
  eq_append h := by
    obtain ⟨v, -, -, ht⟩ := through_eq_some_iff.1 h
    exact ht
  append h s := by
    obtain ⟨v, hv, hu, -⟩ := through_eq_some_iff.1 h
    exact through_eq_some_iff.2 ⟨v, hv, hu, rfl⟩
  getLast_ne h := by
    obtain ⟨v, -, rfl, -⟩ := through_eq_some_iff.1 h
    simpa using hstop

/-- A block comment ends with a slash, and its end does not depend on what stands behind it. -/
theorem throughComment_spec {t u r : Text} (h : throughComment t = some (u, r)) :
    t = u ++ r ∧ u.getLast? = some '/' ∧ ∀ s, throughComment (u ++ s) = some (u, s) := by
  induction t generalizing u r with
  | nil => simp [throughComment] at h
  | cons c t ih =>
    rw [throughComment] at h
    split at h
    · next hend =>
      obtain ⟨rfl, hslash⟩ := hend
      obtain ⟨rfl, rfl⟩ := Prod.mk.inj (Option.some.inj h)
      obtain ⟨d, s, rfl⟩ := List.exists_cons_of_ne_nil (l := t) (by rintro rfl; simp at hslash)
      obtain rfl : d = '/' := by simpa using hslash
      exact ⟨rfl, rfl, fun s => by simp [throughComment]⟩
    · next hend =>
      obtain ⟨⟨v, r'⟩, ht, hpair⟩ := Option.map_eq_some_iff.1 h
      obtain ⟨rfl, rfl⟩ := Prod.mk.inj hpair
      obtain ⟨rfl, hlast, hbehind⟩ := ih ht
      -- the end lies in `v`, so the character behind `c` stays the same
      obtain ⟨d, v, rfl⟩ := List.exists_cons_of_ne_nil (l := v) (by rintro rfl; simp at hlast)
      refine ⟨rfl, by simpa using hlast, fun s => ?_⟩
      rw [List.cons_append, throughComment, if_neg (by simpa using hend), hbehind]
      rfl

theorem closing_throughComment : Closing throughComment where
  eq_append h := (throughComment_spec h).1
  append h := (throughComment_spec h).2.2
  getLast_ne h := by
    rw [(throughComment_spec h).2.1]
    decide

/-- A semicolon behind a text without semicolons stands behind all of it. -/
theorem exists_of_semicolon_notMem {x y t s : Text} (hx : ';' ∉ x) (h : x ++ y = t ++ ';' :: s) :
    ∃ v, t = x ++ v ∧ y = v ++ ';' :: s := by
  rcases List.append_eq_append_iff.1 h with ⟨v, ht, hy⟩ | ⟨v, hxv, hsemicolon⟩
  · exact ⟨v, ht, hy⟩
  · cases v with
    | nil => exact ⟨[], by simpa using hxv.symm, by simpa using hsemicolon.symm⟩
    | cons d v =>
      obtain ⟨rfl, -⟩ := List.cons.inj hsemicolon
      exact absurd (by simp [hxv]) hx

/-! ### Regions -/

/-- A kind of region: the text that starts it, the search for its end, and what remains of a text
that does not close it. -/
structure Region where
  kind : Lexeme
  start : Text
  close : Text → Option (Text × Text)
  remainder : Remainder

namespace Region

/-- What a text starts with whose region is not closed. -/
def failure (g : Region) : Front := if g.remainder = .lastLine then .lastLine else .unclosed

/-- A block comment. -/
def comment : Region := ⟨.blank, ['/', '*'], throughComment, .unclosed⟩

/-- A line comment, which the end of the text leaves open. -/
def line : Region := ⟨.blank, ['-', '-'], through '\n', .lastLine⟩

/-- A name in brackets. -/
def bracket : Region := ⟨.other, ['['], through ']', .unclosed⟩

/-- A region between two quotes, without a way to write the quote in it. -/
def quoted (quote : Char) : Region := ⟨.other, [quote], through quote, .unclosed⟩

end Region

/-- The characters that open a region which ends at the same character. -/
def IsRegionQuote (c : Char) : Prop := c = '\x60' ∨ c = '"' ∨ c = '\''

/-- The regions of a script. -/
inductive IsRegion : Region → Prop
  | comment : IsRegion .comment
  | line : IsRegion .line
  | bracket : IsRegion .bracket
  | quoted {quote : Char} (h : IsRegionQuote quote) : IsRegion (.quoted quote)

namespace IsRegion

variable {g : Region} (h : IsRegion g)
include h

theorem closing : Closing g.close := by
  cases h with
  | comment => exact closing_throughComment
  | line => exact closing_through (by decide)
  | bracket => exact closing_through (by decide)
  | quoted h => exact closing_through (by rcases h with rfl | rfl | rfl <;> decide)

theorem semicolon_notMem_start : ';' ∉ g.start := by
  cases h with
  | quoted h => rcases h with rfl | rfl | rfl <;> decide
  | _ => decide

theorem kind_ne_semicolon : g.kind ≠ .semicolon := by
  cases h <;> exact fun h => Lexeme.noConfusion h

theorem remainder_ne_none : g.remainder ≠ .none := by
  cases h <;> exact fun h => Remainder.noConfusion h

theorem exists_start : ∃ c start, g.start = c :: start ∧
    ∀ body, front c (start ++ body) = closedBy g.kind g.start (g.close body) g.failure := by
  cases h with
  | comment => exact ⟨'/', ['*'], rfl, fun body => rfl⟩
  | line => exact ⟨'-', ['-'], rfl, fun body => rfl⟩
  | bracket => exact ⟨'[', [], rfl, fun body => rfl⟩
  | quoted h => rcases h with rfl | rfl | rfl <;> exact ⟨_, [], rfl, fun body => rfl⟩

/-- A semicolon in a text that starts with a region stands behind the start of the region. -/
theorem exists_body {body t s : Text} (heq : g.start ++ body = t ++ ';' :: s) :
    ∃ v, t = g.start ++ v ∧ body = v ++ ';' :: s :=
  exists_of_semicolon_notMem h.semicolon_notMem_start heq

end IsRegion

/-! ### Lexemes and open regions -/

/-- A character that is a lexeme of its own and no semicolon: it is no blank, opens no region and
belongs to no word. -/
def IsSymbol (c : Char) : Prop :=
  c ≠ ';' ∧ isSeparator c = false ∧ c ≠ '[' ∧ ¬IsRegionQuote c ∧ isIdentifierChar c = false

/-- The kind and the text of a lexeme, with a text that may stand behind it. -/
inductive Leads : Lexeme → Text → Text → Prop
  | semicolon {r : Text} : Leads .semicolon [';'] r
  | separator {c : Char} {r : Text} (hc : isSeparator c = true) : Leads .blank [c] r
  | region {g : Region} {u r : Text} (hg : IsRegion g) (hu : g.close u = some (u, [])) :
      Leads g.kind (g.start ++ u) r
  | word {w r : Text} (hw : w ≠ []) (hchars : ∀ c ∈ w, isIdentifierChar c = true)
      (hr : ∀ d ∈ r.head?, isIdentifierChar d = false) : Leads (wordKind w) w r
  | symbol {c : Char} {r : Text} (hc : IsSymbol c)
      (hr : ∀ d ∈ r.head?, ¬(c = '/' ∧ d = '*') ∧ ¬(c = '-' ∧ d = '-')) : Leads .other [c] r

/-- A region that the text does not close, with what remains of the text. -/
inductive Opens : Text → Remainder → Prop
  | region {g : Region} {body : Text} (hg : IsRegion g) (hbody : g.close body = none) :
      Opens (g.start ++ body) g.remainder

/-- What a text starts with whose first character opens nothing. -/
theorem front_of_plain {c : Char} {t : Text} (hsemicolon : c ≠ ';')
    (hseparator : isSeparator c = false) (hcomment : ¬(c = '/' ∧ t.head? = some '*'))
    (hline : ¬(c = '-' ∧ t.head? = some '-')) (hbracket : c ≠ '[') (hquote : ¬IsRegionQuote c) :
    front c t =
      if isIdentifierChar c then
        .lexeme (wordKind (c :: t.takeWhile isIdentifierChar)) (c :: t.takeWhile isIdentifierChar)
          (t.dropWhile isIdentifierChar)
      else .lexeme .other [c] t := by
  rw [IsRegionQuote] at hquote
  rw [front, if_neg hsemicolon, if_neg (by simp [hseparator]), if_neg hcomment, if_neg hline,
    if_neg hbracket, if_neg hquote]

theorem isSeparator_eq_false_of_isIdentifierChar {c : Char} (hc : isIdentifierChar c = true) :
    isSeparator c = false := by
  by_contra hseparator
  simp only [isSeparator, Bool.not_eq_false, Bool.or_eq_true, decide_eq_true_eq] at hseparator
  rcases hseparator with (((rfl | rfl) | rfl) | rfl) | rfl <;> exact absurd hc (by decide)

theorem front_of_isIdentifierChar {c : Char} (hc : isIdentifierChar c = true) (t : Text) :
    front c t = .lexeme (wordKind (c :: t.takeWhile isIdentifierChar))
      (c :: t.takeWhile isIdentifierChar) (t.dropWhile isIdentifierChar) := by
  have hne {d : Char} (hd : isIdentifierChar d = false) : c ≠ d := by
    rintro rfl
    exact absurd hc (by simp [hd])
  have hquote : ¬IsRegionQuote c := by
    rintro (h | h | h) <;> exact hne rfl h
  rw [front_of_plain (hne rfl) (isSeparator_eq_false_of_isIdentifierChar hc) (fun h => hne rfl h.1)
    (fun h => hne rfl h.1) (hne rfl) hquote, if_pos hc]

theorem read_of_front {c : Char} {t u r : Text} {k : Lexeme} (h : front c t = .lexeme k u r) :
    read (c :: t) = ((k, u) :: (read r).1, (read r).2) := by
  rw [read]
  split
  · next k' u' r' h' =>
    obtain ⟨rfl, rfl, rfl⟩ := Front.lexeme.inj (h.symm.trans h')
    rfl
  · next h' => exact absurd (h.symm.trans h') (by simp)
  · next h' => exact absurd (h.symm.trans h') (by simp)

/-- A lexeme at the front of a text is its first lexeme. -/
theorem Leads.read_eq {k : Lexeme} {x r : Text} (h : Leads k x r) :
    read (x ++ r) = ((k, x) :: (read r).1, (read r).2) := by
  cases h with
  | semicolon => exact read_of_front rfl
  | @separator c _ hc =>
    have hne : c ≠ ';' := by
      rintro rfl
      exact absurd hc (by decide)
    rw [List.singleton_append]
    refine read_of_front ?_
    rw [front, if_neg hne, if_pos hc]
  | @region g u _ hg hu =>
    obtain ⟨c, start, hstart, hfront⟩ := hg.exists_start
    have hclose := hfront (u ++ r)
    rw [hg.closing.append hu r] at hclose
    have htext : g.start ++ u ++ r = c :: (start ++ (u ++ r)) := by simp [hstart]
    rw [htext]
    exact read_of_front hclose
  | word hw hchars hr =>
    obtain ⟨c, w, rfl⟩ := List.exists_cons_of_ne_nil hw
    obtain ⟨hc, hchars⟩ := List.forall_mem_cons.1 hchars
    rw [List.cons_append]
    refine read_of_front ?_
    rw [front_of_isIdentifierChar hc, Text.takeWhile_append_of_head? hchars hr,
      Text.dropWhile_append_of_head? hchars hr]
  | @symbol c _ hc hr =>
    obtain ⟨hsemicolon, hseparator, hbracket, hquote, hidentifier⟩ := hc
    rw [List.singleton_append]
    refine read_of_front ?_
    rw [front_of_plain hsemicolon hseparator (fun h => (hr _ h.2).1 ⟨h.1, rfl⟩)
      (fun h => (hr _ h.2).2 ⟨h.1, rfl⟩) hbracket hquote, if_neg (by simp [hidentifier])]

theorem read_of_failure {c : Char} {t : Text} {g : Region} (hg : g.remainder ≠ .none)
    (h : front c t = g.failure) : read (c :: t) = ([], g.remainder, c :: t) := by
  rw [Region.failure] at h
  rw [read]
  cases hr : g.remainder with
  | none => exact absurd hr hg
  | unclosed =>
    rw [hr, if_neg (by decide)] at h
    split
    · next h' => exact absurd (h.symm.trans h') (by simp)
    · rfl
    · next h' => exact absurd (h.symm.trans h') (by simp)
  | lastLine =>
    rw [hr, if_pos rfl] at h
    split
    · next h' => exact absurd (h.symm.trans h') (by simp)
    · next h' => exact absurd (h.symm.trans h') (by simp)
    · rfl

/-- An open region has no lexeme, and remains as a whole. -/
theorem Opens.read_eq {t : Text} {rem : Remainder} (h : Opens t rem) : read t = ([], rem, t) := by
  cases h with
  | @region g body hg hbody =>
    obtain ⟨c, start, hstart, hfront⟩ := hg.exists_start
    have hfailure := hfront body
    rw [hbody] at hfailure
    rw [hstart, List.cons_append]
    exact read_of_failure hg.remainder_ne_none hfailure

theorem Opens.remainder_ne_none {t : Text} {rem : Remainder} (h : Opens t rem) : rem ≠ .none := by
  cases h with
  | region hg => exact hg.remainder_ne_none

/-- A text that starts with a region starts with a lexeme or is open. -/
theorem IsRegion.leads_or_opens {g : Region} (hg : IsRegion g) (body : Text) :
    (∃ k x r, g.start ++ body = x ++ r ∧ x ≠ [] ∧ Leads k x r) ∨
      ∃ rem, Opens (g.start ++ body) rem := by
  cases hbody : g.close body with
  | none => exact .inr ⟨_, .region hg hbody⟩
  | some p =>
    obtain ⟨u, r⟩ := p
    have hu : g.close u = some (u, []) := by simpa using hg.closing.append hbody []
    obtain ⟨c, start, hstart, -⟩ := hg.exists_start
    refine .inl ⟨_, g.start ++ u, r, ?_, by simp [hstart], .region hg hu⟩
    rw [hg.closing.eq_append hbody, List.append_assoc]

/-- The word characters at the front of a text, and what stands behind them. -/
theorem exists_word_append (t : Text) : ∃ w r, t = w ++ r ∧
    (∀ c ∈ w, isIdentifierChar c = true) ∧ ∀ d ∈ r.head?, isIdentifierChar d = false := by
  exact ⟨t.takeWhile isIdentifierChar, t.dropWhile isIdentifierChar,
    List.takeWhile_append_dropWhile.symm, fun c hc => List.mem_takeWhile_imp hc,
    fun d hd => Text.eq_false_of_mem_head?_dropWhile hd⟩

/-- Every text that is not empty starts with a lexeme or is open. -/
theorem leads_or_opens (c : Char) (t : Text) :
    (∃ k x r, c :: t = x ++ r ∧ x ≠ [] ∧ Leads k x r) ∨ ∃ rem, Opens (c :: t) rem := by
  by_cases hsemicolon : c = ';'
  · subst hsemicolon
    exact .inl ⟨_, [';'], t, rfl, by simp, .semicolon⟩
  by_cases hseparator : isSeparator c = true
  · exact .inl ⟨_, [c], t, rfl, by simp, .separator hseparator⟩
  by_cases hcomment : c = '/' ∧ t.head? = some '*'
  · obtain ⟨rfl, hstar⟩ := hcomment
    obtain ⟨body, rfl⟩ := List.head?_eq_some_iff.1 hstar
    exact IsRegion.comment.leads_or_opens body
  by_cases hline : c = '-' ∧ t.head? = some '-'
  · obtain ⟨rfl, hminus⟩ := hline
    obtain ⟨body, rfl⟩ := List.head?_eq_some_iff.1 hminus
    exact IsRegion.line.leads_or_opens body
  by_cases hbracket : c = '['
  · subst hbracket
    exact IsRegion.bracket.leads_or_opens t
  by_cases hquote : IsRegionQuote c
  · exact (IsRegion.quoted hquote).leads_or_opens t
  by_cases hidentifier : isIdentifierChar c = true
  · obtain ⟨w, r, rfl, hw, hr⟩ := exists_word_append t
    exact .inl ⟨_, c :: w, r, rfl, by simp,
      .word (by simp) (List.forall_mem_cons.2 ⟨hidentifier, hw⟩) hr⟩
  · refine .inl ⟨_, [c], t, rfl, by simp, .symbol ⟨hsemicolon, by simpa using hseparator, hbracket,
      hquote, by simpa using hidentifier⟩ fun d hd => ⟨?_, ?_⟩⟩
    · rintro ⟨rfl, rfl⟩
      exact hcomment ⟨rfl, hd⟩
    · rintro ⟨rfl, rfl⟩
      exact hline ⟨rfl, hd⟩

/-- Induction along the lexemes of a text. -/
theorem text_induction {P : Text → Prop} (nil : P [])
    (opens : ∀ t rem, Opens t rem → P t)
    (leads : ∀ k x r, Leads k x r → P r → P (x ++ r)) (t : Text) : P t := by
  induction hn : t.length using Nat.strongRecOn generalizing t with
  | ind n ih =>
  subst hn
  match t with
  | [] => exact nil
  | c :: t =>
    rcases leads_or_opens c t with ⟨k, x, r, htext, hx, hleads⟩ | ⟨rem, hopens⟩
    · rw [htext] at ih ⊢
      refine leads k x r hleads (ih _ ?_ r rfl)
      simpa using List.length_pos_iff.2 hx
    · exact opens _ rem hopens

/-! ### What stands behind a lexeme -/

/-- The characters that continue no lexeme, whatever it is. -/
def Neutral (d : Char) : Prop := isIdentifierChar d = false ∧ d ≠ '*' ∧ d ≠ '-'

/-- A lexeme stays the same in front of every text that starts with the same character as the one
behind it, or with a character that continues no lexeme. -/
theorem Leads.replace {k : Lexeme} {x r s : Text} (h : Leads k x r)
    (hs : ∀ d ∈ s.head?, d ∈ r.head? ∨ Neutral d) : Leads k x s := by
  cases h with
  | semicolon => exact .semicolon
  | separator hc => exact .separator hc
  | region hg hu => exact .region hg hu
  | word hw hchars hr =>
    refine .word hw hchars fun d hd => ?_
    rcases hs d hd with hd | hd
    · exact hr d hd
    · exact hd.1
  | symbol hc hr =>
    refine .symbol hc fun d hd => ?_
    rcases hs d hd with hd | hd
    · exact hr d hd
    · exact ⟨fun h => hd.2.1 h.2, fun h => hd.2.2 h.2⟩

theorem neutral_of_isRegionQuote {c : Char} (h : IsRegionQuote c) : Neutral c := by
  rcases h with rfl | rfl | rfl <;> exact ⟨rfl, by decide, by decide⟩

theorem wordKind_ne_semicolon (word : Text) : wordKind word ≠ .semicolon := by
  rw [wordKind]
  split_ifs <;> decide

theorem Leads.ne_nil {k : Lexeme} {x r : Text} (h : Leads k x r) : x ≠ [] := by
  cases h with
  | word hw => exact hw
  | region hg =>
    obtain ⟨c, start, hstart, -⟩ := hg.exists_start
    simp [hstart]
  | _ => simp

/-- Only a semicolon is a lexeme of its kind. -/
theorem Leads.eq_semicolon {k : Lexeme} {x r : Text} (h : Leads k x r) (hk : k = .semicolon) :
    x = [';'] := by
  cases h with
  | semicolon => rfl
  | region hg => exact absurd hk hg.kind_ne_semicolon
  | word => exact absurd hk (wordKind_ne_semicolon _)
  | separator => exact Lexeme.noConfusion hk
  | symbol => exact Lexeme.noConfusion hk

/-- A semicolon inside another lexeme stands inside a region: the text up to it is open. -/
theorem Leads.opens_of_semicolon {k : Lexeme} {x r t s : Text} (h : Leads k x r)
    (hk : k ≠ .semicolon) (hx : x = t ++ ';' :: s) : ∃ rem, Opens (t ++ [';']) rem := by
  have hmem : ';' ∈ x := by simp [hx]
  cases h with
  | semicolon => exact absurd rfl hk
  | @separator c _ hc =>
    obtain rfl : ';' = c := by simpa using hmem
    exact absurd hc (by decide)
  | word hw hchars hr => exact absurd (hchars _ hmem) (by decide)
  | @symbol c _ hc hr =>
    obtain rfl : ';' = c := by simpa using hmem
    exact absurd rfl hc.1
  | @region g u _ hg hu =>
    obtain ⟨v, rfl, rfl⟩ := hg.exists_body hx
    rw [List.append_assoc]
    exact ⟨_, .region hg (hg.closing.eq_none_of_semicolon hu)⟩

/-- An open region is open at every semicolon in it. -/
theorem Opens.opens_of_semicolon {x t s : Text} {rem : Remainder} (h : Opens x rem)
    (hx : x = t ++ ';' :: s) : ∃ rem, Opens (t ++ [';']) rem := by
  cases h with
  | @region g body hg hbody =>
    obtain ⟨v, rfl, rfl⟩ := hg.exists_body hx
    have hshort : g.close (v ++ [';'] ++ s) = none := by simpa using hbody
    rw [List.append_assoc]
    exact ⟨_, .region hg (hg.closing.eq_none_of_append hshort)⟩

/-! ### Reading two texts in a row -/

/-- The lexemes of a text and what remains of it make up the text. -/
theorem flatten_read (t : Text) : (read t).1.flatMap (·.2) ++ (read t).2.2 = t := by
  induction t using text_induction with
  | nil => simp [read]
  | opens t rem h => simp [h.read_eq]
  | leads k x r h ih =>
    rw [h.read_eq, List.flatMap_cons, List.append_assoc, ih]

theorem eq_semicolon_of_mem_read {t x : Text} (h : (.semicolon, x) ∈ (read t).1) : x = [';'] := by
  induction t using text_induction with
  | nil => simp [read] at h
  | opens t rem hopens => simp [hopens.read_eq] at h
  | leads k y r hleads ih =>
    rw [hleads.read_eq, List.mem_cons] at h
    rcases h with h | h
    · obtain ⟨rfl, rfl⟩ := Prod.mk.inj h
      exact hleads.eq_semicolon rfl
    · exact ih h

/-- A text in which nothing remains is read in front of every text that starts with a neutral
character as it is read alone. -/
theorem read_append {t s : Text} (ht : (read t).2.1 = .none) (hs : ∀ d ∈ s.head?, Neutral d) :
    read (t ++ s) = ((read t).1 ++ (read s).1, (read s).2) := by
  induction t using text_induction with
  | nil => simp [read]
  | opens t rem h =>
    rw [h.read_eq] at ht
    exact absurd ht h.remainder_ne_none
  | leads k x r h ih =>
    have hbehind : Leads k x (r ++ s) := by
      refine h.replace fun d hd => ?_
      cases r with
      | nil => exact .inr (hs d hd)
      | cons c r => exact .inl hd
    rw [h.read_eq] at ht ⊢
    rw [List.append_assoc, hbehind.read_eq, ih ht]
    rfl

end SqliteAccess.Statement
