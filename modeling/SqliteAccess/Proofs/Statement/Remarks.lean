import SqliteAccess.Proofs.Statement.Stability

/-!
# Statements without a token

A statement is empty when it has no token: nothing but blanks between tokens, comments and
semicolons. Pieces are dropped by their characters, however, and not by their tokens. A piece of
blanks and semicolons is dropped, but one that holds comments besides is not, so that a comment with
a semicolon behind it, or one at the end of a script, is a statement of its own. The other way
round, a piece with a blank that does not stand between tokens has a token, and is dropped all the
same.

Nothing else can go wrong. A semicolon behind blanks and comments completes a statement, so that a
statement without a token has one semicolon at most, and that at its end.

## Main definitions

* `Statement.HasToken` : the texts with a token.
* `Statement.IsTrivia` : blanks and comments, with at most one semicolon at the end.
* `Statement.IsRemark` : the same with a comment.
* `Statement.CutAtEnd` : the texts that are cut at their end or nowhere.

## Main results

* `Statement.CutAtEnd.isTrivia_iff` : the statements without a token.
* `Statement.hasToken_iff_of_hasContent_eq_false` : the dropped pieces with a token.
* `Statement.hasToken_of_split_iff` : which statements of a script have a token, and when the first
  of them is the first one that does.
-/

namespace SqliteAccess.Statement

open Text

/-- The texts with a token: a word, a symbol, a quote or a bracket, closed or not. -/
def HasToken (t : Text) : Prop :=
  (∃ l ∈ (read t).1, l.1 ≠ .blank ∧ l.1 ≠ .semicolon) ∨
    (read t).2.1 = .unclosed ∧ ¬['/', '*'] <+: (read t).2.2

instance (t : Text) : Decidable (HasToken t) := inferInstanceAs (Decidable (_ ∨ _))

/-- The comments among the regions. -/
def Region.IsComment (g : Region) : Prop := g = .comment ∨ g = .line

/-- Blanks between tokens and comments, with at most one semicolon behind them. -/
inductive IsTrivia : Text → Prop
  | nil : IsTrivia []
  | semicolon : IsTrivia [';']
  | openComment {g : Region} {body : Text} (hg : g.IsComment) (hbody : g.close body = none) :
      IsTrivia (g.start ++ body)
  | separator {c : Char} {t : Text} (hc : isSeparator c = true) (ht : IsTrivia t) :
      IsTrivia (c :: t)
  | comment {g : Region} {u t : Text} (hg : g.IsComment) (hu : g.close u = some (u, []))
      (ht : IsTrivia t) : IsTrivia (g.start ++ u ++ t)

/-- Comments between blanks, with at most one semicolon behind them. -/
structure IsRemark (t : Text) : Prop where
  isTrivia : IsTrivia t
  /-- Something stands there besides blanks and a semicolon, which can only be a comment. -/
  hasContent : hasContent t = true

/-- The texts that are cut at their end or nowhere. -/
def CutAtEnd (t : Text) : Prop :=
  ∀ u s, t = u ++ ';' :: s → s ≠ [] → isComplete (u ++ [';']) = false

/-! ### Tokens among lexemes -/

namespace Region.IsComment

variable {g : Region} (hg : g.IsComment)
include hg

theorem isRegion : IsRegion g := by
  rcases hg with rfl | rfl
  · exact .comment
  · exact .line

theorem kind_eq : g.kind = .blank := by
  rcases hg with rfl | rfl <;> rfl

end Region.IsComment

theorem not_hasToken_nil : ¬HasToken [] := by
  simp [HasToken, read]

theorem Leads.hasToken_iff {k : Lexeme} {x r : Text} (h : Leads k x r) :
    HasToken (x ++ r) ↔ (k ≠ .blank ∧ k ≠ .semicolon) ∨ HasToken r := by
  simp only [HasToken, h.read_eq, List.mem_cons, exists_eq_or_imp, or_assoc]

/-- A comment that is not closed is no token, and every other open region is one. -/
theorem IsRegion.hasToken_iff_of_open {g : Region} (hg : IsRegion g) {body : Text}
    (hbody : g.close body = none) : HasToken (g.start ++ body) ↔ ¬g.IsComment := by
  have hread := (Opens.region hg hbody).read_eq
  simp only [HasToken, hread, List.not_mem_nil, false_and, exists_false, false_or]
  cases hg with
  | comment => simp [Region.IsComment, Region.comment]
  | line => simp [Region.IsComment, Region.line]
  | bracket => simp [Region.IsComment, Region.bracket, Region.comment, Region.line]
  | quoted h =>
    rcases h with rfl | rfl | rfl <;>
      simp [Region.IsComment, Region.quoted, Region.comment, Region.line]

theorem wordKind_ne_blank (word : Text) : wordKind word ≠ .blank := by
  rw [wordKind]
  split_ifs <;> decide

/-- A region that is read as a blank is a comment. -/
theorem IsRegion.isComment_of_kind_eq {g : Region} (hg : IsRegion g) (hkind : g.kind = .blank) :
    g.IsComment := by
  cases hg with
  | comment => exact .inl rfl
  | line => exact .inr rfl
  | bracket => exact Lexeme.noConfusion hkind
  | quoted => exact Lexeme.noConfusion hkind

/-- A blank lexeme in front of blanks and comments. -/
theorem Leads.isTrivia_append {k : Lexeme} {x r : Text} (h : Leads k x r) (hk : k = .blank)
    (hr : IsTrivia r) : IsTrivia (x ++ r) := by
  cases h with
  | semicolon => exact Lexeme.noConfusion hk
  | separator hc => exact .separator hc hr
  | region hg hu => exact .comment (hg.isComment_of_kind_eq hk) hu hr
  | word => exact absurd hk (wordKind_ne_blank _)
  | symbol => exact Lexeme.noConfusion hk

/-- A blank lexeme stays one in front of every text. -/
theorem Leads.of_blank {k : Lexeme} {x r : Text} (h : Leads k x r) (hk : k = .blank) (s : Text) :
    Leads k x s := by
  cases h with
  | semicolon => exact .semicolon
  | separator hc => exact .separator hc
  | region hg hu => exact .region hg hu
  | word => exact absurd hk (wordKind_ne_blank _)
  | symbol => exact Lexeme.noConfusion hk

theorem IsTrivia.not_hasToken {t : Text} (h : IsTrivia t) : ¬HasToken t := by
  induction h with
  | nil => exact not_hasToken_nil
  | semicolon =>
    rw [← List.append_nil [';'], (Leads.semicolon (r := [])).hasToken_iff]
    simpa using not_hasToken_nil
  | openComment hg hbody =>
    rw [hg.isRegion.hasToken_iff_of_open hbody]
    exact not_not_intro hg
  | @separator c t hc ht ih =>
    rw [← List.singleton_append, (Leads.separator hc).hasToken_iff]
    simpa using ih
  | comment hg hu ht ih =>
    rw [(Leads.region hg.isRegion hu).hasToken_iff, hg.kind_eq]
    simpa using ih

/-! ### Statements and dropped pieces -/

theorem Uncut.cutAtEnd {t : Text} (h : Uncut t) : CutAtEnd t := fun u s hus _ => h u s hus

theorem IsClosed.cutAtEnd {t : Text} (h : IsClosed t) : CutAtEnd t := by
  obtain ⟨u, rfl, huncut, -⟩ := h
  intro v s hvs hs
  obtain ⟨s, d, rfl⟩ := (List.eq_nil_or_concat s).resolve_left hs
  have hu : u ++ [';'] = (v ++ ';' :: s) ++ [d] := by simpa using hvs
  exact huncut v s (List.append_inj' hu rfl).1

/-- Behind a blank lexeme a text is cut where it is cut alone. -/
theorem CutAtEnd.of_leads {k : Lexeme} {x r : Text} (h : CutAtEnd (x ++ r)) (hleads : Leads k x r)
    (hk : k = .blank) : CutAtEnd r := by
  intro u s hus hs
  have hlonger := h (x ++ u) s (by rw [hus, List.append_assoc]) hs
  rw [List.append_assoc, isComplete_eq, completesFrom_leads (hleads.of_blank hk _), hk] at hlonger
  exact hlonger

/-- Nothing stands behind a semicolon at the front of a text that is cut at its end only. -/
theorem CutAtEnd.eq_nil {r : Text} (h : CutAtEnd ([';'] ++ r)) : r = [] := by
  by_contra hr
  have hcomplete : isComplete ([] ++ [';']) = true := isComplete_of_isBlank (by simp)
  exact nomatch hcomplete.symm.trans (h [] r rfl hr)

/-- **The statements without a token** are blanks and comments, with at most one semicolon at the
end. -/
theorem CutAtEnd.isTrivia_iff {t : Text} (h : CutAtEnd t) : IsTrivia t ↔ ¬HasToken t := by
  refine ⟨IsTrivia.not_hasToken, fun hnone => ?_⟩
  induction t using text_induction with
  | nil => exact .nil
  | opens t rem hopens =>
    cases hopens with
    | region hg hbody =>
      rw [hg.hasToken_iff_of_open hbody, not_not] at hnone
      exact .openComment hnone hbody
  | leads k x r hleads ih =>
    rw [hleads.hasToken_iff, not_or, not_and_or, not_not, not_not] at hnone
    obtain ⟨hk | hk, hrest⟩ := hnone
    · exact hleads.isTrivia_append hk (ih (h.of_leads hleads hk) hrest)
    · obtain rfl := hleads.eq_semicolon hk
      obtain rfl := h.eq_nil
      exact .semicolon

/-- Among blanks and semicolons the tokens are the blanks that do not stand between tokens. -/
theorem Leads.isToken_iff {k : Lexeme} {x r : Text} (h : Leads k x r)
    (hx : Statement.hasContent x = false) :
    (k ≠ .blank ∧ k ≠ .semicolon) ↔ ∃ c ∈ x, isBlank c = true ∧ isSeparator c = false := by
  rw [hasContent_eq_false_iff] at hx
  cases h with
  | semicolon =>
    have hsemicolon : isBlank ';' = false := by decide
    simp [hsemicolon]
  | separator hc => simp [hc]
  | @region _ u _ hg hu =>
    rw [← hasContent_eq_false_iff, hg.hasContent_start_append u] at hx
    exact nomatch hx
  | word hw hchars hr =>
    obtain ⟨c, hc⟩ := List.exists_mem_of_ne_nil x hw
    have hblank : isBlank c = true := (hx c hc).resolve_right fun hsemicolon =>
      absurd (hsemicolon ▸ hchars c hc) (by decide)
    exact iff_of_true ⟨wordKind_ne_blank x, wordKind_ne_semicolon x⟩
      ⟨c, hc, hblank, isSeparator_eq_false_of_isIdentifierChar (hchars c hc)⟩
  | @symbol c _ hc hr =>
    have hblank : isBlank c = true := (hx c List.mem_cons_self).resolve_right hc.1
    exact iff_of_true (by decide) ⟨c, List.mem_cons_self, hblank, hc.2.1⟩

/-- A text of blanks and semicolons has a token exactly if one of its blanks does not stand between
tokens. -/
theorem hasToken_iff_of_hasContent_eq_false {t : Text} (h : hasContent t = false) :
    HasToken t ↔ ∃ c ∈ t, isBlank c = true ∧ isSeparator c = false := by
  induction t using text_induction with
  | nil => simp [not_hasToken_nil]
  | opens t rem hopens =>
    rw [hopens.hasContent] at h
    exact nomatch h
  | leads k x r hleads ih =>
    rw [hasContent, List.any_append, Bool.or_eq_false_iff] at h
    rw [hleads.hasToken_iff, hleads.isToken_iff h.1, ih h.2]
    simp only [List.mem_append, or_and_right, exists_or]

/-! ### The statements of a script -/

/-- A statement of a script has a token unless it is a remark. -/
theorem hasToken_iff_of_mem_split {sql s : Text} {statements : List Text}
    (h : split sql = .ok statements) (hs : s ∈ statements) : HasToken s ↔ ¬IsRemark s := by
  obtain ⟨hown, hcut⟩ := own_of_mem_split h hs
  have hcut : Uncut s ∨ IsClosed s := hcut.imp And.left And.left
  have hcontent : hasContent s = true := by
    have hstatement := hcut.elim Uncut.statement?_eq IsClosed.statement?_eq
    rw [hown] at hstatement
    by_contra hnone
    rw [if_neg hnone] at hstatement
    exact nomatch hstatement
  have htrivia := (hcut.elim Uncut.cutAtEnd IsClosed.cutAtEnd).isTrivia_iff
  have hremark : IsRemark s ↔ IsTrivia s := ⟨IsRemark.isTrivia, fun h => ⟨h, hcontent⟩⟩
  rw [hremark, htrivia, not_not]

/-- A piece that is dropped has a token if one of its blanks does not stand between tokens. -/
theorem hasToken_iff_of_statement?_eq_none {sql p : Text} {pieces : List Text}
    (h : segments sql = .ok pieces) (hp : p ∈ pieces) (hnone : statement? p = none) :
    HasToken p ↔ ∃ c ∈ p, isBlank c = true ∧ isSeparator c = false := by
  refine hasToken_iff_of_hasContent_eq_false ?_
  rw [statement?_of_mem_segments h hp] at hnone
  simpa using hnone

/-- **Which statements have a token.** A script without null characters is split into pieces, and a
statement of it has a token unless it is a remark: comments and blanks with at most one semicolon at
the end. A piece that is dropped has no token unless one of its blanks does not stand between
tokens. So the first statement is the first one with a token exactly if it is no remark and the
blanks of the pieces in front of it all stand between tokens. -/
theorem hasToken_of_split_iff {sql : Text} (hnul : '\x00' ∉ sql) :
    ∃ pieces statements, segments sql = .ok pieces ∧ split sql = .ok statements ∧
      pieces.flatten = sql ∧ pieces.filterMap statement? = statements ∧
      (∀ s ∈ statements, HasToken s ↔ ¬IsRemark s) ∧
      (∀ p ∈ pieces, statement? p = none →
        (HasToken p ↔ ∃ c ∈ p, isBlank c = true ∧ isSeparator c = false)) ∧
      ∀ first rest, statements = first :: rest → ∃ before p after,
        pieces = before ++ p :: after ∧ statement? p = some first ∧
        (∀ q ∈ before, statement? q = none) ∧
        ((HasToken first ∧ ∀ q ∈ before, ¬HasToken q) ↔
          ¬IsRemark first ∧ ∀ q ∈ before, ∀ c ∈ q, isBlank c = true → isSeparator c = true) := by
  obtain ⟨pieces, hpieces⟩ := exists_segments_iff.2 (nullsLast_of_notMem hnul)
  have hsplit : split sql = .ok (pieces.filterMap statement?) := by
    rw [split, hpieces]
    rfl
  have hflat : pieces.flatten = sql := by
    obtain ⟨closed, last, rfl, hflat, -, -⟩ := segments_spec hpieces
    simpa using hflat
  refine ⟨pieces, _, hpieces, hsplit, hflat, rfl, fun s hs => hasToken_iff_of_mem_split hsplit hs,
    fun p hp hnone => hasToken_iff_of_statement?_eq_none hpieces hp hnone,
    fun first rest hfirst => ?_⟩
  obtain ⟨before, p, after, rfl, hbefore, hp, -⟩ := List.filterMap_eq_cons_iff.1 hfirst
  refine ⟨before, p, after, rfl, hp, hbefore, and_congr ?_ (forall₂_congr fun q hq => ?_)⟩
  · exact hasToken_iff_of_mem_split hsplit (by simp [hfirst])
  · rw [hasToken_iff_of_statement?_eq_none hpieces (List.mem_append_left _ hq) (hbefore q hq)]
    simp

/-- A comment in a statement, and one behind it that stands for a statement of its own. -/
theorem hasToken_of_split_iff_trailing :
    let sql := "SELECT /* 1 */ ';'; -- 2".toList
    '\x00' ∉ sql ∧ split sql = .ok ["SELECT /* 1 */ ';';".toList, "-- 2".toList] ∧
      ¬IsRemark "SELECT /* 1 */ ';';".toList ∧ ¬HasToken "-- 2".toList := by
  intro sql
  have hnul : '\x00' ∉ sql := by decide
  have hsplit : split sql = .ok ["SELECT /* 1 */ ';';".toList, "-- 2".toList] := by decide +kernel
  obtain ⟨pieces, statements, -, hstatements, -, -, htoken, -⟩ := hasToken_of_split_iff hnul
  obtain rfl := Except.ok.inj (hstatements.symm.trans hsplit)
  have htrivia : IsTrivia (Region.line.start ++ " 2".toList) :=
    .openComment (.inr rfl) (by decide)
  have hremark : IsRemark "-- 2".toList := ⟨htrivia, by decide⟩
  exact ⟨hnul, hsplit, (htoken _ (by simp)).1 (by decide +kernel),
    fun h => (htoken _ (by simp)).1 h hremark⟩

/-- A comment with a semicolon behind it comes in front of the first statement with a token, and a
comment at the end of a script is a statement too. A space that is no blank of SQL is a token, which
is dropped. -/
theorem split_remarks :
    split "/* 1 */; SELECT 1; -- 2".toList =
        .ok ["/* 1 */;".toList, "SELECT 1;".toList, "-- 2".toList] ∧
      ¬HasToken "/* 1 */;".toList ∧ HasToken "SELECT 1;".toList ∧ ¬HasToken "-- 2".toList ∧
      split "\u00a0; SELECT 1".toList = .ok ["SELECT 1".toList] ∧ HasToken "\u00a0;".toList := by
  refine ⟨?_, ?_, ?_, ?_, ?_, ?_⟩ <;> decide +kernel

end SqliteAccess.Statement
