import SqliteAccess.Proofs.Column.Relayout
import SqliteAccess.Proofs.Token.Parting
import SqliteAccess.Text.Octets

/-!
# Which words are keywords

A keyword is recognised by its upper-case spelling, and three characters outside ASCII have an
upper-case spelling that occurs in keywords: the dotless i, the long s, and the two ligatures of s
and t. So a word of another script can be taken for a keyword, which it is not in SQL, where only
ASCII letters have two cases. Apart from these words the keywords that are recognised are those of
SQL: no keyword is missed, and the ligatures of f and the sharp s have spellings that occur in none.

## Main definitions

* `Column.IsKeyword` : the words that are a keyword up to the case of ASCII letters.
* `Column.IsDisguised` : the words of another script that are spelled like one.

## Main results

* `Column.upper_mem_iff` : what is recognised by its upper-case spelling.
* `Column.not_isDisguised_of_isKeyword` : no keyword is a word of another script.
* `Column.recognizes_ascii_iff` : when the reading of a definition is that of SQL.
-/

namespace SqliteAccess.Column

open Token

/-- The words of a list up to the case of ASCII letters. -/
def IsKeyword (words : List Text) (t : Text) : Prop := t.map Char.toUpper ∈ words

/-- The ASCII letters for which a character stands, if it is spelled like letters of keywords. -/
def plain (c : Char) : Text :=
  match c with
  | 'ı' => ['i']
  | 'ſ' => ['s']
  | '\ufb05' => ['s', 't']
  | '\ufb06' => ['s', 't']
  | c => [c]

/-- The words that become a word of a list, up to the case of ASCII letters, when some characters
outside ASCII are replaced by the letters for which they stand. -/
def IsDisguised (words : List Text) (t : Text) : Prop :=
  IsKeyword words (t.flatMap plain) ∧ ∃ c ∈ t, plain c ≠ [c]

instance (words : List Text) (t : Text) : Decidable (IsKeyword words t) :=
  inferInstanceAs (Decidable (_ ∈ _))

instance (words : List Text) (t : Text) : Decidable (IsDisguised words t) :=
  inferInstanceAs (Decidable (_ ∧ _))

/-! ### Spellings -/

/-- The other characters outside ASCII whose upper-case spelling lies in ASCII. -/
def doubled : Text := ['ß', '\ufb00', '\ufb01', '\ufb02', '\ufb03', '\ufb04']

/-- Words in ASCII that hold the spelling of none of these characters. -/
def IsSimple (words : List Text) : Prop :=
  ∀ w ∈ words, Text.isAscii w = true ∧ ∀ c ∈ doubled, ¬Text.upperChar c <:+: w

theorem upperChar_eq {c : Char} (hc : c ∉ doubled) :
    Text.upperChar c = (plain c).map Char.toUpper := by
  unfold Text.upperChar
  split
  case h_1 | h_2 | h_9 | h_10 => rfl
  case h_3 | h_4 | h_5 | h_6 | h_7 | h_8 => exact absurd hc (by decide)
  case h_11 =>
    unfold plain
    split <;> first | contradiction | rfl

/-- The other characters are not replaced. -/
theorem mem_plain_of_mem_doubled {c : Char} (hc : c ∈ doubled) :
    c ∈ plain c ∧ 0x80 ≤ c.toNat := by
  simp only [doubled, List.mem_cons, List.not_mem_nil, or_false] at hc
  rcases hc with rfl | rfl | rfl | rfl | rfl | rfl <;> decide

/-- A character outside ASCII is its own upper case. -/
theorem toUpper_of_le {c : Char} (hc : 0x80 ≤ c.toNat) : c.toUpper = c := by
  refine dif_neg fun h => ?_
  exact absurd (h.2 : c.toNat ≤ 'z'.toNat) (Nat.not_le.2 (Nat.lt_of_lt_of_le (by decide) hc))

theorem le_of_plain_ne {c : Char} (hc : plain c ≠ [c]) : 0x80 ≤ c.toNat := by
  unfold plain at hc
  split at hc
  case h_5 => exact absurd rfl hc
  all_goals decide

section Words

variable {words : List Text} (hwords : IsSimple words) {t : Text}
include hwords

/-- A word of the list holds ASCII letters only. -/
theorem IsKeyword.lt_of_mem (h : IsKeyword words t) {c : Char} (hc : c ∈ t) : c.toNat < 0x80 := by
  by_contra hle
  have hupper := Text.isAscii_iff.1 (hwords _ h).1 _ (List.mem_map_of_mem hc)
  rw [toUpper_of_le (Nat.not_lt.1 hle)] at hupper
  exact hle hupper

/-- No word of the list is a word of another script. -/
theorem not_isDisguised_of_isKeyword (h : IsKeyword words t) : ¬IsDisguised words t := by
  rintro ⟨-, c, hc, hplain⟩
  exact Nat.not_lt.2 (le_of_plain_ne hplain) (h.lt_of_mem hwords hc)

theorem isKeyword_flatMap_plain_iff :
    IsKeyword words (t.flatMap plain) ↔ IsKeyword words t ∨ IsDisguised words t := by
  by_cases hother : ∃ c ∈ t, plain c ≠ [c]
  · have hnot : ¬IsKeyword words t := by
      obtain ⟨c, hc, hplain⟩ := hother
      exact fun h => Nat.not_lt.2 (le_of_plain_ne hplain) (h.lt_of_mem hwords hc)
    rw [or_iff_right hnot, IsDisguised, and_iff_left hother]
  · have hsame : t.flatMap plain = t := by
      simp only [not_exists, not_and, not_not] at hother
      rw [List.flatMap_congr hother, List.flatMap_singleton']
    rw [hsame, or_iff_left fun h => hother h.2]

/-- **What is recognised by its upper-case spelling**: the words of the list up to the case of ASCII
letters, and the words of another script that are spelled like one. -/
theorem upper_mem_iff : Text.upper t ∈ words ↔ IsKeyword words t ∨ IsDisguised words t := by
  have hupper (hall : ∀ c ∈ t, c ∉ doubled) :
      Text.upper t = (t.flatMap plain).map Char.toUpper := by
    rw [Text.upper, List.map_flatMap]
    exact List.flatMap_congr fun c hc => upperChar_eq (hall c hc)
  rw [← isKeyword_flatMap_plain_iff hwords, IsKeyword]
  constructor
  · intro hmem
    rw [← hupper fun c hc hdoubled => ?_]
    · exact hmem
    · exact (hwords _ hmem).2 c hdoubled (List.infix_flatMap_of_mem hc Text.upperChar)
  · intro hmem
    rw [hupper fun c hc hdoubled => ?_]
    · exact hmem
    · obtain ⟨hplain, hle⟩ := mem_plain_of_mem_doubled hdoubled
      have hlt := IsKeyword.lt_of_mem hwords hmem (List.mem_flatMap.2 ⟨c, hc, hplain⟩)
      exact Nat.not_lt.2 hle hlt

end Words

/-! ### The keywords of constraints -/

theorem isSimple_of_all {words : List Text} (h : (words.all fun w =>
    Text.isAscii w && doubled.all fun c => !decide (Text.upperChar c <:+: w)) = true) :
    IsSimple words := by
  simpa [IsSimple] using h

theorem isSimple_tableConstraintKeywords : IsSimple tableConstraintKeywords :=
  isSimple_of_all (by decide)

theorem isSimple_columnConstraintKeywords : IsSimple columnConstraintKeywords :=
  isSimple_of_all (by decide)

theorem startsTableConstraint_iff {t : Text} :
    startsTableConstraint t = true ↔
      IsKeyword tableConstraintKeywords t ∨ IsDisguised tableConstraintKeywords t := by
  rw [startsTableConstraint, List.contains_iff_mem,
    upper_mem_iff isSimple_tableConstraintKeywords]

theorem endsType_iff {t : Text} :
    endsType t = true ↔
      IsKeyword columnConstraintKeywords t ∨ IsDisguised columnConstraintKeywords t := by
  rw [endsType, List.contains_iff_mem, upper_mem_iff isSimple_columnConstraintKeywords]

/-! ### Where a type ends -/

section TakeWhile

variable {α : Type} {p q : α → Bool} (h : ∀ a, p a = true → q a = true)
include h

theorem takeWhile_takeWhile_of_imp (l : List α) : (l.takeWhile q).takeWhile p = l.takeWhile p := by
  rw [List.takeWhile_takeWhile]
  congr 1
  funext a
  cases hp : p a <;> simp [h a, hp]

theorem takeWhile_eq_takeWhile_iff (l : List α) :
    l.takeWhile p = l.takeWhile q ↔ ∀ a ∈ l.takeWhile q, p a = true := by
  rw [← takeWhile_takeWhile_of_imp h, List.takeWhile_eq_self_iff]

end TakeWhile

/-- Fewer tokens have a shorter text. -/
theorem eq_of_join_eq {s t : List Text} (hst : s <+: t) (ht : ∀ token ∈ t, token ≠ [])
    (h : join s = join t) : s = t := by
  obtain ⟨r, rfl⟩ := hst
  cases r with
  | nil => rw [List.append_nil]
  | cons token r =>
    obtain ⟨gap, -, hconcat⟩ := exists_join_concat s token
    rw [join_append_cons, hconcat, List.append_assoc, List.append_assoc,
      List.self_eq_append_right, List.append_eq_nil_iff, List.append_eq_nil_iff] at h
    exact absurd h.2.1 (ht token (by simp))

theorem tokens_ne_nil_of_mem_definitions {sql : Text} {d : Definition}
    (hd : d ∈ definitions sql) : d.tokens ≠ [] := by
  rw [definitions, entries_eq] at hd
  obtain ⟨p, hp, rfl⟩ := List.mem_map.1 hd
  exact ((isGroup_groupOf _).of_mem_pieces hp).1

theorem ne_nil_of_mem_definitions {sql : Text} {d : Definition} (hd : d ∈ definitions sql) :
    ∀ token ∈ d.tokens, token ≠ [] := by
  intro token htoken
  obtain ⟨shape, hshape⟩ :=
    (lexing_tokens _).exists_shape token (mem_tokens_of_mem_definitions hd htoken)
  exact hshape.ne_nil

/-- The tokens in front of the first keyword of a constraint. -/
def frontOf (rest : List Text) : List Text :=
  rest.takeWhile fun t => !decide (IsKeyword columnConstraintKeywords t)

theorem declaredType_eq {d : Definition} (hcolumn : d.isTableConstraint = .ok false) :
    d.declaredType = .ok (join d.typeTokens) := by
  rw [Definition.declaredType, hcolumn]
  rfl

/-- The type ends in front of the first word that is recognised. -/
theorem exists_typeTokens_append (d : Definition) :
    ∃ behind, d.tokens.tail = d.typeTokens ++ behind ∧
      (∀ t ∈ d.typeTokens, endsType t = false) ∧ ∀ t ∈ behind.head?, endsType t = true := by
  refine ⟨d.tokens.tail.dropWhile fun t => !endsType t, List.takeWhile_append_dropWhile.symm,
    fun t ht => ?_, fun t ht => ?_⟩
  · simpa using List.mem_takeWhile_imp ht
  · simpa [Option.mem_def.1 ht] using
      List.head?_dropWhile_not (fun t => !endsType t) d.tokens.tail

/-- The type ends at the first keyword exactly if no word in front of that is taken for one. -/
theorem join_typeTokens_eq_iff {d : Definition} (hd : ∀ token ∈ d.tokens, token ≠ []) :
    join d.typeTokens = join (frontOf d.tokens.tail) ↔
      ∀ t ∈ frontOf d.tokens.tail, ¬IsDisguised columnConstraintKeywords t := by
  have hfewer (t : Text) (ht : (!endsType t) = true) :
      (!decide (IsKeyword columnConstraintKeywords t)) = true := by
    rw [Bool.not_eq_true'] at ht ⊢
    exact decide_eq_false fun h => by simp [endsType_iff.2 (.inl h)] at ht
  have hshorter : d.typeTokens <+: frontOf d.tokens.tail := by
    rw [Definition.typeTokens, ← takeWhile_takeWhile_of_imp hfewer]
    exact List.takeWhile_prefix _
  have hne : ∀ token ∈ frontOf d.tokens.tail, token ≠ [] := fun token h =>
    hd token (List.mem_of_mem_tail ((List.takeWhile_prefix _).subset h))
  have hsame : join d.typeTokens = join (frontOf d.tokens.tail) ↔
      d.typeTokens = frontOf d.tokens.tail := ⟨eq_of_join_eq hshorter hne, congrArg join⟩
  rw [hsame, Definition.typeTokens, frontOf, takeWhile_eq_takeWhile_iff hfewer]
  refine forall₂_congr fun t ht => ?_
  have hkeyword : ¬IsKeyword columnConstraintKeywords t := by
    simpa using List.mem_takeWhile_imp ht
  rw [Bool.not_eq_true', ← Bool.not_eq_true, endsType_iff, or_iff_right hkeyword]

/-- **When a definition is read as SQL reads it.** The first token of a definition makes it a table
constraint if it is a keyword up to the case of ASCII letters, or a word of another script that is
spelled like one, and the type of any other definition ends in front of the first such token behind
the name. So the reading is that of SQL, in which ASCII letters only have two cases, exactly if the
first token and the tokens in front of the first keyword are no such words of another script. -/
theorem recognizes_ascii_iff {sql : Text} {d : Definition} (hd : d ∈ definitions sql) :
    ∃ token rest, d.tokens = token :: rest ∧
      (d.isTableConstraint = .ok true ↔ IsKeyword tableConstraintKeywords token ∨
        IsDisguised tableConstraintKeywords token) ∧
      ((d.isTableConstraint = .ok true ↔ IsKeyword tableConstraintKeywords token) ↔
        ¬IsDisguised tableConstraintKeywords token) ∧
      (d.isTableConstraint = .ok false →
        (∃ type behind, rest = type ++ behind ∧ d.declaredType = .ok (join type) ∧
          (∀ t ∈ type, ¬(IsKeyword columnConstraintKeywords t ∨
            IsDisguised columnConstraintKeywords t)) ∧
          ∀ t ∈ behind.head?, IsKeyword columnConstraintKeywords t ∨
            IsDisguised columnConstraintKeywords t) ∧
        (d.declaredType = .ok (join (frontOf rest)) ↔
          ∀ t ∈ frontOf rest, ¬IsDisguised columnConstraintKeywords t)) := by
  obtain ⟨token, rest, htokens⟩ :=
    List.exists_cons_of_ne_nil (tokens_ne_nil_of_mem_definitions hd)
  have hrest : d.tokens.tail = rest := by rw [htokens, List.tail_cons]
  have hconstraint : d.isTableConstraint = .ok true ↔ IsKeyword tableConstraintKeywords token ∨
      IsDisguised tableConstraintKeywords token := by
    rw [← startsTableConstraint_iff, Definition.isTableConstraint, htokens, Except.ok.injEq]
  refine ⟨token, rest, htokens, hconstraint, ?_, fun hcolumn => ⟨?_, ?_⟩⟩
  · rw [hconstraint]
    refine ⟨fun hsame hother => ?_, fun hother => or_iff_left hother⟩
    exact not_isDisguised_of_isKeyword isSimple_tableConstraintKeywords
      (hsame.1 (.inr hother)) hother
  · obtain ⟨behind, htail, htype, hbehind⟩ := exists_typeTokens_append d
    refine ⟨d.typeTokens, behind, hrest ▸ htail, declaredType_eq hcolumn, fun t ht => ?_,
      fun t ht => endsType_iff.1 (hbehind t ht)⟩
    rw [← endsType_iff, htype t ht]
    exact Bool.false_ne_true
  · rw [declaredType_eq hcolumn, Except.ok.injEq, ← hrest]
    exact join_typeTokens_eq_iff (ne_nil_of_mem_definitions hd)

/-- A keyword in mixed case behind a type in another script, and a name with a sharp s. -/
theorem recognizes_ascii_iff_mixed :
    let sql := "CREATE TABLE t (straße целое nOt NULL)".toList
    let d : Definition := ⟨["straße".toList, "целое".toList, "nOt".toList, "NULL".toList]⟩
    d ∈ definitions sql ∧ d.isTableConstraint ≠ .ok true ∧
      d.declaredType = .ok "целое".toList := by
  intro sql d
  have hd : d ∈ definitions sql := by decide +kernel
  obtain ⟨token, rest, htokens, -, hfirst, htype⟩ := recognizes_ascii_iff hd
  obtain ⟨rfl, rfl⟩ := List.cons.inj htokens
  have hcolumn : d.isTableConstraint = .ok false := by decide
  have hword : ¬IsKeyword tableConstraintKeywords "straße".toList := by decide
  refine ⟨hd, fun h => hword ((hfirst.2 (by decide)).1 h), ?_⟩
  exact ((htype hcolumn).2.2 (by decide)).trans (by decide)

/-- A column with a dotless i in its name is taken for a table constraint, and a long s ends a
type. -/
theorem recognizes_disguised :
    let sql := "CREATE TABLE t (unıque INTEGER, v REAL aſ)".toList
    let d : Definition := ⟨["unıque".toList, "INTEGER".toList]⟩
    let e : Definition := ⟨["v".toList, "REAL".toList, "aſ".toList]⟩
    definitions sql = [d, e] ∧
      d.isTableConstraint = .ok true ∧ d.declaredType = .ok [] ∧
      ¬IsKeyword tableConstraintKeywords "unıque".toList ∧
      e.isTableConstraint = .ok false ∧ e.declaredType = .ok "REAL".toList ∧
      ¬IsKeyword columnConstraintKeywords "aſ".toList := by
  intro sql d e
  exact ⟨by decide +kernel, by decide, by decide, by decide, by decide, by decide, by decide⟩

end SqliteAccess.Column
