import SqliteAccess.Proofs.Column.Sources
import SqliteAccess.Proofs.Token.Parting

/-!
# Blob literals in definitions

A blob literal is the letter x with a region of hexadecimal digits right behind it, and a space
between the two makes it something else. The lexer reads the letter and the region as two tokens,
and the text of a definition has a space between a word and a region. So no blob literal of a
definition list reaches the text of its definition: the text has both parts of it at their place
among the tokens, and the space between them.

## Main definitions

* `Column.BlobIn` : a blob literal that stands alone in a text.

## Main results

* `Column.tokens_blankLayout_append_of_getLast?` : a text is cut behind blanks and punctuation.
* `Column.BlobIn.tokens_eq` : a blob literal is read as two tokens.
* `Column.text_parts_blobs` : what becomes of the blob literals of a definition list.
-/

namespace SqliteAccess.Column

open Token

/-- The digits of blob literals. -/
def isHexDigit (c : Char) : Bool :=
  c.isDigit || ('a' ≤ c && c ≤ 'f') || ('A' ≤ c && c ≤ 'F')

/-- A blob literal in a text, between `front` and `back`: it starts outside the quoted regions, at
the start of the text or behind a blank or punctuation, and its region ends at its second quote. -/
structure BlobIn (text front : Text) (letter : Char) (digits back : Text) : Prop where
  eq : text = front ++ letter :: (literal digits ++ back)
  letter : letter = 'x' ∨ letter = 'X'
  digits : ∀ c ∈ digits, isHexDigit c = true
  quote : quoteAfter none front = none
  alone : ∀ c ∈ front.getLast?, Text.isNumberBlank c = true ∨ isPunctuation c = true
  whole : back.head? ≠ some '\''

/-! ### Reading a blob literal -/

/-- A text is cut behind every blank and behind all punctuation outside the regions. -/
theorem tokens_blankLayout_append_of_getLast? {a : Text} (ha : quoteAfter none a = none)
    (hlast : ∀ c ∈ a.getLast?, Text.isNumberBlank c = true ∨ isPunctuation c = true) (t : Text) :
    tokens (blankLayout (a ++ t)) = tokens (blankLayout a) ++ tokens (blankLayout t) := by
  rcases List.eq_nil_or_concat' a with rfl | ⟨a, c, rfl⟩
  · rfl
  rw [List.getLast?_concat] at hlast
  rcases hlast c rfl with hc | hc
  · have hrun : IsBlankRun [c] := ⟨by simp, List.forall_mem_singleton.2 hc⟩
    rw [quoteAfter_append_singleton (isQuote_of_isNumberBlank hc)] at ha
    have hfront := tokens_blankLayout_append ha hrun []
    rw [List.append_nil] at hfront
    rw [tokens_blankLayout_append ha hrun, hfront]
    exact congrArg (· ++ _) (List.append_nil _).symm
  · rw [quoteAfter_append_singleton (isQuote_eq_false_of_isPunctuation hc)] at ha
    rw [List.append_assoc, List.singleton_append, tokens_blankLayout_punctuation ha hc,
      tokens_blankLayout_punctuation ha hc, List.append_assoc]
    rfl

/-- Reading layout characters as spaces makes no quote. -/
theorem head?_blankLayout {t : Text} {quote : Char} (hquote : isQuote quote = true)
    (ht : t.head? ≠ some quote) : (blankLayout t).head? ≠ some quote := by
  cases t with
  | nil => exact ht
  | cons c t =>
    intro h
    rw [blankLayout, blankFrom_cons, List.head?_cons, Option.some_inj] at h
    by_cases hc : isQuote c = true
    · obtain rfl : c = quote := by simpa [quoteStep, hc, blankOutside] using h
      exact ht rfl
    · rw [Bool.not_eq_true] at hc
      have hblank : blankChar c = quote := by simpa [quoteStep, hc, blankOutside] using h
      exact absurd hquote (by simp [← hblank, isQuote_blankChar hc])

/-- A word and a region right behind it are two tokens. -/
theorem tokens_blankLayout_word_region {word : Text} (hword : IsToken word) (hw : IsWord word)
    {quote : Char} (hquote : isQuote quote = true) (v : Text) {back : Text}
    (hback : back.head? ≠ some quote) :
    tokens (blankLayout (word ++ (Text.enclose quote v ++ back))) =
      word :: Text.enclose quote v :: tokens (blankLayout back) := by
  have hregion : IsQuotedBy quote (Text.enclose quote v) := ⟨hquote, v, rfl⟩
  have hbehind : Detached (Text.enclose quote v) (blankLayout back) := by
    refine ⟨fun h => absurd h (not_isWord_of_isQuotedBy hregion), fun q hq => ?_⟩
    obtain rfl : quote = q := by
      obtain ⟨-, u, hu⟩ := hq
      exact (List.cons.inj hu).1
    exact head?_blankLayout hquote hback
  have hfront : Detached word (Text.enclose quote v ++ blankLayout back) := by
    refine ⟨fun _ c hc h => ?_, fun q hq => absurd hw (not_isWord_of_isQuotedBy hq)⟩
    obtain rfl : quote = c := by simpa [Text.enclose] using hc
    exact absurd hquote (by simp [h.2.2])
  rw [hword.blankLayout_append, blankLayout_enclose_append hquote, tokens,
    Lexer.run_token hword.isComplete hfront, Lexer.run_token (.quoted hregion) hbehind]
  rfl

namespace BlobIn

variable {text front : Text} {letter : Char} {digits back : Text}
  (h : BlobIn text front letter digits back)
include h

theorem isWord_letter : IsWord [letter] := by
  rcases h.letter with rfl | rfl
  · simp [IsWord, isPunctuation, isQuote]
  · simp [IsWord, isPunctuation, isQuote]

theorem isToken_letter : IsToken [letter] := by
  refine .word h.isWord_letter (List.forall_mem_singleton.2 ?_)
  rcases h.letter with rfl | rfl
  · decide
  · decide

/-- **A blob literal is read as two tokens**, with the tokens of both sides around them. -/
theorem tokens_eq : tokens (blankLayout text) =
    tokens (blankLayout front) ++ [letter] :: literal digits :: tokens (blankLayout back) := by
  rw [h.eq, tokens_blankLayout_append_of_getLast? h.quote h.alone]
  exact congrArg _ (tokens_blankLayout_word_region h.isToken_letter h.isWord_letter (by decide)
    digits h.whole)

/-- The joined tokens have a space between the letter and the region. -/
theorem exists_join_eq : ∃ front' back',
    join (tokens (blankLayout text)) = front' ++ letter :: ' ' :: (literal digits ++ back') ∧
      tokens front' = tokens (blankLayout front) ∧ tokens back' = tokens (blankLayout back) := by
  have hletter : [letter] ≠ opening := by
    rintro heq
    exact not_isWord_of_isPunctuation (by decide) (heq ▸ h.isWord_letter)
  have hcomplete : ∀ t ∈ tokens (blankLayout front), IsComplete t := by
    have hlexing : Lexing none (blankLayout text) (tokens (blankLayout front) ++
        [letter] :: literal digits :: tokens (blankLayout back)) := h.tokens_eq ▸ lexing_tokens _
    exact hlexing.isComplete_of_append
  have hquote : isQuote '\'' = true := by decide
  obtain ⟨front', back', hjoin, hfront, hback⟩ :=
    exists_join_region hcomplete (isTokenList_tokens (blankLayout back)) hletter hquote
      (Text.double '\'' digits ++ ['\''])
  refine ⟨front', back', ?_, hfront, hback⟩
  rw [h.tokens_eq]
  refine Eq.trans hjoin ?_
  simp [literal, Text.enclose]

/-- No blob literal stands in joined tokens. -/
theorem ne_join {ts : List Text} (hts : IsTokenList ts) : text ≠ join ts := by
  rintro rfl
  have htext : join ts = (front ++ [letter]) ++
      '\'' :: (Text.double '\'' digits ++ ['\''] ++ back) := by
    simp [h.eq, literal, Text.enclose]
  have hword : IsWordChar letter := h.isWord_letter.2 letter (by simp)
  have hquote : letter ≠ '\'' := by
    rintro rfl
    exact absurd hword.2.2 (by decide)
  have houtside : quoteAfter none (front ++ [letter]) = none := by
    rw [quoteAfter_append_singleton hword.2.2, h.quote]
  rcases hts.parted htext houtside (by decide) hquote with rfl | rfl
  · exact hword.1 rfl
  · exact absurd hword.2.1 (by decide)

end BlobIn

/-- **No blob literal of a definition list is kept.** Whatever source texts the list is divided
into, the definition of a source text with a blob literal has the letter and the region of it at
their place among its tokens, and its text has a space between the two. So the text of no definition
has a blob literal anywhere. -/
theorem text_parts_blobs {sql : Text} (h : HasGroup sql) :
    (∃ before sources behind, Divides sql before sources behind) ∧
      (∀ before sources behind, Divides sql before sources behind →
        definitions sql = ((sources.map fun source => tokens (blankLayout source)).filter
          fun ts => !ts.isEmpty).map Definition.mk ∧
        ∀ source ∈ sources, ∀ front letter digits back, BlobIn source front letter digits back →
          ∃ d ∈ definitions sql, d.tokens = tokens (blankLayout source) ∧
            ∃ front' back', d.text = front' ++ letter :: ' ' :: (literal digits ++ back') ∧
              tokens front' = tokens (blankLayout front) ∧
              tokens back' = tokens (blankLayout back)) ∧
      ∀ d ∈ definitions sql, ∀ front letter digits back,
        ¬BlobIn d.text front letter digits back := by
  refine ⟨h.exists_divides, fun before sources behind hdivides => ?_, ?_⟩
  · have hdefinitions := hdivides.definitions_eq
    refine ⟨hdefinitions, fun source hsource front letter digits back hblob => ?_⟩
    refine ⟨⟨tokens (blankLayout source)⟩, ?_, rfl, hblob.exists_join_eq⟩
    rw [hdefinitions]
    refine List.mem_map_of_mem (List.mem_filter.2 ⟨List.mem_map_of_mem hsource, ?_⟩)
    simp [hblob.tokens_eq]
  · intro d hd front letter digits back hblob
    have hcomplete := isComplete_of_isToken (h.isEntry d hd).isToken
    exact hblob.ne_join (isTokenList_of_forall hcomplete) rfl

/-- A literal behind a parenthesis in the second definition, and a name that looks like one. -/
theorem text_parts_blobs_second :
    let first := "\"x'00'\" INT".toList
    let front := " b BLOB\nDEFAULT(".toList
    let second := front ++ 'X' :: (literal "0aF".toList ++ ")".toList)
    let sql := "CREATE TABLE t (".toList ++ first ++ ",".toList ++ second ++ ") STRICT".toList
    HasGroup sql ∧ Divides sql "CREATE TABLE t ".toList [first, second] " STRICT".toList ∧
      BlobIn second front 'X' "0aF".toList ")".toList ∧
      (∃ d ∈ definitions sql, d.tokens = tokens (blankLayout second) ∧ ∃ front' back',
        d.text = front' ++ 'X' :: ' ' :: (literal "0aF".toList ++ back') ∧
          tokens front' = tokens (blankLayout front) ∧ tokens back' = [")".toList]) ∧
      (definitions sql).map Definition.text =
        ["\"x'00'\" INT".toList, "b BLOB DEFAULT(X '0aF')".toList] ∧
      ∀ d ∈ definitions sql,
        ¬BlobIn d.text "b BLOB DEFAULT(".toList 'X' "0aF".toList ")".toList := by
  intro first front second sql
  have hsql : HasGroup sql :=
    .of_inits "CREATE TABLE t ".toList " INT, b BLOB\nDEFAULT(X)".toList " STRICT".toList
      (by decide) (by decide) (by decide) (by decide)
  have hdivides : Divides sql "CREATE TABLE t ".toList [first, second] " STRICT".toList :=
    ⟨by decide, by decide, by decide, by decide, by decide⟩
  have hblob : BlobIn second front 'X' "0aF".toList ")".toList := by
    refine ⟨rfl, .inr rfl, List.all_eq_true.1 rfl, by decide, fun c hc => ?_, by decide⟩
    obtain rfl := Option.some.inj hc
    decide
  obtain ⟨-, hdefinitions, hnone⟩ := text_parts_blobs hsql
  obtain ⟨-, hparts⟩ := hdefinitions _ _ _ hdivides
  exact ⟨hsql, hdivides, hblob, hparts second (by simp) front 'X' _ _ hblob, by decide +kernel,
    fun d hd => hnone d hd _ _ _ _⟩

/-- The literal of a default value is not in the text of its definition. -/
theorem default_blob_notInfix_text :
    let source := "a BLOB DEFAULT x'00'".toList
    let sql := "CREATE TABLE t (".toList ++ source ++ ")".toList
    Divides sql "CREATE TABLE t ".toList [source] [] ∧
      BlobIn source "a BLOB DEFAULT ".toList 'x' "00".toList [] ∧
      definitions sql = [⟨tokens (blankLayout source)⟩] ∧
      ¬∀ d ∈ definitions sql, 'x' :: literal "00".toList <:+: d.text := by
  intro source sql
  have hdefinitions : definitions sql = [⟨tokens (blankLayout source)⟩] := by decide +kernel
  have hblob : BlobIn source "a BLOB DEFAULT ".toList 'x' "00".toList [] := by
    refine ⟨rfl, .inl rfl, List.all_eq_true.1 rfl, by decide, fun c hc => ?_, by decide⟩
    obtain rfl := Option.some.inj hc
    decide
  refine ⟨⟨by decide, by decide, by decide, by decide, by decide⟩, hblob, hdefinitions, ?_⟩
  rw [hdefinitions]
  decide +kernel

end SqliteAccess.Column
