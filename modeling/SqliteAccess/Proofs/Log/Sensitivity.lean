import Mathlib.Data.List.TakeWhile
import SqliteAccess.Proofs.Log.Redaction
import SqliteAccess.Text.Octets

/-!
# Which keys are sensitive

A key is sensitive if a sensitive word occurs in it, wherever it stands and however its letters are
cased, but only if no line ends in front of the word. A word that occurs behind the end of a line
does not count, and the values under such a key are shown.

## Main definitions

* `Log.HasWord` : the keys in which a sensitive word occurs.
* `Log.HasLeadingWord` : the keys in which a sensitive word occurs in the first line.
* `Log.Withholds`, `Log.Shows` : keys under which all values are withheld, or shown.

## Main results

* `Log.isSensitive_iff` : the sensitive keys, by what occurs in them.
* `Log.withholds_iff_of_hasWord` : of the keys with a sensitive word, those under which all values
  are withheld.
-/

namespace SqliteAccess.Log

/-- A key in which a sensitive word occurs, in any mixture of ASCII cases. -/
def HasWord (key : Text) : Prop :=
  ∃ before word after, key = before ++ word ++ after ∧ word.map Char.toLower ∈ sensitiveWords

/-- A key in which a sensitive word occurs with no end of a line in front of it. Letters that stand
for an ASCII letter count as this letter. -/
def HasLeadingWord (key : Text) : Prop :=
  ∃ before word after, key = before ++ word ++ after ∧ word.map foldLetter ∈ sensitiveWords ∧
    '\n' ∉ before

/-- A key under which every value is withheld, on every level that redaction walks. -/
def Withholds (key : Text) : Prop :=
  ∀ (fields : Fields) (path : List Nat) (level : Fields) (position : Nat) (value : Json),
    walked? fields path = some level → level[position]? = some (key, value) →
      ∃ shown, walked? (redact fields) path = some shown ∧ shown[position]? = some (key, withheld)

/-- A key under which every value is shown, on every level that redaction walks: as it is, or with
its own secrets withheld if it is an object. -/
def Shows (key : Text) : Prop :=
  ∀ (fields : Fields) (path : List Nat) (level : Fields) (position : Nat) (value : Json),
    walked? fields path = some level → level[position]? = some (key, value) →
      ∃ shown, walked? (redact fields) path = some shown ∧
        shown[position]? = some (key, redactValue value)

/-! ### Letters -/

/-- A letter that stands for another one is outside ASCII, and so is its lower case. -/
theorem foldLetter_of_toLower_lt {c : Char} (h : c.toLower.toNat < 0x80) :
    foldLetter c = c.toLower := by
  have hlt : c.toNat < 0x80 := by
    refine Nat.lt_of_not_le fun hle => ?_
    rw [Text.toLower_of_le hle] at h
    exact Nat.not_lt.2 hle h
  unfold foldLetter
  split
  all_goals first | rfl | exact absurd hlt (by decide)

theorem toLower_eq_newline_iff {c : Char} : c.toLower = '\n' ↔ c = '\n' := by
  refine ⟨fun h => ?_, fun h => by rw [h]; rfl⟩
  unfold Char.toLower at h
  split at h
  · rename_i hupper
    have hlow : 'A'.val.toNat ≤ c.val.toNat := hupper.1
    have hhigh : c.val.toNat ≤ 'Z'.val.toNat := hupper.2
    have hvalue := congrArg (fun d : Char => d.val.toNat) h
    simp at hlow hhigh hvalue
    omega
  · exact h

theorem foldLetter_eq_newline_iff {c : Char} : foldLetter c = '\n' ↔ c = '\n' := by
  refine ⟨fun h => ?_, fun h => by rw [h]; rfl⟩
  unfold foldLetter at h
  split at h
  case h_5 => exact toLower_eq_newline_iff.1 h
  all_goals exact absurd h (by decide)

/-- A sensitive word in any ASCII case is one letter by letter. -/
theorem map_foldLetter_of_map_toLower {word : Text}
    (h : word.map Char.toLower ∈ sensitiveWords) :
    word.map foldLetter = word.map Char.toLower := by
  have hascii : ∀ known ∈ sensitiveWords, Text.isAscii known = true := by decide
  refine List.map_congr_left fun c hc => foldLetter_of_toLower_lt ?_
  exact Text.isAscii_iff.1 (hascii _ h) _ (List.mem_map_of_mem hc)

theorem newline_notMem_of_mem_sensitiveWords {word : Text}
    (h : word.map foldLetter ∈ sensitiveWords) : '\n' ∉ word := by
  have hplain : ∀ known ∈ sensitiveWords, '\n' ∉ known := by decide
  intro hmem
  exact hplain _ h (List.mem_map.2 ⟨'\n', hmem, rfl⟩)

/-! ### Words in the first line -/

/-- The first line of a folded key is the folded first line. -/
theorem takeWhile_map_foldLetter (key : Text) :
    (key.map foldLetter).takeWhile (· ≠ '\n') =
      (key.takeWhile (· ≠ '\n')).map foldLetter := by
  rw [List.takeWhile_map]
  congr 2
  funext c
  simp [foldLetter_eq_newline_iff]

/-- What occurs in the first line occurs with no end of a line in front of it. -/
theorem infix_firstLine_iff {key word : Text} (hword : '\n' ∉ word) :
    word <:+: key.takeWhile (· ≠ '\n') ↔
      ∃ before after, key = before ++ word ++ after ∧ '\n' ∉ before := by
  have hline : '\n' ∉ key.takeWhile (· ≠ '\n') := fun hmem => by
    simpa using List.mem_takeWhile_imp hmem
  constructor
  · rintro ⟨before, after, hfirst⟩
    refine ⟨before, after ++ key.dropWhile (· ≠ '\n'), ?_, fun hmem => ?_⟩
    · rw [← List.append_assoc, hfirst, List.takeWhile_append_dropWhile]
    · refine hline ?_
      rw [← hfirst]
      exact List.mem_append_left _ (List.mem_append_left _ hmem)
  · rintro ⟨before, after, rfl, hbefore⟩
    have hfront : ∀ c ∈ before ++ word, decide (c ≠ '\n') = true := by
      intro c hc
      refine decide_eq_true fun hnewline => ?_
      rcases List.mem_append.1 (hnewline ▸ hc) with hc | hc
      · exact hbefore hc
      · exact hword hc
    rw [List.takeWhile_append_of_pos hfront]
    exact ⟨before, _, rfl⟩

/-- A sensitive word occurs in the folded first line of a key if letters that stand for it occur in
the key with no end of a line in front of them. -/
theorem occursIn_firstLine_iff {key known : Text} (hknown : known ∈ sensitiveWords) :
    Text.occursIn known ((key.map foldLetter).takeWhile (· ≠ '\n')) = true ↔
      ∃ before word after, key = before ++ word ++ after ∧ word.map foldLetter = known ∧
        '\n' ∉ before := by
  rw [Text.occursIn_iff, takeWhile_map_foldLetter, List.infix_map_iff]
  constructor
  · rintro ⟨word, hinfix, rfl⟩
    obtain ⟨before, after, hkey, hbefore⟩ :=
      (infix_firstLine_iff (newline_notMem_of_mem_sensitiveWords hknown)).1 hinfix
    exact ⟨before, word, after, hkey, rfl, hbefore⟩
  · rintro ⟨before, word, after, hkey, rfl, hbefore⟩
    exact ⟨word, (infix_firstLine_iff (newline_notMem_of_mem_sensitiveWords hknown)).2
      ⟨before, after, hkey, hbefore⟩, rfl⟩

/-- **The sensitive keys**: those with a sensitive word in the first line, and the one of the
database URL, which an end of a line may follow. -/
theorem isSensitive_iff {key : Text} :
    isSensitive key = true ↔ HasLeadingWord key ∨ key.map foldLetter = urlKey ∨
      key.map foldLetter = urlKey ++ ['\n'] := by
  have hwords : (sensitiveWords.any fun known =>
      Text.occursIn known ((key.map foldLetter).takeWhile (· ≠ '\n'))) = true ↔
        HasLeadingWord key := by
    rw [List.any_eq_true]
    constructor
    · rintro ⟨known, hknown, hoccurs⟩
      obtain ⟨before, word, after, hkey, rfl, hbefore⟩ := (occursIn_firstLine_iff hknown).1 hoccurs
      exact ⟨before, word, after, hkey, hknown, hbefore⟩
    · rintro ⟨before, word, after, hkey, hknown, hbefore⟩
      exact ⟨_, hknown, (occursIn_firstLine_iff hknown).2
        ⟨before, word, after, hkey, rfl, hbefore⟩⟩
  simp only [isSensitive, Bool.or_eq_true, decide_eq_true_eq, hwords, or_assoc]

/-! ### Keys with a sensitive word -/

/-- The key of the database URL has no sensitive word. -/
theorem HasWord.map_foldLetter_ne {key : Text} (h : HasWord key) :
    key.map foldLetter ≠ urlKey ∧ key.map foldLetter ≠ urlKey ++ ['\n'] := by
  obtain ⟨before, word, after, rfl, hword⟩ := h
  have hinfix : word.map Char.toLower <:+: (before ++ word ++ after).map foldLetter := by
    rw [← map_foldLetter_of_map_toLower hword]
    exact (List.infix_append before word after).map foldLetter
  have hnone : ∀ known ∈ sensitiveWords, Text.occursIn known urlKey = false ∧
      Text.occursIn known (urlKey ++ ['\n']) = false := by decide
  obtain ⟨hurl, hline⟩ := hnone _ hword
  refine ⟨fun heq => ?_, fun heq => ?_⟩
  · exact Bool.eq_false_iff.1 hurl (Text.occursIn_iff.2 (heq ▸ hinfix))
  · exact Bool.eq_false_iff.1 hline (Text.occursIn_iff.2 (heq ▸ hinfix))

theorem HasWord.isSensitive_iff {key : Text} (h : HasWord key) :
    isSensitive key = true ↔ HasLeadingWord key := by
  obtain ⟨hurl, hline⟩ := h.map_foldLetter_ne
  rw [Log.isSensitive_iff, or_iff_left (not_or.2 ⟨hurl, hline⟩)]

theorem withholds_of_isSensitive {key : Text} (h : isSensitive key = true) : Withholds key := by
  intro fields path level position value hlevel hfield
  refine ⟨redact level, ?_, (redacted_redact level).withheld position key value hfield h⟩
  rw [walked?_redact, hlevel, Option.map_some]

theorem shows_of_not_isSensitive {key : Text} (h : isSensitive key = false) : Shows key := by
  intro fields path level position value hlevel hfield
  refine ⟨redact level, ?_, ?_⟩
  · rw [walked?_redact, hlevel, Option.map_some]
  · rw [redact_eq_map, List.getElem?_map, hfield, Option.map_some, shown_of_not_sensitive h]

theorem not_withholds_of_shows {key : Text} (h : Shows key) : ¬Withholds key := by
  intro hwithholds
  obtain ⟨level, hlevel, hshown⟩ := h [(key, .null)] [] [(key, .null)] 0 .null rfl rfl
  obtain ⟨level', hlevel', hwithheld⟩ :=
    hwithholds [(key, .null)] [] [(key, .null)] 0 .null rfl rfl
  obtain rfl := Option.some.inj (hlevel.symm.trans hlevel')
  exact nomatch (Prod.mk.inj (Option.some.inj (hshown.symm.trans hwithheld))).2

/-- **Keys with a sensitive word.** All values under such a key are withheld if a sensitive word
occurs in its first line, and otherwise all of them are shown. -/
theorem withholds_iff_of_hasWord {key : Text} (h : HasWord key) :
    (Withholds key ↔ HasLeadingWord key) ∧ (¬HasLeadingWord key → Shows key) := by
  have hshows (hnot : ¬HasLeadingWord key) : Shows key :=
    shows_of_not_isSensitive (Bool.eq_false_iff.2 (mt h.isSensitive_iff.1 hnot))
  refine ⟨⟨fun hwithholds => ?_, fun hleading => ?_⟩, hshows⟩
  · by_contra hnot
    exact not_withholds_of_shows (hshows hnot) hwithholds
  · exact withholds_of_isSensitive (h.isSensitive_iff.2 hleading)

/-- A word in mixed case in the first line, with another one behind it. -/
theorem withholds_iff_of_hasWord_mixed :
    let key : Text := "x.ACCESS_tOkEn[0]\nsecret".toList
    HasWord key ∧ HasLeadingWord key ∧ Withholds key := by
  intro key
  have hword : HasWord key :=
    ⟨"x.ACCESS_tOkEn[0]\n".toList, "secret".toList, [], rfl, by decide⟩
  have hleading : HasLeadingWord key :=
    ⟨"x.ACCESS_".toList, "tOkEn".toList, "[0]\nsecret".toList, rfl, by decide, by decide⟩
  exact ⟨hword, hleading, (withholds_iff_of_hasWord hword).1.2 hleading⟩

/-- A word in the second line does not count. -/
theorem not_withholds_second_line :
    let key : Text := "a\npassword".toList
    HasWord key ∧ ¬Withholds key ∧
      redact [(key, .text "x".toList)] = [(key, .text "x".toList)] := by
  intro key
  have hplain : isSensitive key = false := by decide
  refine ⟨⟨"a\n".toList, "password".toList, [], rfl, by decide⟩,
    not_withholds_of_shows (shows_of_not_isSensitive hplain), ?_⟩
  rw [redact_cons, shown_of_not_sensitive hplain]
  rfl

end SqliteAccess.Log
