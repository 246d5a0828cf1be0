import SqliteAccess.Json.Reader
import SqliteAccess.Json.Writer

/-!
# Escaped texts

A text is written between quotes, with escapes for quotes, backslashes and everything outside the
printable ASCII characters. Reading takes each escape to the UTF-16 code units that it stands for,
and the code units of a text to the text, so that a written text is read back, whatever its
characters are and whatever stands behind it.

## Main definitions

* `Json.IsPlain` : texts of printable ASCII characters.

## Main results

* `Text.hex_succ` : the last hexadecimal digit of a filled spelling.
* `Json.ofUnits_unitsOf_append` : the code units of a character spell the character.
* `Json.readUnits_writeChar_append` : a written character is read as its code units.
* `Json.readText_writeText` : a written text is read back.
* `Json.isPlain_writeText` : a written text is plain.
-/

namespace SqliteAccess

namespace Text

/-- The last of two or more hexadecimal digits. -/
theorem hex_succ {width : Nat} (hwidth : 0 < width) (n : Nat) :
    hex (width + 1) n = hex width (n / 16) ++ [(n % 16).digitChar] := by
  simp only [hex]
  rcases Nat.lt_or_ge n 16 with hn | hn
  · obtain ⟨width, rfl⟩ := Nat.exists_eq_succ_of_ne_zero (Nat.ne_of_gt hwidth)
    rw [Nat.toDigits_of_lt_base hn, Nat.div_eq_of_lt hn, Nat.mod_eq_of_lt hn]
    simp [Nat.toDigits_of_lt_base, List.replicate_succ']
  · rw [Nat.toDigits_of_base_le (by decide) hn, ← List.append_assoc]
    congr 3
    rw [List.length_append, List.length_singleton]
    omega

theorem hex_one {n : Nat} (hn : n < 16) : hex 1 n = [n.digitChar] := by
  simp [hex, Nat.toDigits_of_lt_base hn]

/-- The four hexadecimal digits of a code unit. -/
theorem hex_four {n : Nat} (hn : n < 0x10000) :
    hex 4 n = [(n / 4096).digitChar, (n / 256 % 16).digitChar, (n / 16 % 16).digitChar,
      (n % 16).digitChar] := by
  have h256 : n / 16 / 16 = n / 256 := by omega
  have h4096 : n / 256 / 16 = n / 4096 := by omega
  rw [hex_succ (by decide), hex_succ (by decide), hex_succ (by decide), h256, h4096,
    hex_one (by omega)]
  rfl

end Text

namespace Json

/-! ### Code units -/

theorem hexDigit?_digitChar : ∀ d < 16, hexDigit? d.digitChar = some d := by decide

/-- A code unit is read from its digits. -/
theorem unit?_digits {n : Nat} (hn : n < 0x10000) :
    unit? (n / 4096).digitChar (n / 256 % 16).digitChar (n / 16 % 16).digitChar
      (n % 16).digitChar = some n := by
  have hvalue : ((n / 4096 * 16 + n / 256 % 16) * 16 + n / 16 % 16) * 16 + n % 16 = n := by omega
  simp [unit?, hexDigit?_digitChar (n / 4096) (by omega),
    hexDigit?_digitChar _ (Nat.mod_lt _ (by decide : 16 > 0)), hvalue]

theorem toNat_valid (c : Char) : c.toNat < 0xd800 ∨ 0xdfff < c.toNat ∧ c.toNat < 0x110000 := c.valid

/-- A code unit that is no surrogate spells a character of its own. -/
theorem ofUnits_cons {n : Nat} (hn : n < 0xd800 ∨ 0xdfff < n) (units : List Nat) :
    ofUnits (n :: units) = (ofUnits units).map (Char.ofNat n :: ·) := by
  have hlow : ¬(0xd800 ≤ n ∧ n < 0xe000) := by omega
  cases units with
  | nil => simp only [ofUnits, if_neg hlow, Option.map_some]
  | cons m rest =>
    rw [ofUnits, if_neg (by omega), if_neg (by omega)]

/-- Two surrogates spell one character. -/
theorem ofUnits_surrogates {high low : Nat} (hhigh : high < 0x400) (hlow : low < 0x400)
    (units : List Nat) :
    ofUnits ((0xd800 + high) :: (0xdc00 + low) :: units) =
      (ofUnits units).map (Char.ofNat (0x10000 + high * 0x400 + low) :: ·) := by
  rw [ofUnits, if_pos (by omega), if_pos (by omega), Nat.add_sub_cancel_left,
    Nat.add_sub_cancel_left]

/-- The code units of a character spell the character, whatever stands behind them. -/
theorem ofUnits_unitsOf_append (c : Char) (units : List Nat) :
    ofUnits (unitsOf c ++ units) = (ofUnits units).map (c :: ·) := by
  have hvalid := toNat_valid c
  simp only [unitsOf]
  split
  · rw [List.singleton_append, ofUnits_cons (by omega), Char.ofNat_toNat]
  · have hvalue : 0x10000 + (c.toNat - 0x10000) / 0x400 * 0x400 + (c.toNat - 0x10000) % 0x400 =
        c.toNat := by omega
    rw [List.cons_append, List.singleton_append, ofUnits_surrogates (by omega) (by omega), hvalue,
      Char.ofNat_toNat]

theorem ofUnits_flatMap_unitsOf (text : Text) : ofUnits (text.flatMap unitsOf) = some text := by
  induction text with
  | nil => rfl
  | cons c rest ih => rw [List.flatMap_cons, ofUnits_unitsOf_append, ih, Option.map_some]

/-! ### Written characters -/

/-- What is read behind some code units. -/
def readBehind (units : List Nat) (text : Text) : Option (List Nat × Text) :=
  (readUnits text).map fun (more, rest) => (units ++ more, rest)

theorem readUnits_writeUnit_append {n : Nat} (hn : n < 0x10000) (text : Text) :
    readUnits (writeUnit n ++ text) = readBehind [n] text := by
  rw [writeUnit, Text.hex_four hn]
  simp [readUnits, unit?_digits hn, readBehind]

/-- An escape by code units is read as these units. -/
theorem readUnits_writeUnits_append (c : Char) (text : Text) :
    readUnits (writeUnits c.toNat ++ text) = readBehind (unitsOf c) text := by
  have hvalid := toNat_valid c
  simp only [writeUnits, unitsOf]
  split
  · exact readUnits_writeUnit_append (by omega) text
  · rw [List.append_assoc, readUnits_writeUnit_append (by omega), readBehind,
      readUnits_writeUnit_append (by omega), readBehind, readBehind, Option.map_map]
    rfl

/-- A short escape is read as the code unit of the character that it stands for. -/
theorem readUnits_shortEscape {letter c : Char} (hletter : letter ≠ 'u')
    (hescape : shortEscape? letter = some c) (text : Text) :
    readUnits ('\\' :: letter :: text) = readBehind [c.toNat] text := by
  rw [readUnits.eq_3 _ _ _ fun _ _ _ _ _ hu => absurd hu hletter, if_neg (by decide), if_pos rfl]
  simp only [hescape]
  rfl

/-- A printable character that is neither a quote nor a backslash is read as it is. -/
theorem readUnits_cons {c : Char} (hquote : c ≠ '"') (hbackslash : c ≠ '\\') (hc : ¬c < ' ')
    (text : Text) : readUnits (c :: text) = readBehind (unitsOf c) text := by
  rw [readUnits.eq_def]
  simp only [if_neg hquote, if_neg hbackslash, if_neg hc]
  rfl

/-- A written character is read as its code units. -/
theorem readUnits_writeChar_append (c : Char) (text : Text) :
    readUnits (writeChar c ++ text) = readBehind (unitsOf c) text := by
  unfold writeChar
  split
  · exact readUnits_shortEscape (by decide) rfl text
  · exact readUnits_shortEscape (by decide) rfl text
  · exact readUnits_shortEscape (by decide) rfl text
  · exact readUnits_shortEscape (by decide) rfl text
  · exact readUnits_shortEscape (by decide) rfl text
  · exact readUnits_shortEscape (by decide) rfl text
  · exact readUnits_shortEscape (by decide) rfl text
  · next hquote hbackslash _ _ _ _ _ =>
    split
    · next hplain =>
      exact readUnits_cons hquote hbackslash (by simpa using hplain.1) text
    · exact readUnits_writeUnits_append c text

theorem readUnits_flatMap_writeChar (text rest : Text) :
    readUnits (text.flatMap writeChar ++ '"' :: rest) = some (text.flatMap unitsOf, rest) := by
  induction text with
  | nil => rw [List.flatMap_nil, List.nil_append, readUnits.eq_def]; rfl
  | cons c text ih =>
    rw [List.flatMap_cons, List.append_assoc, readUnits_writeChar_append, readBehind, ih]
    rfl

/-- A written text is read back, whatever stands behind it. -/
theorem readText_writeText (text rest : Text) :
    readText (text.flatMap writeChar ++ '"' :: rest) = some (text, rest) := by
  rw [readText, readUnits_flatMap_writeChar]
  simp only [ofUnits_flatMap_unitsOf, Option.map_some]

/-! ### Plain texts -/

/-- Texts of printable ASCII characters. -/
def IsPlain (text : Text) : Prop := ∀ c ∈ text, ' ' ≤ c ∧ c ≤ '~'

instance (text : Text) : Decidable (IsPlain text) :=
  List.decidableBAll (fun c => ' ' ≤ c ∧ c ≤ '~') text

theorem isPlain_append {s t : Text} : IsPlain (s ++ t) ↔ IsPlain s ∧ IsPlain t :=
  List.forall_mem_append

theorem isPlain_cons {c : Char} {t : Text} :
    IsPlain (c :: t) ↔ (' ' ≤ c ∧ c ≤ '~') ∧ IsPlain t :=
  List.forall_mem_cons

theorem isPlain_digitChar : ∀ d < 16, IsPlain [d.digitChar] := by decide

theorem isPlain_writeUnit {n : Nat} (hn : n < 0x10000) : IsPlain (writeUnit n) := by
  have hdigit (d : Nat) (hd : d < 16) : ' ' ≤ d.digitChar ∧ d.digitChar ≤ '~' :=
    (isPlain_cons.1 (isPlain_digitChar d hd)).1
  have hmod (m : Nat) : m % 16 < 16 := Nat.mod_lt m (by decide)
  rw [writeUnit, Text.hex_four hn]
  simp only [isPlain_cons]
  exact ⟨by decide, by decide, hdigit _ (by omega), hdigit _ (hmod _), hdigit _ (hmod _),
    hdigit _ (hmod _), nofun⟩

theorem isPlain_writeUnits (c : Char) : IsPlain (writeUnits c.toNat) := by
  have hvalid := toNat_valid c
  rw [writeUnits]
  split
  · exact isPlain_writeUnit (by omega)
  · exact isPlain_append.2 ⟨isPlain_writeUnit (by omega), isPlain_writeUnit (by omega)⟩

theorem isPlain_writeChar (c : Char) : IsPlain (writeChar c) := by
  unfold writeChar
  split
  iterate 7 decide
  split
  · next hplain => exact isPlain_cons.2 ⟨hplain, nofun⟩
  · exact isPlain_writeUnits c

/-- A text is written in printable ASCII characters. -/
theorem isPlain_writeText (text : Text) : IsPlain (writeText text) := by
  refine isPlain_cons.2 ⟨by decide, isPlain_append.2 ⟨fun c hc => ?_, by decide⟩⟩
  obtain ⟨d, -, hc⟩ := List.mem_flatMap.1 hc
  exact isPlain_writeChar d c hc

end Json

end SqliteAccess
