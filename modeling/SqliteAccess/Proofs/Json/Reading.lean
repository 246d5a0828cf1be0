import SqliteAccess.Proofs.Json.Escaping
import SqliteAccess.Proofs.Number.Reading

/-!
# Reading what was written

The written form of a JSON value is plain text, and it is read back as the value, with its fields
in their order. What stands behind a written value does not matter, as long as it does not go on
with a digit, which an integer at the end would take for its own.

A reader takes one unit of fuel for each value, item and field, and each of them is written in at
least one character, so that the length of the text is always enough.

## Main definitions

* `Json.Ends` : texts that do not go on with a digit.

## Main results

* `Json.readInteger_ofInt_append` : a spelled integer is read back.
* `Json.readValue_write_append` : a written value is read back, whatever stands behind it.
* `Json.read_write` : a value is what its written form is read as.
* `Json.isPlain_write` : the written form is plain.
-/

namespace SqliteAccess.Json

/-- A text that does not go on with a digit. -/
def Ends (text : Text) : Prop := ∀ c ∈ text.head?, c.isDigit = false

theorem ends_nil : Ends [] := nofun

theorem ends_cons {c : Char} (h : c.isDigit = false) (text : Text) : Ends (c :: text) := by
  intro d hd
  obtain rfl := Option.some.inj hd
  exact h

/-! ### Integers -/

/-- Only the number zero is spelled with a zero in front. -/
theorem head?_ofNat_ne {n : Nat} (hn : 0 < n) : (Text.ofNat n).head? ≠ some '0' := by
  induction n using Nat.strongRecOn with
  | ind n ih =>
    rw [Text.ofNat]
    rcases Nat.lt_or_ge n 10 with hlt | hge
    · have hdigit : ∀ d < 10, 0 < d → d.digitChar ≠ '0' := by decide
      rw [Nat.toDigits_of_lt_base hlt, List.head?_cons]
      exact fun h => hdigit n hlt hn (Option.some.inj h)
    · have hhead := ih (n / 10) (by omega) (by omega)
      rw [Text.ofNat] at hhead
      rw [Nat.toDigits_of_base_le (by decide) hge, List.head?_append]
      cases hdigits : Nat.toDigits 10 (n / 10) with
      | nil => exact absurd hdigits Nat.toDigits_ne_nil
      | cons c digits => rwa [hdigits] at hhead

/-- The digits of a number are neither missing nor do they begin with a superfluous zero. -/
theorem not_superfluous (n : Nat) :
    ¬((Text.ofNat n).isEmpty ∨ (Text.ofNat n).head? = some '0' ∧ 1 < (Text.ofNat n).length) := by
  rintro (hempty | ⟨hhead, hlength⟩)
  · exact Nat.toDigits_ne_nil (List.isEmpty_iff.1 hempty)
  · rcases Nat.eq_zero_or_pos n with rfl | hpos
    · exact absurd hlength (by decide)
    · exact head?_ofNat_ne hpos hhead

/-- The digits of a number are read up to its end. -/
theorem takeWhile_ofNat_append (n : Nat) {rest : Text} (h : Ends rest) :
    (Text.ofNat n ++ rest).takeWhile Char.isDigit = Text.ofNat n :=
  Text.takeWhile_append_of_head? (fun _ => Number.isDigit_of_mem_ofNat) h

theorem dropWhile_ofNat_append (n : Nat) {rest : Text} (h : Ends rest) :
    (Text.ofNat n ++ rest).dropWhile Char.isDigit = rest :=
  Text.dropWhile_append_of_head? (fun _ => Number.isDigit_of_mem_ofNat) h

theorem exists_ofNat_eq_cons (n : Nat) :
    ∃ c digits, Text.ofNat n = c :: digits ∧ c.isDigit = true := by
  obtain ⟨c, digits, h⟩ := List.exists_cons_of_ne_nil (Nat.toDigits_ne_nil (n := n) (b := 10))
  have hspelling : Text.ofNat n = c :: digits := h
  exact ⟨c, digits, hspelling, Number.isDigit_of_mem_ofNat (hspelling ▸ List.mem_cons_self)⟩

/-- The spelling of an integer begins with a digit or a minus sign. -/
theorem exists_ofInt_eq_cons (n : Int) :
    ∃ c digits, Text.ofInt n = c :: digits ∧ (c.isDigit = true ∨ c = '-') := by
  cases n with
  | ofNat n =>
    obtain ⟨c, digits, h, hc⟩ := exists_ofNat_eq_cons n
    exact ⟨c, digits, h, .inl hc⟩
  | negSucc n => exact ⟨'-', _, rfl, .inr rfl⟩

theorem ne_of_digit {c d : Char} (hc : c.isDigit = true ∨ c = '-')
    (hd : d.isDigit = false ∧ d ≠ '-') : c ≠ d := by
  rintro rfl
  simp [hd] at hc

theorem isSpace_of_digit {c : Char} (hc : c.isDigit = true ∨ c = '-') : isSpace c = false := by
  have hne (d : Char) (hd : d.isDigit = false ∧ d ≠ '-') : c ≠ d := ne_of_digit hc hd
  simp [isSpace, hne ' ' (by decide), hne '\t' (by decide), hne '\n' (by decide),
    hne '\r' (by decide)]

/-- A spelled integer is read back. -/
theorem readInteger_ofInt_append (n : Int) {rest : Text} (h : Ends rest) :
    readInteger (Text.ofInt n ++ rest) = some (n, rest) := by
  have hdigits (m : Nat) : Nat.ofDigitChars 10 (Text.ofNat m) 0 = m := Number.ofDigits_ofNat m
  cases n with
  | ofNat n =>
    have hsign (tail : Text) : Text.ofNat n ++ rest ≠ '-' :: tail := by
      obtain ⟨c, digits, hspelling, hc⟩ := exists_ofNat_eq_cons n
      rw [hspelling]
      rintro ⟨⟩
      exact absurd hc (by decide)
    -- `hsign` rules out the case of a sign in front
    simp only [readInteger, Text.ofInt, takeWhile_ofNat_append _ h, dropWhile_ofNat_append _ h,
      if_neg (not_superfluous _), hdigits, Bool.false_eq_true, if_false]
    rfl
  | negSucc n =>
    simp only [readInteger, Text.ofInt, List.cons_append, takeWhile_ofNat_append _ h,
      dropWhile_ofNat_append _ h, if_neg (not_superfluous _), hdigits, if_true]
    rfl

/-! ### One value, item or field -/

theorem skipSpace_cons {c : Char} (h : isSpace c = false) (text : Text) :
    skipSpace (c :: text) = c :: text :=
  List.dropWhile_cons_of_neg (by simp [h])

theorem readValue_space (fuel : Nat) (text : Text) :
    readValue fuel (' ' :: text) = readValue fuel text := by
  cases fuel with
  | zero => rfl
  | succ fuel => rw [readValue.eq_2, readValue.eq_2]; rfl

theorem readItems_space (fuel : Nat) (text : Text) :
    readItems fuel (' ' :: text) = readItems fuel text := by
  cases fuel with
  | zero => rfl
  | succ fuel => rw [readItems.eq_2, readItems.eq_2, readValue_space]

theorem readFields_space (fuel : Nat) (text : Text) :
    readFields fuel (' ' :: text) = readFields fuel text := by
  cases fuel with
  | zero => rfl
  | succ fuel => rw [readFields.eq_2, readFields.eq_2]; rfl

theorem readValue_quote (fuel : Nat) (t rest : Text) :
    readValue (fuel + 1) (writeText t ++ rest) = some (text t, rest) := by
  rw [readValue.eq_2, writeText, List.cons_append, skipSpace_cons (by decide)]
  simp [readText_writeText]

/-- A digit or a minus sign begins an integer. -/
theorem readValue_of_digit (fuel : Nat) {c : Char} (hc : c.isDigit = true ∨ c = '-')
    (text : Text) :
    readValue (fuel + 1) (c :: text) =
      (readInteger (c :: text)).map fun (n, rest) => (integer n, rest) := by
  have hne (d : Char) (hd : d.isDigit = false ∧ d ≠ '-') : c ≠ d := ne_of_digit hc hd
  have hword : readWord (c :: text) = none := by
    simp [readWord, Ne.symm (hne 'n' (by decide)), Ne.symm (hne 't' (by decide)),
      Ne.symm (hne 'f' (by decide))]
  rw [readValue.eq_2, skipSpace_cons (isSpace_of_digit hc)]
  split
  · next h => exact absurd (List.cons.inj h).1 (hne _ (by decide))
  · next h => exact absurd (List.cons.inj h).1 (hne _ (by decide))
  · next h => exact absurd (List.cons.inj h).1 (hne _ (by decide))
  · rw [hword]

/-- A list goes on with its items, unless it ends at once. -/
theorem readValue_bracket (fuel : Nat) {c : Char} (hspace : isSpace c = false) (hc : c ≠ ']')
    (text : Text) :
    readValue (fuel + 1) ('[' :: c :: text) =
      (readItems fuel (c :: text)).map fun (items, rest) => (list items, rest) := by
  rw [readValue.eq_2, skipSpace_cons (by decide)]
  simp only [skipSpace_cons hspace]
  split
  · next h => exact absurd (List.cons.inj h).1 hc
  · rfl

/-- An object goes on with the name of its first field, unless it ends at once. -/
theorem readValue_brace (fuel : Nat) (text : Text) :
    readValue (fuel + 1) ('\x7b' :: '"' :: text) =
      (readFields fuel ('"' :: text)).map fun (fields, rest) => (object fields, rest) := by
  rw [readValue.eq_2]
  rfl

section Behind

variable {fuel : Nat} {source rest : Text} {value : Json}

theorem readItems_bracket (h : readValue fuel source = some (value, ']' :: rest)) :
    readItems (fuel + 1) source = some ([value], rest) := by
  rw [readItems.eq_2, h]
  rfl

theorem readItems_comma (h : readValue fuel source = some (value, ',' :: ' ' :: rest)) :
    readItems (fuel + 1) source =
      (readItems fuel rest).map fun (items, rest) => (value :: items, rest) := by
  rw [readItems.eq_2, h]
  simp only [skipSpace_cons (show isSpace ',' = false by decide), readItems_space]

theorem readFields_brace (key : Text) (h : readValue fuel source = some (value, '\x7d' :: rest)) :
    readFields (fuel + 1) (writeText key ++ ':' :: ' ' :: source) =
      some ([(key, value)], rest) := by
  rw [readFields.eq_2, writeText, List.cons_append, skipSpace_cons (by decide)]
  simp [readText_writeText, skipSpace_cons (show isSpace ':' = false by decide), readValue_space, h,
    skipSpace_cons (show isSpace '\x7d' = false by decide)]

theorem readFields_comma (key : Text)
    (h : readValue fuel source = some (value, ',' :: ' ' :: rest)) :
    readFields (fuel + 1) (writeText key ++ ':' :: ' ' :: source) =
      (readFields fuel rest).map fun (fields, rest) => ((key, value) :: fields, rest) := by
  rw [readFields.eq_2, writeText, List.cons_append, skipSpace_cons (by decide)]
  simp [readText_writeText, skipSpace_cons (show isSpace ':' = false by decide), readValue_space, h,
    skipSpace_cons (show isSpace ',' = false by decide), readFields_space]

end Behind

/-! ### Whole values -/

/-- A written value begins with neither a blank nor the end of a list. -/
theorem exists_write_eq_cons (value : Json) :
    ∃ c text, write value = c :: text ∧ isSpace c = false ∧ c ≠ ']' := by
  cases value with
  | null => exact ⟨_, _, rfl, by decide, by decide⟩
  | boolean value => cases value <;> exact ⟨_, _, rfl, by decide, by decide⟩
  | integer n =>
    obtain ⟨c, digits, h, hc⟩ := exists_ofInt_eq_cons n
    exact ⟨c, digits, by rw [write, h], isSpace_of_digit hc, ne_of_digit hc (by decide)⟩
  | text t => exact ⟨'"', _, by rw [write, writeText], by decide, by decide⟩
  | list items => cases items <;> exact ⟨'[', _, by rw [write] <;> rfl, by decide, by decide⟩
  | object fields => cases fields <;> exact ⟨'\x7b', _, by rw [write], by decide, by decide⟩

theorem length_write_pos (value : Json) : 0 < (write value).length := by
  obtain ⟨c, text, h, -, -⟩ := exists_write_eq_cons value
  rw [h, List.length_cons]
  exact Nat.succ_pos _

theorem length_writeItems_pos (items : List Json) : 0 < (writeItems items).length := by
  cases items <;> rw [writeItems] <;> exact Nat.succ_pos _

theorem length_writeFields_pos (fields : Fields) : 0 < (writeFields fields).length := by
  cases fields <;> rw [writeFields] <;> exact Nat.succ_pos _

theorem ends_writeItems (items : List Json) (rest : Text) : Ends (writeItems items ++ rest) := by
  cases items <;> rw [writeItems] <;> exact ends_cons (by decide) _

theorem ends_writeFields (fields : Fields) (rest : Text) : Ends (writeFields fields ++ rest) := by
  cases fields <;> rw [writeFields] <;> exact ends_cons (by decide) _

mutual

/-- A written value is read back, whatever stands behind it, if there is a unit of fuel for each of
its characters. -/
theorem readValue_write_append : (value : Json) → (fuel : Nat) → {rest : Text} →
    (write value).length ≤ fuel → Ends rest →
      readValue fuel (write value ++ rest) = some (value, rest)
  | value, 0, _, hfuel, _ => absurd (length_write_pos value) (Nat.not_lt.2 hfuel)
  | .null, fuel + 1, rest, _, _ => rfl
  | .boolean value, fuel + 1, rest, _, _ => by cases value <;> rfl
  | .integer n, fuel + 1, rest, _, hrest => by
    obtain ⟨c, digits, hspelling, hc⟩ := exists_ofInt_eq_cons n
    rw [write, hspelling, List.cons_append, readValue_of_digit fuel hc, ← List.cons_append,
      ← hspelling, readInteger_ofInt_append n hrest]
    rfl
  | .text t, fuel + 1, rest, _, _ => by rw [write, readValue_quote]
  | .list [], fuel + 1, rest, _, _ => rfl
  | .list (item :: items), fuel + 1, rest, hfuel, _ => by
    rw [write, List.length_cons, List.length_append] at hfuel
    have hitems := length_writeItems_pos items
    obtain ⟨fuel, rfl⟩ : ∃ f, fuel = f + 1 := ⟨fuel - 1, by omega⟩
    have hitem := readValue_write_append item fuel (by omega) (ends_writeItems items rest)
    obtain ⟨c, text, hwrite, hspace, hc⟩ := exists_write_eq_cons item
    rw [write, List.cons_append, List.append_assoc, hwrite, List.cons_append,
      readValue_bracket (fuel + 1) hspace hc, ← List.cons_append, ← hwrite,
      readItems_of_readValue items (by omega) hitem]
    rfl
  | .object [], fuel + 1, rest, _, _ => rfl
  | .object ((key, value) :: fields), fuel + 1, rest, hfuel, _ => by
    have hkey : (writeText key).length = (key.flatMap writeChar).length + 2 := by
      rw [writeText, List.length_cons, List.length_append, List.length_singleton]
    have hfields := length_writeFields_pos fields
    simp only [write, List.length_cons, List.length_append] at hfuel
    obtain ⟨fuel, rfl⟩ : ∃ f, fuel = f + 1 := ⟨fuel - 1, by omega⟩
    have hvalue := readValue_write_append value fuel (by omega) (ends_writeFields fields rest)
    have hread := readFields_of_readValue key fields (by omega) hvalue
    simp only [write, writeText, List.cons_append, List.append_assoc] at hread ⊢
    rw [readValue_brace, hread]
    rfl

/-- Behind a written item the others are read up to the end of the list. -/
theorem readItems_of_readValue : (items : List Json) → {item : Json} → {fuel : Nat} →
    {source rest : Text} → (writeItems items).length ≤ fuel + 1 →
    readValue fuel source = some (item, writeItems items ++ rest) →
      readItems (fuel + 1) source = some (item :: items, rest)
  | [], item, fuel, source, rest, _, h => readItems_bracket h
  | next :: items, item, fuel, source, rest, hfuel, h => by
    rw [writeItems, List.length_cons, List.length_cons, List.length_append] at hfuel
    rw [writeItems, List.cons_append, List.cons_append, List.append_assoc] at h
    obtain ⟨fuel, rfl⟩ : ∃ f, fuel = f + 1 := ⟨fuel - 1, by omega⟩
    have hnext := readValue_write_append next fuel (by omega) (ends_writeItems items rest)
    rw [readItems_comma h, readItems_of_readValue items (by omega) hnext]
    rfl

/-- Behind a written field the others are read up to the end of the object. -/
theorem readFields_of_readValue (key : Text) : (fields : Fields) → {value : Json} → {fuel : Nat} →
    {source rest : Text} → (writeFields fields).length ≤ fuel + 1 →
    readValue fuel source = some (value, writeFields fields ++ rest) →
      readFields (fuel + 1) (writeText key ++ ':' :: ' ' :: source) =
        some ((key, value) :: fields, rest)
  | [], value, fuel, source, rest, _, h => readFields_brace key h
  | (name, next) :: fields, value, fuel, source, rest, hfuel, h => by
    simp only [writeFields, List.length_cons, List.length_append] at hfuel
    simp only [writeFields, List.cons_append, List.append_assoc] at h
    obtain ⟨fuel, rfl⟩ : ∃ f, fuel = f + 1 := ⟨fuel - 1, by omega⟩
    have hnext := readValue_write_append next fuel (by omega) (ends_writeFields fields rest)
    rw [readFields_comma key h, readFields_of_readValue name fields (by omega) hnext]
    rfl

end

/-- **A value is what its written form is read as.** -/
theorem read_write (value : Json) : read (write value) = some value := by
  have hvalue := readValue_write_append value _ (Nat.le_succ _) ends_nil
  rw [List.append_nil] at hvalue
  rw [read, hvalue]
  rfl

/-! ### Plain texts -/

theorem isPlain_ofNat (n : Nat) : IsPlain (Text.ofNat n) := by
  intro c hc
  have hdigit : 48 ≤ c.val ∧ c.val ≤ 57 := by
    simpa [Char.isDigit] using Number.isDigit_of_mem_ofNat hc
  exact ⟨UInt32.le_trans (by decide) hdigit.1, UInt32.le_trans hdigit.2 (by decide)⟩

theorem isPlain_ofInt (n : Int) : IsPlain (Text.ofInt n) := by
  cases n with
  | ofNat n => exact isPlain_ofNat n
  | negSucc n => exact isPlain_cons.2 ⟨by decide, isPlain_ofNat _⟩

theorem isPlain_separator {text : Text} (h : IsPlain text) : IsPlain (',' :: ' ' :: text) :=
  isPlain_cons.2 ⟨by decide, isPlain_cons.2 ⟨by decide, h⟩⟩

theorem isPlain_field (key : Text) {text : Text} (h : IsPlain text) :
    IsPlain (writeText key ++ ':' :: ' ' :: text) :=
  isPlain_append.2 ⟨isPlain_writeText key,
    isPlain_cons.2 ⟨by decide, isPlain_cons.2 ⟨by decide, h⟩⟩⟩

mutual

/-- A value is written in printable ASCII characters. -/
theorem isPlain_write : (value : Json) → IsPlain (write value)
  | .null => by decide
  | .boolean value => by cases value <;> decide
  | .integer n => isPlain_ofInt n
  | .text t => by rw [write]; exact isPlain_writeText t
  | .list [] => by decide
  | .list (item :: items) => by
    rw [write]
    have hitems := isPlain_append.2 ⟨isPlain_write item, isPlain_writeItems items⟩
    exact isPlain_cons.2 ⟨by decide, hitems⟩
  | .object [] => by decide
  | .object ((key, value) :: fields) => by
    rw [write]
    have hfields := isPlain_append.2 ⟨isPlain_write value, isPlain_writeFields fields⟩
    exact isPlain_cons.2 ⟨by decide, isPlain_field key hfields⟩

theorem isPlain_writeItems : (items : List Json) → IsPlain (writeItems items)
  | [] => by decide
  | item :: items => by
    rw [writeItems]
    exact isPlain_separator (isPlain_append.2 ⟨isPlain_write item, isPlain_writeItems items⟩)

theorem isPlain_writeFields : (fields : Fields) → IsPlain (writeFields fields)
  | [] => by decide
  | (key, value) :: fields => by
    rw [writeFields]
    have hfields := isPlain_append.2 ⟨isPlain_write value, isPlain_writeFields fields⟩
    exact isPlain_separator (isPlain_field key hfields)

end

end SqliteAccess.Json
