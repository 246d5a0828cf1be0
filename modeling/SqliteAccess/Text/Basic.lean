/-!
# Texts

Every algorithm of this library works on a text as the list of its characters, so that a
statement about all texts is a statement about all lists and is proved by induction on them.

## Main definitions

* `Text` : a finite sequence of characters.
* `Text.ofNat`, `Text.ofInt`, `Text.hex` : spellings of numbers.
* `Text.breakOn` : the first occurrence of a pattern, with what stands before and after it.
* `Text.foldCase` : the comparison form of a name whose case does not matter.
* `Text.isLayout`, `Text.isNumberBlank`, `Text.isBlank` : the line breaks and tabs that a column
  list reads as spaces, the blanks in front of a number, and the white space of all scripts.
-/

namespace SqliteAccess

/-- A text is the list of its characters. -/
abbrev Text := List Char

namespace Text

/-- The decimal digits of a natural number, without leading zeros. -/
def ofNat (n : Nat) : Text := Nat.toDigits 10 n

/-- The decimal spelling of an integer: a minus sign only in front of a negative one. -/
def ofInt : Int → Text
  | .ofNat n => ofNat n
  | .negSucc n => '-' :: ofNat (n + 1)

/-- The lower-case hexadecimal digits of a number, filled with zeros up to a width. -/
def hex (width n : Nat) : Text :=
  let digits := Nat.toDigits 16 n
  List.replicate (width - digits.length) '0' ++ digits

/-- What stands before and after the first occurrence of `pattern`, if there is one. -/
def breakOn (pattern : Text) : Text → Option (Text × Text)
  | [] => if pattern.isEmpty then some ([], []) else none
  | c :: rest =>
    if pattern.isPrefixOf (c :: rest) then some ([], (c :: rest).drop pattern.length)
    else (breakOn pattern rest).map fun (before, after) => (c :: before, after)

/-- Whether `pattern` occurs in the text as a contiguous part. -/
def occursIn (pattern text : Text) : Bool := (breakOn pattern text).isSome

/-- Removes the characters of a class from both ends. -/
def trim (p : Char → Bool) (text : Text) : Text :=
  ((text.dropWhile p).reverse.dropWhile p).reverse

/-- Removes the characters of a class from the end. -/
def trimRight (p : Char → Bool) (text : Text) : Text :=
  (text.reverse.dropWhile p).reverse

/-- The comparison form of a character in a name: an ASCII letter in lower case, and the Kelvin
sign as the letter it stands for. -/
def foldChar (c : Char) : Char := if c = '\u212a' then 'k' else c.toLower

/-- The comparison form of a name whose case does not matter. -/
def foldCase (text : Text) : Text := text.map foldChar

/-- A character outside ASCII is its own lower case. -/
theorem toLower_of_le {c : Char} (hc : 0x80 ≤ c.toNat) : c.toLower = c := by
  refine dif_neg fun h => ?_
  exact absurd (h.2 : c.toNat ≤ 'Z'.toNat) (Nat.not_le.2 (Nat.lt_of_lt_of_le (by decide) hc))

/-! ### Blank characters -/

/-- Tab, line feed, carriage return, form feed and vertical tab. -/
def isLayout (c : Char) : Bool :=
  c = '\t' || c = '\n' || c = '\r' || c = '\x0c' || c = '\x0b'

/-- The blanks that may stand in front of a number. -/
def isNumberBlank (c : Char) : Bool := c = ' ' || isLayout c

/-- The white space of all scripts, with the four information separators. The zero width space
and the byte order mark do not belong to it. -/
def isBlank (c : Char) : Bool :=
  let n := c.toNat
  (0x09 ≤ n && n ≤ 0x0d) || (0x1c ≤ n && n ≤ 0x20) || n = 0x85 || n = 0xa0 || n = 0x1680 ||
    (0x2000 ≤ n && n ≤ 0x200a) || n = 0x2028 || n = 0x2029 || n = 0x202f || n = 0x205f ||
    n = 0x3000

/-- Removes the blanks at both ends. -/
def strip (text : Text) : Text := trim isBlank text

/-! ### Occurrences of a pattern -/

section Occurrence

variable {pattern text before after : Text}

/-- A text is put together again from what stands around the first occurrence. -/
theorem eq_of_breakOn (h : breakOn pattern text = some (before, after)) :
    text = before ++ pattern ++ after := by
  induction text generalizing before with
  | nil =>
    rw [breakOn] at h
    split at h
    · rename_i hempty
      obtain ⟨rfl, rfl⟩ := Prod.mk.inj (Option.some.inj h)
      rw [List.isEmpty_iff.1 hempty]
      rfl
    · exact nomatch h
  | cons c rest ih =>
    rw [breakOn] at h
    split at h
    · rename_i hfront
      obtain ⟨rfl, rfl⟩ := Prod.mk.inj (Option.some.inj h)
      obtain ⟨tail, htail⟩ := List.isPrefixOf_iff_prefix.1 hfront
      rw [← htail, List.drop_left, List.nil_append]
    · obtain ⟨⟨front, behind⟩, hrest, hfound⟩ := Option.map_eq_some_iff.1 h
      obtain ⟨rfl, rfl⟩ := Prod.mk.inj hfound
      rw [ih hrest, List.cons_append, List.cons_append]

/-- A pattern that occurs is found, and nowhere before its first occurrence. -/
theorem exists_breakOn (pattern before after : Text) :
    ∃ front behind, breakOn pattern (before ++ pattern ++ after) = some (front, behind) ∧
      front <+: before := by
  induction before with
  | nil =>
    cases htext : pattern ++ after with
    | nil =>
      obtain ⟨rfl, rfl⟩ := List.append_eq_nil_iff.1 htext
      exact ⟨[], [], rfl, List.nil_prefix⟩
    | cons c rest =>
      have hfront : pattern.isPrefixOf (c :: rest) = true :=
        List.isPrefixOf_iff_prefix.2 ⟨after, htext⟩
      refine ⟨[], (c :: rest).drop pattern.length, ?_, List.nil_prefix⟩
      rw [List.nil_append, htext, breakOn, if_pos hfront]
  | cons c before ih =>
    obtain ⟨front, behind, hrest, hprefix⟩ := ih
    rw [List.cons_append, List.cons_append, breakOn]
    split
    · exact ⟨[], _, rfl, List.nil_prefix⟩
    · exact ⟨c :: front, behind, by rw [hrest]; rfl, List.cons_prefix_cons.2 ⟨rfl, hprefix⟩⟩

theorem occursIn_iff : occursIn pattern text = true ↔ pattern <:+: text := by
  rw [occursIn, Option.isSome_iff_exists]
  constructor
  · rintro ⟨⟨before, after⟩, h⟩
    exact ⟨before, after, (eq_of_breakOn h).symm⟩
  · rintro ⟨before, after, rfl⟩
    obtain ⟨front, behind, hfound, -⟩ := exists_breakOn pattern before after
    exact ⟨(front, behind), hfound⟩

end Occurrence

/-! ### The front of a text -/

section Front

variable {p : Char → Bool} {front rest : Text}

/-- Characters of a class are read up to the first other one. -/
theorem takeWhile_append_of_head? (hfront : ∀ c ∈ front, p c = true)
    (hrest : ∀ c ∈ rest.head?, p c = false) : (front ++ rest).takeWhile p = front := by
  rw [List.takeWhile_append_of_pos hfront]
  cases rest with
  | nil => exact List.append_nil front
  | cons c rest => rw [List.takeWhile_cons_of_neg (by simp [hrest c rfl]), List.append_nil]

theorem dropWhile_append_of_head? (hfront : ∀ c ∈ front, p c = true)
    (hrest : ∀ c ∈ rest.head?, p c = false) : (front ++ rest).dropWhile p = rest := by
  rw [List.dropWhile_append_of_pos hfront]
  cases rest with
  | nil => rfl
  | cons c rest => rw [List.dropWhile_cons_of_neg (by simp [hrest c rfl])]

theorem eq_false_of_mem_head?_dropWhile {text : Text} {c : Char}
    (hc : c ∈ (text.dropWhile p).head?) : p c = false := by
  have hhead := List.head?_dropWhile_not p text
  rwa [Option.mem_def.1 hc] at hhead

end Front

end Text

end SqliteAccess
