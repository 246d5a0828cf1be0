import Mathlib.Data.List.TakeWhile
import Mathlib.Data.Nat.Digits.Defs
import SqliteAccess.Proofs.Number.Reading

/-!
# The numeral in front of a text

A text falls apart into blanks, an optional sign, decimal digits and the rest, each of the first
three as long as the text allows. There is one way to take a text apart like this, and its digits
have a value at any length. The reader of integers finds the four parts and converts the digits,
but it converts no more than a fixed number of them: from there on it refuses the text, also where
the digits are zeros in front of a small number.

## Main definitions

* `Number.Numeral` : the parts of a text that is read as an integer.
* `Number.Numeral.value` : the integer that they spell.
* `Number.Numeral.ReadAs` : an answer that is the integer up to the limit, and a refusal beyond it.

## Main results

* `Number.ofDigits_eq` : digits have their value in positional notation.
* `Number.Numeral.eq_ofText` : a text has one numeral.
* `Number.Numeral.readAs_integerPrefix` : how the reader answers, for every text.
-/

namespace SqliteAccess.Number

/-! ### Signs and digits -/

/-- The sign in front of a text, if there is one. -/
def signOf : Text → Text
  | '-' :: _ => ['-']
  | '+' :: _ => ['+']
  | _ => []

/-- The sign in front of a text is read, and what stands behind it. -/
theorem splitSign_cases (text : Text) :
    (∃ rest, text = '-' :: rest ∧ signOf text = ['-'] ∧ splitSign text = (true, rest)) ∨
      (∃ rest, text = '+' :: rest ∧ signOf text = ['+'] ∧ splitSign text = (false, rest)) ∨
      (∀ c ∈ text.head?, ¬(c = '+' ∨ c = '-')) ∧ signOf text = [] ∧
        splitSign text = (false, text) := by
  cases text with
  | nil => exact .inr (.inr ⟨nofun, rfl, rfl⟩)
  | cons c rest =>
    by_cases hminus : c = '-'
    · subst hminus
      exact .inl ⟨rest, rfl, rfl, rfl⟩
    by_cases hplus : c = '+'
    · subst hplus
      exact .inr (.inl ⟨rest, rfl, rfl, rfl⟩)
    refine .inr (.inr ⟨fun d hd => ?_, ?_, ?_⟩)
    · obtain rfl := Option.some.inj hd
      exact not_or.2 ⟨hplus, hminus⟩
    · simp [signOf, hminus, hplus]
    · simp [splitSign, hminus, hplus]

theorem signOf_append_splitSign (text : Text) : signOf text ++ (splitSign text).2 = text := by
  obtain ⟨rest, rfl, hsign, hsplit⟩ | ⟨rest, rfl, hsign, hsplit⟩ | ⟨-, hsign, hsplit⟩ :=
    splitSign_cases text <;> rw [hsign, hsplit] <;> rfl

/-- The value of digits in positional notation, the last one being that of the units. -/
def positional (digits : Text) : Nat :=
  Nat.ofDigits 10 (digits.reverse.map fun c => c.toNat - '0'.toNat)

/-- Digits have their value in positional notation. -/
theorem ofDigits_eq (digits : Text) : ofDigits digits = positional digits := by
  induction digits with
  | nil => rfl
  | cons c digits ih =>
    rw [ofDigits] at ih ⊢
    rw [Nat.ofDigitChars_cons, Nat.ofDigitChars_eq_ofDigitChars_zero, ih, positional, positional,
      List.reverse_cons, List.map_append, List.map_singleton, Nat.ofDigits_append,
      Nat.ofDigits_singleton, List.length_map, List.length_reverse, Nat.mul_zero, Nat.zero_add,
      Nat.add_comm]

/-- Zeros in front of digits do not count. -/
theorem positional_zeros_append (count : Nat) (digits : Text) :
    positional (List.replicate count '0' ++ digits) = positional digits := by
  rw [← ofDigits_eq, ← ofDigits_eq, ofDigits, Nat.ofDigitChars_append,
    Nat.ofDigitChars_replicate_zero, Nat.mul_zero, ofDigits]

/-- The parts of a text that is read as an integer. -/
@[ext]
structure Numeral (text : Text) where
  /-- The blanks in front. -/
  blanks : Text
  /-- A sign, or nothing. -/
  sign : Text
  /-- The decimal digits behind the sign. -/
  digits : Text
  /-- What stands behind the digits. -/
  rest : Text
  append_eq : blanks ++ (sign ++ (digits ++ rest)) = text
  isNumberBlank_of_mem : ∀ c ∈ blanks, Text.isNumberBlank c = true
  /-- No blank follows the blanks. -/
  isNumberBlank_head : ∀ c ∈ (sign ++ (digits ++ rest)).head?, Text.isNumberBlank c = false
  sign_mem : sign = [] ∨ sign = ['+'] ∨ sign = ['-']
  /-- A sign behind the blanks is not left out. -/
  sign_ne_nil : ∀ c ∈ (digits ++ rest).head?, c = '+' ∨ c = '-' → sign ≠ []
  isDigit_of_mem : ∀ c ∈ digits, c.isDigit = true
  /-- No digit follows the digits. -/
  isDigit_head : ∀ c ∈ rest.head?, c.isDigit = false

namespace Numeral

variable {text : Text}

/-- The integer that a numeral spells. Without digits it is zero. -/
def value (n : Numeral text) : Int :=
  if n.sign = ['-'] then -(positional n.digits : Int) else positional n.digits

/-- The numeral that is found by going through a text once. -/
def ofText (text : Text) : Numeral text where
  blanks := text.takeWhile Text.isNumberBlank
  sign := signOf (text.dropWhile Text.isNumberBlank)
  digits := (splitSign (text.dropWhile Text.isNumberBlank)).2.takeWhile Char.isDigit
  rest := (splitSign (text.dropWhile Text.isNumberBlank)).2.dropWhile Char.isDigit
  append_eq := by
    rw [List.takeWhile_append_dropWhile, signOf_append_splitSign, List.takeWhile_append_dropWhile]
  isNumberBlank_of_mem c hc := List.mem_takeWhile_imp hc
  isNumberBlank_head c hc := by
    rw [List.takeWhile_append_dropWhile, signOf_append_splitSign] at hc
    exact Text.eq_false_of_mem_head?_dropWhile hc
  sign_mem := by
    obtain ⟨-, -, hsign, -⟩ | ⟨-, -, hsign, -⟩ | ⟨-, hsign, -⟩ :=
      splitSign_cases (text.dropWhile Text.isNumberBlank) <;> simp [hsign]
  sign_ne_nil c hc hc_sign hsign := by
    rw [List.takeWhile_append_dropWhile] at hc
    obtain ⟨-, -, hcons, -⟩ | ⟨-, -, hcons, -⟩ | ⟨hhead, -, hsplit⟩ :=
      splitSign_cases (text.dropWhile Text.isNumberBlank)
    · exact List.cons_ne_nil _ _ (hcons.symm.trans hsign)
    · exact List.cons_ne_nil _ _ (hcons.symm.trans hsign)
    · exact hhead c (by rwa [hsplit] at hc) hc_sign
  isDigit_of_mem c hc := List.mem_takeWhile_imp hc
  isDigit_head c hc := Text.eq_false_of_mem_head?_dropWhile hc

/-- A text of digits is its own numeral. -/
def ofDigits (h : ∀ c ∈ text, c.isDigit = true) : Numeral text where
  blanks := []
  sign := []
  digits := text
  rest := []
  append_eq := List.append_nil text
  isNumberBlank_of_mem := nofun
  isNumberBlank_head c hc := by
    rw [List.append_nil] at hc
    exact isNumberBlank_of_isDigit (h c (List.mem_of_mem_head? hc))
  sign_mem := .inl rfl
  sign_ne_nil c hc hsign := by
    rw [List.append_nil] at hc
    have hdigit := h c (List.mem_of_mem_head? hc)
    rcases hsign with rfl | rfl <;> exact absurd hdigit (by decide)
  isDigit_of_mem := h
  isDigit_head := nofun

/-- What stands behind the blanks. -/
theorem dropWhile_eq (n : Numeral text) :
    text.dropWhile Text.isNumberBlank = n.sign ++ (n.digits ++ n.rest) := by
  conv_lhs => rw [← n.append_eq]
  exact Text.dropWhile_append_of_head? n.isNumberBlank_of_mem n.isNumberBlank_head

/-- What stands behind the blanks is split at the sign. -/
theorem splitSign_eq (n : Numeral text) :
    splitSign (text.dropWhile Text.isNumberBlank) =
      (decide (n.sign = ['-']), n.digits ++ n.rest) := by
  rw [n.dropWhile_eq]
  rcases n.sign_mem with hsign | hsign | hsign
  · rw [hsign, List.nil_append]
    obtain ⟨rest, hcons, -⟩ | ⟨rest, hcons, -⟩ | ⟨-, -, hsplit⟩ :=
      splitSign_cases (n.digits ++ n.rest)
    · exact absurd hsign (n.sign_ne_nil '-' (by rw [hcons]; rfl) (.inr rfl))
    · exact absurd hsign (n.sign_ne_nil '+' (by rw [hcons]; rfl) (.inl rfl))
    · exact hsplit
  · rw [hsign]
    rfl
  · rw [hsign]
    rfl

theorem takeWhile_eq (n : Numeral text) :
    (n.digits ++ n.rest).takeWhile Char.isDigit = n.digits :=
  Text.takeWhile_append_of_head? n.isDigit_of_mem n.isDigit_head

/-- **A text has one numeral.** -/
theorem eq_ofText (n : Numeral text) : n = ofText text := by
  have hblanks : n.blanks = text.takeWhile Text.isNumberBlank := by
    conv_rhs => rw [← n.append_eq]
    exact (Text.takeWhile_append_of_head? n.isNumberBlank_of_mem n.isNumberBlank_head).symm
  have hunsigned : (splitSign (text.dropWhile Text.isNumberBlank)).2 = n.digits ++ n.rest := by
    rw [n.splitSign_eq]
  have hsign : n.sign = signOf (text.dropWhile Text.isNumberBlank) := by
    have happend : n.sign ++ (n.digits ++ n.rest) =
        signOf (text.dropWhile Text.isNumberBlank) ++ (n.digits ++ n.rest) := by
      rw [← n.dropWhile_eq, ← hunsigned, signOf_append_splitSign]
    exact List.append_cancel_right happend
  refine Numeral.ext hblanks hsign ?_ ?_
  · exact (hunsigned ▸ n.takeWhile_eq).symm
  · exact (hunsigned ▸ Text.dropWhile_append_of_head? n.isDigit_of_mem n.isDigit_head).symm

instance : Unique (Numeral text) where
  default := ofText text
  uniq := eq_ofText

/-! ### The reader -/

/-- The integer of a numeral is what the reader gives, up to the limit. -/
theorem integerPrefix_eq (n : Numeral text) :
    integerPrefix text =
      if digitLimit < n.digits.length then .error (.tooManyDigits n.digits.length)
      else .ok n.value := by
  simp only [integerPrefix, n.splitSign_eq, n.takeWhile_eq, ofDigits_eq, value,
    decide_eq_true_eq]

theorem integerPrefix_eq_ok_iff (n : Numeral text) {k : Int} :
    integerPrefix text = .ok k ↔ k = n.value ∧ n.digits.length ≤ digitLimit := by
  rw [n.integerPrefix_eq]
  split_ifs with hlimit
  · exact ⟨nofun, fun h => absurd hlimit (Nat.not_lt.2 h.2)⟩
  · refine ⟨fun h => ⟨(Except.ok.inj h).symm, Nat.not_lt.1 hlimit⟩, ?_⟩
    rintro ⟨rfl, -⟩
    rfl

/-- An answer that is the integer of a numeral exactly when its digits are not too many, and a
refusal otherwise. -/
structure ReadAs {ε : Type} (n : Numeral text) (refusal : Error → ε) (answer : Except ε Int) :
    Prop where
  eq_ok_iff : answer = .ok n.value ↔ n.digits.length ≤ digitLimit
  eq_error : digitLimit < n.digits.length →
    answer = .error (refusal (.tooManyDigits n.digits.length))

/-- Every text is read as its numeral, by whatever call passes the answer on. -/
theorem readAs_integerPrefix {ε : Type} (n : Numeral text) (refusal : Error → ε) :
    n.ReadAs refusal ((integerPrefix text).mapError refusal) := by
  rw [n.integerPrefix_eq]
  split_ifs with hlimit
  · exact ⟨⟨nofun, fun hle => absurd hlimit (Nat.not_lt.2 hle)⟩, fun _ => rfl⟩
  · exact ⟨⟨fun _ => Nat.not_lt.1 hlimit, fun _ => rfl⟩, fun hlt => absurd hlt hlimit⟩

end Numeral

end SqliteAccess.Number
