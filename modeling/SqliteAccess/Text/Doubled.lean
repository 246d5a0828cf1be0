import SqliteAccess.Text.Basic

/-!
# Regions closed by a quote

A quoted region starts with a quote character and ends at the next single occurrence of the same
character. Inside the region that character is written twice. Writing and reading are two
recursions on the text, and reading what was written gives the text back (`content_double`).

## Main definitions

* `Text.double` : the body of a region, with each quote written twice.
* `Text.enclose` : a whole region.
* `Text.content` : the text that a region denotes, read from just after its opening quote.
-/

namespace SqliteAccess.Text

/-- Writes every `quote` twice and every other character once. -/
def double (quote : Char) : Text → Text
  | [] => []
  | c :: rest => if c = quote then quote :: quote :: double quote rest else c :: double quote rest

/-- The quoted region that denotes a text. -/
def enclose (quote : Char) (text : Text) : Text := quote :: (double quote text ++ [quote])

/-- Reads a region from just after its opening quote. A doubled quote is one character of the
content, a single one closes the region, and whatever follows it is ignored. A region that is
never closed extends to the end of the text. -/
def content (quote : Char) : Text → Text
  | [] => []
  | [c] => if c = quote then [] else [c]
  | c :: next :: rest =>
    if c = quote then
      if next = quote then quote :: content quote rest else []
    else c :: content quote (next :: rest)

variable (quote : Char)

@[simp]
theorem double_nil : double quote [] = [] := rfl

theorem double_append (s t : Text) : double quote (s ++ t) = double quote s ++ double quote t := by
  induction s with
  | nil => rfl
  | cons c s ih => by_cases h : c = quote <;> simp [double, h, ih]

/-- Doubling adds no character. -/
theorem mem_double {c : Char} {s : Text} : c ∈ double quote s ↔ c ∈ s := by
  induction s with
  | nil => rfl
  | cons d s ih =>
    by_cases hd : d = quote
    · simp [double, hd, ih]
    · simp [double, hd, ih]

/-- The body of a region holds each quote of the text twice. -/
theorem count_double (s : Text) : (double quote s).count quote = 2 * s.count quote := by
  induction s with
  | nil => rfl
  | cons c s ih =>
    by_cases hc : c = quote
    · simp only [double, hc, if_true, List.count_cons_self, ih]
      omega
    · simp only [double, hc, if_false, List.count_cons_of_ne hc, ih]

/-- A text behind an opening quote either closes the region at its first single quote, or is the
body of a region that it does not close. -/
theorem closes_or_eq_double (t : Text) :
    (∃ s rest, t = double quote s ++ quote :: rest ∧ rest.head? ≠ some quote) ∨
      ∃ s, t = double quote s := by
  induction t using content.induct quote with
  | case1 => exact .inr ⟨[], rfl⟩
  | case2 => exact .inl ⟨[], [], rfl, by simp⟩
  | case3 c hc => exact .inr ⟨[c], by simp [double, hc]⟩
  | case4 rest ih =>
    rcases ih with ⟨s, u, rfl, hu⟩ | ⟨s, rfl⟩
    · exact .inl ⟨quote :: s, u, by simp [double], hu⟩
    · exact .inr ⟨quote :: s, by simp [double]⟩
  | case5 next rest hnext => exact .inl ⟨[], next :: rest, rfl, by simpa using hnext⟩
  | case6 c next rest hc ih =>
    rcases ih with ⟨s, u, h, hu⟩ | ⟨s, h⟩
    · exact .inl ⟨c :: s, u, by simp [double, hc, h], hu⟩
    · exact .inr ⟨c :: s, by simp [double, hc, h]⟩

/-- A character other than the quote is read as itself. -/
theorem content_cons_of_ne {c : Char} (h : c ≠ quote) (t : Text) :
    content quote (c :: t) = c :: content quote t := by
  cases t with
  | nil => simp [content, h]
  | cons d t => simp [content, h]

/-- Reading a written region gives its text, whatever follows the closing quote except another
quote. -/
theorem content_double (s t : Text) (h : t.head? ≠ some quote) :
    content quote (double quote s ++ quote :: t) = s := by
  induction s with
  | nil =>
    cases t with
    | nil => simp [content]
    | cons d t =>
      have hd : d ≠ quote := fun e => h (by simp [e])
      simp [content, hd]
  | cons c s ih =>
    by_cases hc : c = quote
    · simp [double, hc, content, ih]
    · simp [double, hc, content_cons_of_ne, ih]

/-- Reading a region that is never closed gives its text too. -/
theorem content_double_eq_self (s : Text) : content quote (double quote s) = s := by
  induction s with
  | nil => rfl
  | cons c s ih =>
    by_cases hc : c = quote
    · simp [double, hc, content, ih]
    · simp [double, hc, content_cons_of_ne, ih]

end SqliteAccess.Text
