import SqliteAccess.Quoting

/-!
# The characters outside quoted regions

A quote opens a region, and the next occurrence of the same quote closes it. A doubled quote closes
its region and opens it again with no character in between, so the characters outside the regions
are found without looking ahead. A region that is never closed runs to the end of the text.

## Main definitions

* `Token.unquoted` : the characters of a text outside its quoted regions.

## Main results

* `Token.unquoted_append` : characters that are no quotes stay.
* `Token.unquoted_enclose_append` : a whole region leaves nothing.
-/

namespace SqliteAccess.Token

/-- The characters outside quotes, read from inside the region that `quote` opened, or from outside
quotes. -/
def unquotedFrom (quote : Option Char) : Text → Text
  | [] => []
  | c :: rest =>
    match quote with
    | some q => unquotedFrom (if c = q then none else some q) rest
    | none => if isQuote c then unquotedFrom (some c) rest else c :: unquotedFrom none rest

/-- The characters of a text outside its quoted regions. -/
def unquoted (sql : Text) : Text := unquotedFrom none sql

@[simp]
theorem unquoted_nil : unquoted [] = [] := rfl

theorem unquoted_cons {c : Char} (hc : isQuote c = false) (t : Text) :
    unquoted (c :: t) = c :: unquoted t := by
  simp [unquoted, unquotedFrom, hc]

theorem unquoted_append {x : Text} (hx : ∀ c ∈ x, isQuote c = false) (t : Text) :
    unquoted (x ++ t) = x ++ unquoted t := by
  induction x with
  | nil => rfl
  | cons c x ih =>
    obtain ⟨hc, hx⟩ := List.forall_mem_cons.1 hx
    rw [List.cons_append, unquoted_cons hc, ih hx, List.cons_append]

/-- The body of a region stays inside the region. -/
theorem unquotedFrom_double_append {quote : Char} (hquote : isQuote quote = true) (s t : Text) :
    unquotedFrom (some quote) (Text.double quote s ++ t) = unquotedFrom (some quote) t := by
  induction s with
  | nil => rfl
  | cons c s ih =>
    by_cases hc : c = quote
    · subst hc
      simpa [Text.double, unquotedFrom, hquote] using ih
    · simpa [Text.double, unquotedFrom, hc] using ih

theorem unquoted_enclose_append {quote : Char} (hquote : isQuote quote = true) (s t : Text) :
    unquoted (Text.enclose quote s ++ t) = unquoted t := by
  simp [unquoted, Text.enclose, unquotedFrom, hquote, unquotedFrom_double_append hquote]

/-- A region that the text does not close leaves nothing. -/
theorem unquoted_open {quote : Char} (hquote : isQuote quote = true) (s : Text) :
    unquoted (quote :: Text.double quote s) = [] := by
  have hbody := unquotedFrom_double_append hquote s []
  rw [List.append_nil] at hbody
  simp [unquoted, unquotedFrom, hquote, hbody]

end SqliteAccess.Token
