import Mathlib.Tactic.SplitIfs
import SqliteAccess.Text.Utf8

/-!
# Texts as the characters of their bytes

A reader that works byte by byte sees a text outside ASCII as a longer text, in which every byte
stands for the character with its number. An ASCII character is its own byte there, and every other
character is a row of bytes outside ASCII.

## Main definitions

* `Text.octets` : the bytes of a text, each as the character with its number.
* `Text.isAscii` : the texts that are their own bytes.

## Main results

* `Text.mem_octets` : the ASCII characters of the bytes are those of the text.
* `Text.head?_octets_eq_some_iff` : an ASCII character at the front stays there.
-/

namespace SqliteAccess.Text

/-- The bytes of a text, each as the character with its number. -/
def octets (text : Text) : Text := (toUtf8 text).map fun b => Char.ofNat b.toNat

/-- Whether all characters of a text are in ASCII. -/
def isAscii (text : Text) : Bool := text.all fun c => c.toNat < 0x80

theorem isAscii_iff {t : Text} : isAscii t = true ↔ ∀ c ∈ t, c.toNat < 0x80 := by
  simp [isAscii]

@[simp]
theorem octets_nil : octets [] = [] := rfl

@[simp]
theorem octets_append (s t : Text) : octets (s ++ t) = octets s ++ octets t := by
  simp [octets, toUtf8_append]

theorem octets_singleton_of_lt {c : Char} (hc : c.toNat < 0x80) : octets [c] = [c] := by
  have hle : c.toNat ≤ 0x7f := Nat.le_of_lt_succ hc
  have hbyte : c.toNat % 256 = c.toNat := Nat.mod_eq_of_lt (Nat.lt_trans hc (by decide))
  simp [octets, toUtf8, String.utf8EncodeChar, hle, hbyte]

theorem octets_cons (c : Char) (t : Text) : octets (c :: t) = octets [c] ++ octets t :=
  octets_append [c] t

theorem octets_cons_of_lt {c : Char} (hc : c.toNat < 0x80) (t : Text) :
    octets (c :: t) = c :: octets t := by
  rw [octets_cons, octets_singleton_of_lt hc, List.singleton_append]

/-- The bytes of a character outside ASCII lie outside ASCII. -/
theorem le_of_mem_utf8EncodeChar {c : Char} {b : UInt8} (hc : 0x80 ≤ c.toNat)
    (hb : b ∈ String.utf8EncodeChar c) : 0x80 ≤ b.toNat := by
  have hc : ¬c.val.toNat ≤ 0x7f := Nat.not_le.2 hc
  rw [String.utf8EncodeChar, if_neg hc] at hb
  split_ifs at hb
  all_goals
    simp only [List.mem_cons, List.not_mem_nil, or_false] at hb
    rcases hb with rfl | rfl | rfl | rfl <;> simp [UInt8.toNat_ofNat'] <;> omega

theorem toNat_ofNat_byte (b : UInt8) : (Char.ofNat b.toNat).toNat = b.toNat :=
  toNat_charOfNat (.inl (Nat.lt_trans b.toNat_lt (by decide)))

/-- A character outside ASCII is a row of bytes outside ASCII. -/
theorem octets_singleton_of_le {c : Char} (hc : 0x80 ≤ c.toNat) :
    octets [c] ≠ [] ∧ ∀ d ∈ octets [c], 0x80 ≤ d.toNat := by
  refine ⟨by simp [octets, toUtf8, String.utf8EncodeChar_ne_nil], fun d hd => ?_⟩
  simp only [octets, toUtf8, List.flatMap_singleton, List.mem_map] at hd
  obtain ⟨b, hb, rfl⟩ := hd
  rw [toNat_ofNat_byte]
  exact le_of_mem_utf8EncodeChar hc hb

/-- A text in ASCII is the same as its bytes. -/
theorem octets_eq_self {t : Text} (ht : isAscii t = true) : octets t = t := by
  rw [isAscii_iff] at ht
  induction t with
  | nil => rfl
  | cons c t ih =>
    obtain ⟨hc, ht⟩ := List.forall_mem_cons.1 ht
    rw [octets_cons_of_lt hc, ih ht]

theorem octets_ne_nil {t : Text} (ht : t ≠ []) : octets t ≠ [] := by
  obtain ⟨c, t, rfl⟩ := List.exists_cons_of_ne_nil ht
  rw [octets_cons]
  rcases Nat.lt_or_ge c.toNat 0x80 with hc | hc
  · simp [octets_singleton_of_lt hc]
  · simp [(octets_singleton_of_le hc).1]

theorem mem_octets {d : Char} {t : Text} (hd : d ∈ octets t) : d ∈ t ∨ 0x80 ≤ d.toNat := by
  induction t with
  | nil => simp at hd
  | cons c t ih =>
    rw [octets_cons, List.mem_append] at hd
    rcases hd with hd | hd
    · rcases Nat.lt_or_ge c.toNat 0x80 with hc | hc
      · rw [octets_singleton_of_lt hc, List.mem_singleton] at hd
        exact .inl (hd ▸ List.mem_cons_self)
      · exact .inr ((octets_singleton_of_le hc).2 d hd)
    · exact (ih hd).imp_left (List.mem_cons_of_mem c)

theorem head?_octets_eq_some_iff {d : Char} (hd : d.toNat < 0x80) {t : Text} :
    (octets t).head? = some d ↔ t.head? = some d := by
  cases t with
  | nil => rfl
  | cons c t =>
    rcases Nat.lt_or_ge c.toNat 0x80 with hc | hc
    · simp [octets_cons_of_lt hc]
    · obtain ⟨hne, hbytes⟩ := octets_singleton_of_le hc
      obtain ⟨e, u, hu⟩ := List.exists_cons_of_ne_nil hne
      have he : 0x80 ≤ e.toNat := hbytes e (by simp [hu])
      rw [octets_cons, hu, List.cons_append, List.head?_cons, List.head?_cons]
      constructor
      · rintro ⟨⟩
        exact absurd he (Nat.not_le.2 hd)
      · rintro ⟨⟩
        exact absurd hc (Nat.not_le.2 hd)

end SqliteAccess.Text
