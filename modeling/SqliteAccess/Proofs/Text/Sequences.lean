import Mathlib.Algebra.Group.Nat.Defs
import Mathlib.Data.List.Basic
import Mathlib.Data.List.Induction
import Mathlib.Tactic.SplitIfs
import SqliteAccess.Text.Utf8

/-!
# Sequences of bytes and their characters

Inside a sequence the decoder keeps a few bits and a range for the next byte. These determine the
characters that the sequence can still become: an interval of numbers, cut down by the bits that
have been read. So the state behind some bytes is right when the interval is that of the characters
with which the bytes begin, and every further byte is right because it takes six bits of the number.

The interval of a lead byte holds none but numbers of characters that are written with that byte.
This is where the overlong forms, the surrogates and the numbers beyond the last code point are
excluded, and later bytes only make the interval smaller.

## Main definitions

* `Text.leadOf` : the first byte of the character with a number.
* `Text.Sequence.Admits` : the numbers of the characters that a sequence can become.
* `Text.Sequence.IsAfter` : the sequence in which the decoder is behind some bytes.

## Main results

* `Text.Sequence.IsAfter.begins_append_iff` : the bytes with which a sequence goes on.
* `Text.Sequence.exists_isAfter` : the decoder is inside a sequence behind a part of the bytes of a
  character.
* `Text.Sequence.IsAfter.ofUtf8_append_last`, `Text.Sequence.IsAfter.ofUtf8_append_of_not_begins` :
  how a sequence ends.
-/

namespace SqliteAccess.Text

/-! ### The bytes of a character -/

/-- The first byte of the character with a number. -/
def leadOf (n : Nat) : Nat :=
  if n < 0x80 then n
  else if n < 0x800 then 0xc0 + n / 0x40
  else if n < 0x10000 then 0xe0 + n / 0x1000
  else 0xf0 + n / 0x40000

theorem length_utf8EncodeChar (c : Char) :
    (String.utf8EncodeChar c).length =
      if c.toNat < 0x80 then 1
      else if c.toNat < 0x800 then 2
      else if c.toNat < 0x10000 then 3
      else 4 := by
  have hnat : c.val.toNat = c.toNat := rfl
  simp only [String.utf8EncodeChar, hnat]
  split_ifs <;> simp only [List.length_cons, List.length_nil] <;> omega

theorem singleton_prefix_iff {b : UInt8} {c : Char} :
    [b] <+: String.utf8EncodeChar c ↔ b.toNat = leadOf c.toNat := by
  have hvalid : c.toNat.isValidChar := c.valid
  have hnat : c.val.toNat = c.toNat := rfl
  simp only [String.utf8EncodeChar, leadOf, hnat]
  split_ifs <;> simp only [List.cons_prefix_cons, List.nil_prefix, and_true, ← UInt8.toNat_inj,
    UInt8.toNat_ofNat'] <;> omega

/-- Every byte behind the first one holds six bits of the number. -/
theorem getElem?_utf8EncodeChar_eq_some_iff {c : Char} {b : UInt8} {i more : Nat} (hi : 0 < i)
    (hlength : (String.utf8EncodeChar c).length = i + 1 + more) :
    (String.utf8EncodeChar c)[i]? = some b ↔ b.toNat = 0x80 + c.toNat / 64 ^ more % 64 := by
  have hnat : c.val.toNat = c.toNat := rfl
  revert hlength
  simp only [String.utf8EncodeChar, hnat]
  -- the length leaves one place in two bytes, two in three, and three in four
  split_ifs <;> simp only [List.length_cons, List.length_nil] <;> intro hlength
  · omega
  · obtain ⟨rfl, rfl⟩ : i = 1 ∧ more = 0 := by omega
    simp only [List.getElem?_cons_succ, List.getElem?_cons_zero, Option.some.injEq,
      ← UInt8.toNat_inj, UInt8.toNat_ofNat']
    omega
  · obtain ⟨rfl, rfl⟩ | ⟨rfl, rfl⟩ : (i = 1 ∧ more = 1) ∨ (i = 2 ∧ more = 0) := by omega
    all_goals
      simp only [List.getElem?_cons_succ, List.getElem?_cons_zero, Option.some.injEq,
        ← UInt8.toNat_inj, UInt8.toNat_ofNat']
      omega
  · obtain ⟨rfl, rfl⟩ | ⟨rfl, rfl⟩ | ⟨rfl, rfl⟩ :
      (i = 1 ∧ more = 2) ∨ (i = 2 ∧ more = 1) ∨ (i = 3 ∧ more = 0) := by omega
    all_goals
      simp only [List.getElem?_cons_succ, List.getElem?_cons_zero, Option.some.injEq,
        ← UInt8.toNat_inj, UInt8.toNat_ofNat']
      omega

theorem append_singleton_prefix_iff {p l : List UInt8} {b : UInt8} :
    p ++ [b] <+: l ↔ p <+: l ∧ l[p.length]? = some b := by
  constructor
  · rintro ⟨t, rfl⟩
    exact ⟨⟨b :: t, by simp⟩, by simp⟩
  · rintro ⟨⟨t, rfl⟩, hb⟩
    rw [List.getElem?_append_right (Nat.le_refl _), Nat.sub_self] at hb
    cases t with
    | nil => exact nomatch hb
    | cons d t =>
      obtain rfl : d = b := Option.some.inj hb
      exact ⟨t, by simp⟩

/-! ### The characters that a sequence can become -/

namespace Sequence

/-- Whether the sequence can become the character with a number: the bits that have been read stand
in front, and the next six give a byte in the range. -/
def Admits (s : Sequence) (n : Nat) : Prop :=
  n / 64 ^ s.more / 64 = s.value ∧ s.low ≤ 0x80 + n / 64 ^ s.more % 64 ∧
    0x80 + n / 64 ^ s.more % 64 ≤ s.high

/-- Whether the range holds bytes, and none but those that may continue a sequence. -/
def IsRanged (s : Sequence) : Prop := 0x80 ≤ s.low ∧ s.low ≤ s.high ∧ s.high ≤ 0xbf

/-- The smallest number that a sequence can become with a given next byte. -/
def least (s : Sequence) (next : Nat) : Nat := (s.value * 64 + (next - 0x80)) * 64 ^ s.more

theorem least_div (s : Sequence) (next : Nat) :
    s.least next / 64 ^ s.more = s.value * 64 + (next - 0x80) :=
  Nat.mul_div_cancel _ (Nat.pow_pos (by decide))

theorem admits_least {s : Sequence} (hs : s.IsRanged) {next : Nat} (hlow : s.low ≤ next)
    (hhigh : next ≤ s.high) : s.Admits (s.least next) := by
  obtain ⟨hle, -, hge⟩ := hs
  rw [Admits, least_div]
  omega

/-- A byte in the range takes six bits of the number. -/
theorem admits_next_iff {s : Sequence} (hs : s.IsRanged) {more next : Nat}
    (hmore : s.more = more + 1) (hlow : s.low ≤ next) (hhigh : next ≤ s.high) {n : Nat} :
    Admits ⟨s.value * 64 + (next - 0x80), 0x80, 0xbf, more⟩ n ↔
      s.Admits n ∧ next = 0x80 + n / 64 ^ s.more % 64 := by
  obtain ⟨hle, -, hge⟩ := hs
  have hbits : n / 64 ^ (more + 1) = n / 64 ^ more / 64 := by
    rw [Nat.div_div_eq_div_mul, pow_succ]
  simp only [Admits, hmore, hbits]
  omega

/-! A lead byte opens one of seven sequences, by the range in which it lies. -/

section OfLead

variable {lead : Nat} {s : Sequence} (h : ofLead lead = some s)
include h

theorem isRanged_of_ofLead : s.IsRanged ∧ 0x80 ≤ lead := by
  rw [ofLead] at h
  split_ifs at h
  all_goals
    obtain rfl := Option.some.inj h
    simp only [IsRanged]
    omega

theorem isValidChar_of_ofLead {n : Nat} (hn : s.Admits n) : n.isValidChar := by
  rw [ofLead] at h
  split_ifs at h
  all_goals
    obtain rfl := Option.some.inj h
    simp only [Admits] at hn
    unfold Nat.isValidChar
    omega

theorem admits_iff_of_ofLead {n : Nat} (hn : n.isValidChar) : s.Admits n ↔ leadOf n = lead := by
  unfold Nat.isValidChar at hn
  rw [ofLead] at h
  split_ifs at h
  all_goals
    obtain rfl := Option.some.inj h
    simp only [Admits, leadOf]
    split_ifs <;> omega

theorem length_of_ofLead {c : Char} (hc : leadOf c.toNat = lead) :
    (String.utf8EncodeChar c).length = 2 + s.more := by
  have hadmits : s.Admits c.toNat := (admits_iff_of_ofLead h c.valid).2 hc
  rw [length_utf8EncodeChar]
  rw [ofLead] at h
  split_ifs at h
  all_goals
    obtain rfl := Option.some.inj h
    simp only [Admits] at hadmits ⊢
    split_ifs <;> omega

theorem startSequence_of_ofLead : startSequence lead = ([], some s) := by
  have hlead : ¬lead < 0x80 := Nat.not_lt.2 (isRanged_of_ofLead h).2
  rw [startSequence, if_neg hlead, h]

end OfLead

theorem lead_of_ofLead_eq_none {lead : Nat} (h : ofLead lead = none) :
    lead < 0xc2 ∨ 0xf4 < lead := by
  rw [ofLead] at h
  split_ifs at h
  omega

theorem exists_ofLead {n : Nat} (hn : n.isValidChar) (hle : 0x80 ≤ n) :
    ∃ s, ofLead (leadOf n) = some s := by
  have hlead : 0xc2 ≤ leadOf n ∧ leadOf n ≤ 0xf4 := by
    unfold Nat.isValidChar at hn
    rw [leadOf]
    split_ifs <;> omega
  cases h : ofLead (leadOf n) with
  | some s => exact ⟨s, rfl⟩
  | none =>
    have houtside := lead_of_ofLead_eq_none h
    omega

/-! ### Behind a part of the bytes of a character -/

/-- The decoder is inside a sequence behind the bytes `read`, and the characters that begin with
them are those that the sequence can become. -/
structure IsAfter (s : Sequence) (read : List UInt8) : Prop where
  ne_nil : read ≠ []
  isRanged : s.IsRanged
  prefix_iff : ∀ c, read <+: String.utf8EncodeChar c ↔ s.Admits c.toNat
  length_eq : ∀ c, read <+: String.utf8EncodeChar c →
    (String.utf8EncodeChar c).length = read.length + 1 + s.more
  /-- No surrogate and no number beyond the last code point is left. -/
  isValidChar : ∀ n, s.Admits n → n.isValidChar
  ofUtf8_append : ∀ rest, ofUtf8 (read ++ rest) = ofUtf8From (some s) rest

theorem isAfter_of_ofLead {b : UInt8} {s : Sequence} (h : ofLead b.toNat = some s) :
    s.IsAfter [b] where
  ne_nil := by simp
  isRanged := (isRanged_of_ofLead h).1
  prefix_iff c := by
    have hvalid : c.toNat.isValidChar := c.valid
    rw [singleton_prefix_iff, admits_iff_of_ofLead h hvalid, eq_comm]
  length_eq c hc := length_of_ofLead h (singleton_prefix_iff.1 hc).symm
  isValidChar _ := isValidChar_of_ofLead h
  ofUtf8_append rest := by
    rw [List.singleton_append, ofUtf8, ofUtf8From, startSequence_of_ofLead h]
    rfl

namespace IsAfter

variable {s : Sequence} {read : List UInt8} (h : s.IsAfter read) {b : UInt8}
include h

theorem append_prefix_iff {c : Char} :
    read ++ [b] <+: String.utf8EncodeChar c ↔
      s.Admits c.toNat ∧ b.toNat = 0x80 + c.toNat / 64 ^ s.more % 64 := by
  rw [append_singleton_prefix_iff, h.prefix_iff]
  refine and_congr_right fun hc => ?_
  have hlength := h.length_eq c ((h.prefix_iff c).2 hc)
  exact getElem?_utf8EncodeChar_eq_some_iff (List.length_pos_iff.2 h.ne_nil) hlength

/-- The range of a sequence holds the bytes with which it goes on in some character. -/
theorem begins_append_iff : Begins (read ++ [b]) ↔ s.low ≤ b.toNat ∧ b.toNat ≤ s.high := by
  constructor
  · rintro ⟨c, hc⟩
    obtain ⟨⟨-, hrange⟩, hb⟩ := h.append_prefix_iff.1 hc
    rwa [hb]
  · rintro ⟨hlow, hhigh⟩
    have hadmits := admits_least h.isRanged hlow hhigh
    have hnumber := toNat_charOfNat (h.isValidChar _ hadmits)
    obtain ⟨hle, -, hge⟩ := h.isRanged
    refine ⟨Char.ofNat (s.least b.toNat), h.append_prefix_iff.2 ?_⟩
    rw [hnumber, least_div]
    exact ⟨hadmits, by omega⟩

theorem begins : Begins read := by
  obtain ⟨hle, hlow, hge⟩ := h.isRanged
  have hbyte : (UInt8.ofNat s.low).toNat = s.low :=
    UInt8.toNat_ofNat_of_lt' (Nat.lt_of_le_of_lt (Nat.le_trans hlow hge) (by decide))
  have hnext : Begins (read ++ [UInt8.ofNat s.low]) :=
    h.begins_append_iff.2 (by rw [hbyte]; exact ⟨Nat.le_refl _, hlow⟩)
  exact hnext.of_prefix (List.prefix_append read _)

/-- A byte in the range goes on with the sequence while further bytes have to follow. -/
theorem next {more : Nat} (hmore : s.more = more + 1)
    (hb : s.low ≤ b.toNat ∧ b.toNat ≤ s.high) :
    IsAfter ⟨s.value * 64 + (b.toNat - 0x80), 0x80, 0xbf, more⟩ (read ++ [b]) where
  ne_nil := by simp
  isRanged := by simp [IsRanged]
  prefix_iff c := by rw [h.append_prefix_iff, admits_next_iff h.isRanged hmore hb.1 hb.2]
  length_eq c hc := by
    have hlength := h.length_eq c ((List.prefix_append read [b]).trans hc)
    rw [hlength, hmore, List.length_append, List.length_singleton]
    simp only
    omega
  isValidChar n hn :=
    h.isValidChar n ((admits_next_iff h.isRanged hmore hb.1 hb.2).1 hn).1
  ofUtf8_append rest := by
    rw [List.append_assoc, h.ofUtf8_append, List.singleton_append, ofUtf8From]
    simp only [continueSequence, if_pos hb, hmore]
    rfl

/-- The last byte of a sequence gives its character. -/
theorem ofUtf8_append_last (hmore : s.more = 0) {c : Char}
    (hc : String.utf8EncodeChar c = read ++ [b]) (rest : List UInt8) :
    ofUtf8 (read ++ b :: rest) = c :: ofUtf8 rest := by
  have hprefix : read ++ [b] <+: String.utf8EncodeChar c := hc ▸ List.prefix_rfl
  have hb := h.begins_append_iff.1 ⟨c, hprefix⟩
  obtain ⟨⟨hvalue, -⟩, hbits⟩ := h.append_prefix_iff.1 hprefix
  rw [hmore, pow_zero, Nat.div_one] at hvalue hbits
  have hnumber : s.value * 64 + (b.toNat - 0x80) = c.toNat := by omega
  rw [h.ofUtf8_append, ofUtf8From]
  simp only [continueSequence, if_pos hb, hmore, hnumber, Char.ofNat_toNat]
  rfl

/-- A sequence that is not continued leaves one replacement character. -/
theorem ofUtf8_append_of_not_begins {rest : List UInt8}
    (hrest : ∀ b ∈ rest.head?, ¬Begins (read ++ [b])) :
    ofUtf8 (read ++ rest) = replacement :: ofUtf8 rest := by
  rw [h.ofUtf8_append]
  cases rest with
  | nil => rfl
  | cons b rest =>
    have hb := (not_congr h.begins_append_iff).1 (hrest b rfl)
    rw [ofUtf8From, ofUtf8, ofUtf8From]
    simp only [continueSequence, if_neg hb]
    rfl

end IsAfter

/-- Behind a part of the bytes of a character the decoder is inside a sequence. -/
theorem exists_isAfter {read : List UInt8} {c : Char} (hne : read ≠ [])
    (hread : read <+: String.utf8EncodeChar c)
    (hlength : read.length < (String.utf8EncodeChar c).length) :
    ∃ s : Sequence, s.IsAfter read := by
  -- the last byte goes on with the sequence behind the others, and does not complete it
  induction read using List.reverseRecOn with
  | nil => exact absurd rfl hne
  | append_singleton read b ih =>
    rw [List.length_append, List.length_singleton] at hlength
    rcases eq_or_ne read [] with rfl | hread'
    · have hlead := singleton_prefix_iff.1 hread
      have hle : 0x80 ≤ c.toNat := by
        by_contra hlt
        rw [length_utf8EncodeChar, if_pos (Nat.not_le.1 hlt)] at hlength
        exact absurd hlength (by decide)
      obtain ⟨s, hs⟩ := exists_ofLead c.valid hle
      exact ⟨s, isAfter_of_ofLead (hlead ▸ hs)⟩
    · have hfront : read <+: String.utf8EncodeChar c := (List.prefix_append read [b]).trans hread
      obtain ⟨s, hs⟩ := ih hread' hfront (by omega)
      have hb := hs.begins_append_iff.1 ⟨c, hread⟩
      cases hmore : s.more with
      | zero =>
        have hlast := hs.length_eq c hfront
        omega
      | succ more => exact ⟨_, hs.next hmore hb⟩

end Sequence

end SqliteAccess.Text
