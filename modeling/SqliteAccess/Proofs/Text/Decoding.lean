import Mathlib.Data.Nat.Find
import SqliteAccess.Proofs.Text.Sequences
import SqliteAccess.Value

/-!
# The only decoding of bytes

Every list of bytes has exactly one decoding, and it is the text that the decoder reads. So a text
that is delivered as its bytes is read back, also in front of bytes that are no text, and a broken
sequence costs one replacement character and no character behind it.

Both readings of a value take the bytes through the same decoder. A blob therefore has the cell and
the integer of a text, whatever its bytes are and however they are delivered.

## Main results

* `Text.decodes_iff` : bytes have exactly one decoding.
* `Text.ofUtf8_toUtf8_append` : the bytes of a text in front of others are read as the text.
* `Value.reads_blob_as_text` : a blob is read as the text of its bytes.
-/

namespace SqliteAccess.Text

/-! ### Characters and parts that are no text -/

/-- A character at the front of the bytes is read. -/
theorem ofUtf8_utf8EncodeChar_append (c : Char) (rest : List UInt8) :
    ofUtf8 (String.utf8EncodeChar c ++ rest) = c :: ofUtf8 rest := by
  obtain ⟨read, b, hc⟩ := (List.eq_nil_or_concat' (String.utf8EncodeChar c)).resolve_left
    String.utf8EncodeChar_ne_nil
  have hlength : (String.utf8EncodeChar c).length = read.length + 1 := by
    rw [hc, List.length_append, List.length_singleton]
  have hread : read <+: String.utf8EncodeChar c := hc ▸ List.prefix_append read [b]
  rw [hc, List.append_assoc, List.singleton_append]
  -- in front of its last byte a character outside ASCII is a sequence that waits for one byte
  rcases eq_or_ne read [] with rfl | hne
  · have hbyte : b.toNat = leadOf c.toNat := singleton_prefix_iff.1 (hc ▸ List.prefix_rfl)
    have hascii : c.toNat < 0x80 := by
      rw [length_utf8EncodeChar] at hlength
      split_ifs at hlength with hlt
      · exact hlt
      all_goals simp at hlength
    rw [leadOf, if_pos hascii] at hbyte
    rw [List.nil_append, ofUtf8_ascii_cons (hbyte ▸ hascii), hbyte, Char.ofNat_toNat]
  · obtain ⟨s, hs⟩ := Sequence.exists_isAfter hne hread (by omega)
    have hlast := hs.length_eq c hread
    have hmore : s.more = 0 := by omega
    exact hs.ofUtf8_append_last hmore hc rest

/-- A byte with which no character begins is no text. -/
theorem ofUtf8_cons_of_not_begins {b : UInt8} (hb : ¬Begins [b]) (rest : List UInt8) :
    ofUtf8 (b :: rest) = replacement :: ofUtf8 rest := by
  have hle : ¬b.toNat < 0x80 := by
    intro hlt
    refine hb ⟨Char.ofNat b.toNat, singleton_prefix_iff.2 ?_⟩
    rw [toNat_charOfNat (.inl (Nat.lt_trans hlt (by decide))), leadOf, if_pos hlt]
  have hlead : Sequence.ofLead b.toNat = none := by
    cases h : Sequence.ofLead b.toNat with
    | none => rfl
    | some s => exact absurd (Sequence.isAfter_of_ofLead h).begins hb
  rw [ofUtf8, ofUtf8From]
  simp only [startSequence, if_neg hle, hlead]
  rfl

theorem IsInvalidPart.ofUtf8_append {part rest : List UInt8} (h : IsInvalidPart part rest) :
    ofUtf8 (part ++ rest) = replacement :: ofUtf8 rest := by
  obtain ⟨hne, hpart⟩ := h.isPart
  by_cases hbegins : Begins part
  -- the decoder is inside a sequence behind the part, and no byte that follows goes on with it
  · obtain ⟨c, hc⟩ := hbegins
    have hlength : part.length < (String.utf8EncodeChar c).length := by
      refine Nat.lt_of_le_of_ne hc.length_le fun heq => h.illFormed c ?_
      rw [← hc.eq_of_length heq]
      exact List.prefix_append part rest
    obtain ⟨s, hs⟩ := Sequence.exists_isAfter hne hc hlength
    refine hs.ofUtf8_append_of_not_begins fun b hb hlonger => ?_
    obtain ⟨rest, rfl⟩ := List.head?_eq_some_iff.1 hb
    have hle := h.longest (part ++ [b]) ⟨rest, by simp⟩ ⟨by simp, .inl hlonger⟩
    rw [List.length_append, List.length_singleton] at hle
    omega
  · obtain ⟨b, rfl⟩ := List.length_eq_one_iff.1 (hpart.resolve_left hbegins)
    exact ofUtf8_cons_of_not_begins hbegins rest

/-- Where no character stands, there is a part that is no text. -/
theorem exists_isInvalidPart {bytes : List UInt8} (hne : bytes ≠ [])
    (hill : ∀ c, ¬String.utf8EncodeChar c <+: bytes) :
    ∃ part rest, bytes = part ++ rest ∧ IsInvalidPart part rest := by
  classical
  have hfirst : IsPart (bytes.take 1) := by
    obtain ⟨b, rest, rfl⟩ := List.exists_cons_of_ne_nil hne
    exact ⟨by simp, .inr (by simp)⟩
  have hpos : 1 ≤ bytes.length := List.length_pos_iff.2 hne
  obtain ⟨n, hn⟩ : ∃ n, n = Nat.findGreatest (fun n => IsPart (bytes.take n)) bytes.length :=
    ⟨_, rfl⟩
  have hsplit : bytes.take n ++ bytes.drop n = bytes := List.take_append_drop n bytes
  refine ⟨bytes.take n, bytes.drop n, hsplit.symm, ?_, ?_, fun front hfront hpart => ?_⟩
  · rw [hn]
    exact Nat.findGreatest_spec (P := fun n => IsPart (bytes.take n)) hpos hfirst
  · rwa [hsplit]
  · rw [hsplit] at hfront
    rw [List.length_take, hn, Nat.min_eq_left (Nat.findGreatest_le _)]
    refine Nat.le_findGreatest hfront.length_le ?_
    rwa [← List.prefix_iff_eq_take.1 hfront]

/-! ### The only decoding -/

theorem Decodes.eq {bytes : List UInt8} {text : Text} (h : Decodes bytes text) :
    text = ofUtf8 bytes := by
  induction h with
  | done => rfl
  | character c _ ih => rw [ofUtf8_utf8EncodeChar_append, ih]
  | invalid hpart _ ih => rw [hpart.ofUtf8_append, ih]

theorem decodes_ofUtf8 (bytes : List UInt8) : Decodes bytes (ofUtf8 bytes) := by
  induction hn : bytes.length using Nat.strongRecOn generalizing bytes with
  | ind n ih =>
  subst hn
  rcases eq_or_ne bytes [] with rfl | hne
  · exact .done
  by_cases hchar : ∃ c, String.utf8EncodeChar c <+: bytes
  · obtain ⟨c, rest, rfl⟩ := hchar
    have hpos := List.length_pos_iff.2 (String.utf8EncodeChar_ne_nil (c := c))
    rw [ofUtf8_utf8EncodeChar_append]
    exact .character c (ih _ (by rw [List.length_append]; omega) _ rfl)
  · obtain ⟨part, rest, rfl, hpart⟩ := exists_isInvalidPart hne (not_exists.1 hchar)
    have hpos := List.length_pos_iff.2 hpart.isPart.1
    rw [hpart.ofUtf8_append]
    exact .invalid hpart (ih _ (by rw [List.length_append]; omega) _ rfl)

/-- Bytes have exactly one decoding, the text that the decoder reads. -/
theorem decodes_iff {bytes : List UInt8} {text : Text} :
    Decodes bytes text ↔ text = ofUtf8 bytes :=
  ⟨Decodes.eq, fun h => h ▸ decodes_ofUtf8 bytes⟩

/-- An overlong form, a surrogate, a sequence that is cut off, and one that does not go on. -/
example :
    ofUtf8 [0xc0, 0x80] = [replacement, replacement] ∧
      ofUtf8 [0xed, 0xa0, 0x80] = [replacement, replacement, replacement] ∧
      ofUtf8 [0xe2, 0x80] = [replacement] ∧
      ofUtf8 [0xf0, 0x9f, 0x98, 0x28] = [replacement, '('] := by
  decide

/-- The bytes of a text in front of others are read as the text. -/
theorem ofUtf8_toUtf8_append (text : Text) (bytes : List UInt8) :
    ofUtf8 (toUtf8 text ++ bytes) = text ++ ofUtf8 bytes := by
  induction text with
  | nil => rfl
  | cons c text ih =>
    rw [← List.singleton_append, toUtf8_append, List.append_assoc, toUtf8, List.flatMap_singleton,
      ofUtf8_utf8EncodeChar_append, ih, List.singleton_append, List.cons_append]

end SqliteAccess.Text

namespace SqliteAccess.Value

open Text

/-- **A blob is read as a text.** The bytes of a text have the cell and the integer of the text. All
other bytes have exactly one decoding, which is their cell and has their integer, and behind the
bytes of a text they are read as they are alone. How the bytes are delivered does not matter. -/
theorem reads_blob_as_text (form : ByteForm) (bytes : List UInt8) :
    (∀ t, (blob form (toUtf8 t)).cell = some t ∧
        (blob form (toUtf8 t)).toInteger = (text t).toInteger) ∧
      (∃ decoded, (∀ t, Decodes bytes t ↔ t = decoded) ∧ (blob form bytes).cell = some decoded ∧
        (blob form bytes).toInteger = (text decoded).toInteger ∧
        ∀ t, (blob form (toUtf8 t ++ bytes)).cell = some (t ++ decoded)) ∧
      ∀ other, (blob other bytes).cell = (blob form bytes).cell ∧
        (blob other bytes).toInteger = (blob form bytes).toInteger := by
  have hfront (t : Text) (rest : List UInt8) :
      (blob form (toUtf8 t ++ rest)).cell = some (t ++ ofUtf8 rest) := by
    rw [cell, ofUtf8_toUtf8_append]
  refine ⟨fun t => ?_, ⟨ofUtf8 bytes, fun t => decodes_iff, rfl, rfl, fun t => hfront t bytes⟩,
    fun other => ⟨rfl, rfl⟩⟩
  have hwhole : ofUtf8 (toUtf8 t) = t := by
    simpa using ofUtf8_toUtf8_append t []
  rw [cell, toInteger, toInteger, hwhole]
  exact ⟨rfl, rfl⟩

end SqliteAccess.Value
