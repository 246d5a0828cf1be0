import SqliteAccess.Text.Basic

/-!
# UTF-8

Bytes are read as UTF-8, and every maximal part of a sequence that cannot be continued is read as
one replacement character. The decoder keeps what it has read of a sequence together with the
ranges in which the next bytes have to lie. The ranges of a first continuation byte exclude the
overlong forms, the surrogates and the numbers beyond the last code point.

A decoding divides bytes into the sequences of characters and into parts that are no text. Where no
character stands, the part is as long as it can be: the longest front of the bytes with which some
character begins, or a single byte where there is none. The relation does not mention the decoder,
only which bytes each character has.

## Main definitions

* `Text.Sequence` : a sequence that waits for continuation bytes.
* `Text.ofUtf8` : the text of a byte list.
* `Text.toUtf8` : the bytes of a text.
* `Text.Begins` : the bytes with which some character begins.
* `Text.IsInvalidPart` : the parts that are no text, with what stands behind them.
* `Text.Decodes` : the decodings of bytes.
-/

namespace SqliteAccess.Text

/-- The character in place of bytes that are no text. -/
def replacement : Char := '\ufffd'

/-- A sequence that has been started and waits for continuation bytes. -/
structure Sequence where
  /-- The bits that have been read. -/
  value : Nat
  /-- The range of the next continuation byte. -/
  low : Nat
  /-- The end of that range. -/
  high : Nat
  /-- How many continuation bytes follow the next one. -/
  more : Nat
  deriving DecidableEq

/-- The sequence that a lead byte outside ASCII starts. -/
def Sequence.ofLead (n : Nat) : Option Sequence :=
  if 0xc2 ≤ n ∧ n ≤ 0xdf then some ⟨n - 0xc0, 0x80, 0xbf, 0⟩
  else if n = 0xe0 then some ⟨0, 0xa0, 0xbf, 1⟩
  else if n = 0xed then some ⟨0xd, 0x80, 0x9f, 1⟩
  else if 0xe1 ≤ n ∧ n ≤ 0xef then some ⟨n - 0xe0, 0x80, 0xbf, 1⟩
  else if n = 0xf0 then some ⟨0, 0x90, 0xbf, 2⟩
  else if n = 0xf4 then some ⟨4, 0x80, 0x8f, 2⟩
  else if 0xf1 ≤ n ∧ n ≤ 0xf3 then some ⟨n - 0xf0, 0x80, 0xbf, 2⟩
  else none

/-- What a byte at the start of a sequence yields: characters, and the sequence that it starts. -/
def startSequence (n : Nat) : Text × Option Sequence :=
  if n < 0x80 then ([Char.ofNat n], none)
  else
    match Sequence.ofLead n with
    | some s => ([], some s)
    | none => ([replacement], none)

/-- What the next byte yields inside a sequence. A byte out of range ends the sequence with one
replacement character and is read as the start of another one. -/
def continueSequence (s : Sequence) (n : Nat) : Text × Option Sequence :=
  if s.low ≤ n ∧ n ≤ s.high then
    let value := s.value * 64 + (n - 0x80)
    match s.more with
    | 0 => ([Char.ofNat value], none)
    | more + 1 => ([], some ⟨value, 0x80, 0xbf, more⟩)
  else
    let (text, next) := startSequence n
    (replacement :: text, next)

/-- Reads bytes, possibly from inside a sequence. -/
def ofUtf8From (state : Option Sequence) : List UInt8 → Text
  | [] => if state.isSome then [replacement] else []
  | b :: rest =>
    let (text, next) := match state with
      | none => startSequence b.toNat
      | some s => continueSequence s b.toNat
    text ++ ofUtf8From next rest

/-- The text of a byte list. -/
def ofUtf8 (bytes : List UInt8) : Text := ofUtf8From none bytes

/-- The bytes of a text. -/
def toUtf8 (text : Text) : List UInt8 := text.flatMap String.utf8EncodeChar

/-- A number that may be that of a character is that of its character. -/
theorem toNat_charOfNat {n : Nat} (h : n.isValidChar) : (Char.ofNat n).toNat = n := by
  rw [Char.ofNat, dif_pos h]
  rfl

@[simp]
theorem ofUtf8_nil : ofUtf8 [] = [] := rfl

/-- An ASCII byte is read as the character with its number. -/
theorem ofUtf8_ascii_cons {b : UInt8} (h : b.toNat < 0x80) (rest : List UInt8) :
    ofUtf8 (b :: rest) = Char.ofNat b.toNat :: ofUtf8 rest := by
  simp [ofUtf8, ofUtf8From, startSequence, h]

theorem toUtf8_append (s t : Text) : toUtf8 (s ++ t) = toUtf8 s ++ toUtf8 t := by
  simp [toUtf8]

/-! ### Decodings of bytes -/

/-- Whether the sequence of some character begins with the bytes. -/
def Begins (bytes : List UInt8) : Prop := ∃ c, bytes <+: String.utf8EncodeChar c

/-- Whether the bytes may count as one part that is no text: a character begins with them, or they
are a single byte. -/
def IsPart (bytes : List UInt8) : Prop := bytes ≠ [] ∧ (Begins bytes ∨ bytes.length = 1)

/-- A part that is no text, in front of `rest`. -/
structure IsInvalidPart (part rest : List UInt8) : Prop where
  isPart : IsPart part
  /-- No character stands there. -/
  illFormed : ∀ c, ¬String.utf8EncodeChar c <+: part ++ rest
  /-- No longer front of the bytes is such a part. -/
  longest : ∀ front, front <+: part ++ rest → IsPart front → front.length ≤ part.length

/-- The decodings of bytes: a character where one stands, and one replacement character for every
part that is no text. -/
inductive Decodes : List UInt8 → Text → Prop
  | done : Decodes [] []
  | character (c : Char) {rest : List UInt8} {text : Text} (hrest : Decodes rest text) :
      Decodes (String.utf8EncodeChar c ++ rest) (c :: text)
  | invalid {part rest : List UInt8} {text : Text} (hpart : IsInvalidPart part rest)
      (hrest : Decodes rest text) : Decodes (part ++ rest) (replacement :: text)

theorem Begins.of_prefix {p q : List UInt8} (h : Begins q) (hp : p <+: q) : Begins p := by
  obtain ⟨c, hc⟩ := h
  exact ⟨c, hp.trans hc⟩

end SqliteAccess.Text
