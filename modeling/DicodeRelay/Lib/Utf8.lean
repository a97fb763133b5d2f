import DicodeRelay.Lib.Bytes

/-!
Contract: decoding of UTF-8 that never rejects.

Owns:
- the decoder, one byte at a time, with one replacement character for each
  maximal ill-formed part;
- that it reads back the UTF-8 bytes of every string.

Does not own: encoding.
-/

namespace DicodeRelay.Lib

def replacementChar : Char := Char.ofNat 0xFFFD

/-- A character of which some bytes are still missing: how many, the bounds of
the next one, and the bits so far. -/
structure PartialChar where
  missing : Nat
  low : Nat
  high : Nat
  bits : Nat

/-- What a byte is between characters. -/
inductive Lead where
  | single (c : Char)
  | opens (part : PartialChar)
  | invalid

/-- The bounds exclude overlong forms, surrogates and code points beyond the
last one. -/
def leadOf (b : Nat) : Lead :=
  if b < 0x80 then .single (Char.ofNat b)
  else if 0xC2 ≤ b ∧ b ≤ 0xDF then .opens ⟨1, 0x80, 0xBF, b - 0xC0⟩
  else if b = 0xE0 then .opens ⟨2, 0xA0, 0xBF, 0⟩
  else if b = 0xED then .opens ⟨2, 0x80, 0x9F, b - 0xE0⟩
  else if 0xE1 ≤ b ∧ b ≤ 0xEF then .opens ⟨2, 0x80, 0xBF, b - 0xE0⟩
  else if b = 0xF0 then .opens ⟨3, 0x90, 0xBF, 0⟩
  else if b = 0xF4 then .opens ⟨3, 0x80, 0x8F, b - 0xF0⟩
  else if 0xF1 ≤ b ∧ b ≤ 0xF3 then .opens ⟨3, 0x80, 0xBF, b - 0xF0⟩
  else .invalid

def PartialChar.accepts (part : PartialChar) (b : Nat) : Bool := part.low ≤ b ∧ b ≤ part.high

/-- The character with one more of its bytes. -/
def PartialChar.next (part : PartialChar) (b : Nat) : PartialChar :=
  ⟨part.missing - 1, 0x80, 0xBF, 64 * part.bits + (b - 0x80)⟩

/-- A byte that does not continue the open character ends it and is read
afresh. -/
def decodeFrom : Option PartialChar → Bytes → List Char
  | none, [] => []
  | some _, [] => [replacementChar]
  | none, b :: rest =>
      match leadOf b.toNat with
      | .single c => c :: decodeFrom none rest
      | .opens part => decodeFrom (some part) rest
      | .invalid => replacementChar :: decodeFrom none rest
  | some part, b :: rest =>
      if part.accepts b.toNat then
        if part.missing = 1 then Char.ofNat (part.next b.toNat).bits :: decodeFrom none rest
        else decodeFrom (some (part.next b.toNat)) rest
      else
        match leadOf b.toNat with
        | .single c => replacementChar :: c :: decodeFrom none rest
        | .opens part => replacementChar :: decodeFrom (some part) rest
        | .invalid => replacementChar :: replacementChar :: decodeFrom none rest

/-- `buffer.toString("utf8")`. -/
def utf8Decode (bytes : Bytes) : String := String.ofList (decodeFrom none bytes)

/-! ### Round trip -/

private theorem toNat_ofNat_byte {n : Nat} (small : n < 256) : (UInt8.ofNat n).toNat = n := by
  rw [UInt8.toNat_ofNat']
  omega

private theorem decode_opens {n : Nat} (small : n < 256) (part : PartialChar)
    (opens : leadOf n = .opens part) (rest : Bytes) :
    decodeFrom none (UInt8.ofNat n :: rest) = decodeFrom (some part) rest := by
  rw [decodeFrom, toNat_ofNat_byte small, opens]

private theorem decode_continues {n : Nat} (small : n < 256) {part : PartialChar}
    (accepts : part.accepts n = true) (more : part.missing ≠ 1) (rest : Bytes) :
    decodeFrom (some part) (UInt8.ofNat n :: rest) = decodeFrom (some (part.next n)) rest := by
  rw [decodeFrom, toNat_ofNat_byte small, if_pos accepts, if_neg more]

private theorem decode_closes {n : Nat} (small : n < 256) {part : PartialChar}
    (accepts : part.accepts n = true) (last : part.missing = 1) {c : Char}
    (bits : (part.next n).bits = c.toNat) (rest : Bytes) :
    decodeFrom (some part) (UInt8.ofNat n :: rest) = c :: decodeFrom none rest := by
  rw [decodeFrom, toNat_ofNat_byte small, if_pos accepts, if_pos last, bits, Char.ofNat_toNat]

/-- The lead byte of a three-byte character, and the bounds it sets. -/
private theorem leadOf_three {v : Nat} (large : 0x800 ≤ v) (small : v < 0x10000)
    (scalar : v < 0xD800 ∨ 0xDFFF < v) : ∃ low high,
    leadOf (v / 4096 + 0xE0) = .opens ⟨2, low, high, v / 4096⟩ ∧
      low ≤ v / 64 % 64 + 0x80 ∧ v / 64 % 64 + 0x80 ≤ high := by
  unfold leadOf
  rw [if_neg (by omega), if_neg (by omega)]
  split
  · rename_i zero
    exact ⟨0xA0, 0xBF, by rw [show v / 4096 = 0 by omega], by omega, by omega⟩
  · split
    · exact ⟨0x80, 0x9F, by simp, by omega, by omega⟩
    · rw [if_pos (by omega)]
      exact ⟨0x80, 0xBF, by simp, by omega, by omega⟩

/-- The lead byte of a four-byte character, and the bounds it sets. -/
private theorem leadOf_four {v : Nat} (large : 0x10000 ≤ v) (small : v < 0x110000) :
    ∃ low high, leadOf (v / 262144 + 0xF0) = .opens ⟨3, low, high, v / 262144⟩ ∧
      low ≤ v / 4096 % 64 + 0x80 ∧ v / 4096 % 64 + 0x80 ≤ high := by
  unfold leadOf
  rw [if_neg (by omega), if_neg (by omega), if_neg (by omega), if_neg (by omega),
    if_neg (by omega)]
  split
  · rename_i zero
    exact ⟨0x90, 0xBF, by rw [show v / 262144 = 0 by omega], by omega, by omega⟩
  · split
    · exact ⟨0x80, 0x8F, by simp, by omega, by omega⟩
    · rw [if_pos (by omega)]
      exact ⟨0x80, 0xBF, by simp, by omega, by omega⟩

private theorem decode_encodeChar (c : Char) (rest : Bytes) :
    decodeFrom none (String.utf8EncodeChar c ++ rest) = c :: decodeFrom none rest := by
  have value : c.val.toNat = c.toNat := rfl
  have scalar : c.toNat < 0xD800 ∨ 0xDFFF < c.toNat ∧ c.toNat < 0x110000 := c.valid
  simp only [String.utf8EncodeChar, value]
  split
  · rw [List.singleton_append, decodeFrom, toNat_ofNat_byte (by omega), leadOf,
      if_pos (by omega)]
    simp only [Char.ofNat_toNat]
  · split
    · rw [List.cons_append, List.cons_append, List.nil_append,
        decode_opens (by omega) ⟨1, 0x80, 0xBF, c.toNat / 64⟩,
        decode_closes (by omega) (by simp [PartialChar.accepts]; omega) rfl]
      · simp only [PartialChar.next]
        omega
      · rw [leadOf, if_neg (by omega), if_pos (by omega)]
        rw [show c.toNat / 64 % 32 + 192 - 0xC0 = c.toNat / 64 by omega]
    · split
      · obtain ⟨low, high, lead, above, below⟩ :=
          leadOf_three (v := c.toNat) (by omega) (by omega) (by omega)
        rw [show c.toNat / 4096 % 16 + 224 = c.toNat / 4096 + 0xE0 by omega]
        simp only [List.cons_append, List.nil_append]
        rw [decode_opens (by omega) _ lead,
          decode_continues (by omega) (by simp [PartialChar.accepts]; omega) (by simp),
          decode_closes (by omega) (by simp [PartialChar.accepts, PartialChar.next]; omega) rfl]
        simp only [PartialChar.next]
        omega
      · obtain ⟨low, high, lead, above, below⟩ :=
          leadOf_four (v := c.toNat) (by omega) (by omega)
        rw [show c.toNat / 262144 % 8 + 240 = c.toNat / 262144 + 0xF0 by omega]
        simp only [List.cons_append, List.nil_append]
        rw [decode_opens (by omega) _ lead,
          decode_continues (by omega) (by simp [PartialChar.accepts]; omega) (by simp),
          decode_continues (by omega) (by simp [PartialChar.accepts, PartialChar.next]; omega)
            (by simp [PartialChar.next]),
          decode_closes (by omega) (by simp [PartialChar.accepts, PartialChar.next]; omega) rfl]
        simp only [PartialChar.next]
        omega

theorem utf8Decode_utf8 (s : String) : utf8Decode (utf8 s) = s := by
  have chars : ∀ text : List Char,
      decodeFrom none (text.flatMap String.utf8EncodeChar) = text := by
    intro text
    induction text with
    | nil => rfl
    | cons c text inductionHypothesis =>
        rw [List.flatMap_cons, decode_encodeChar, inductionHypothesis]
  rw [utf8Decode, utf8, chars, String.ofList_toList]

end DicodeRelay.Lib
