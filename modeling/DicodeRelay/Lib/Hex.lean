import DicodeRelay.Lib.Bytes

/-!
Contract: hexadecimal text, with a decoder that never rejects.

Owns:
- lowercase encoding;
- lenient decoding: two digits to a byte, ending at the first pair that is not
  two digits;
- what lenient decoding discards, and that the bytes and the discarded part
  together determine the text.

Does not own: separators inside hexadecimal text.
-/

namespace DicodeRelay.Lib

/-- The value of a hexadecimal digit, in either case. -/
def hexValue (c : Char) : Option Nat :=
  if '0' ≤ c ∧ c ≤ '9' then some (c.toNat - 48)
  else if 'a' ≤ c ∧ c ≤ 'f' then some (c.toNat - 87)
  else if 'A' ≤ c ∧ c ≤ 'F' then some (c.toNat - 55)
  else none

/-- An uppercase digit, the one spelling choice a digit leaves open. -/
def isUpperHex (c : Char) : Bool := 'A' ≤ c ∧ c ≤ 'F'

/-- The digit of a value below sixteen, in the given case. -/
def hexDigit (upper : Bool) (n : Nat) : Char :=
  Char.ofNat (if n < 10 then n + 48 else if upper then n + 55 else n + 87)

/-- The two digits of a byte. -/
def hexPair (upper : Bool × Bool) (b : UInt8) : List Char :=
  [hexDigit upper.1 (b.toNat / 16), hexDigit upper.2 (b.toNat % 16)]

def hexEncode (bytes : Bytes) : String :=
  String.ofList (bytes.flatMap (hexPair (false, false)))

/-- The bytes of the digit pairs up to the first pair that is not one. -/
def hexDecode : List Char → Bytes
  | high :: low :: rest =>
      match hexValue high, hexValue low with
      | some h, some l => UInt8.ofNat (16 * h + l) :: hexDecode rest
      | _, _ => []
  | _ => []

/-- What `hexDecode` forgets of a text: the case of each digit it read, and
everything from where it stopped. -/
def hexDiscarded : List Char → List (Bool × Bool) × List Char
  | high :: low :: rest =>
      match hexValue high, hexValue low with
      | some _, some _ =>
          ((isUpperHex high, isUpperHex low) :: (hexDiscarded rest).1, (hexDiscarded rest).2)
      | _, _ => ([], high :: low :: rest)
  | rest => ([], rest)

/-- The text with the given bytes and discarded part. -/
def hexRestore (bytes : Bytes) (discarded : List (Bool × Bool) × List Char) : List Char :=
  (List.zipWith hexPair discarded.1 bytes).flatten ++ discarded.2

/-! ### Digits -/

private theorem hexValue_cases {c : Char} {n : Nat} (value : hexValue c = some n) :
    (c.toNat = n + 48 ∧ n < 10 ∧ isUpperHex c = false) ∨
      (c.toNat = n + 87 ∧ 10 ≤ n ∧ n < 16 ∧ isUpperHex c = false) ∨
      (c.toNat = n + 55 ∧ 10 ≤ n ∧ n < 16 ∧ isUpperHex c = true) := by
  have charLe : ∀ a b : Char, a ≤ b ↔ a.toNat ≤ b.toNat := fun _ _ => Iff.rfl
  have zero : '0'.toNat = 48 := rfl
  have nine : '9'.toNat = 57 := rfl
  have lowerA : 'a'.toNat = 97 := rfl
  have lowerF : 'f'.toNat = 102 := rfl
  have upperA : 'A'.toNat = 65 := rfl
  have upperF : 'F'.toNat = 70 := rfl
  simp only [hexValue, isUpperHex, charLe, zero, nine, lowerA, lowerF, upperA, upperF,
    decide_eq_false_iff_not, decide_eq_true_eq] at value ⊢
  split at value
  · have := Option.some.inj value
    omega
  · split at value
    · have := Option.some.inj value
      omega
    · split at value
      · have := Option.some.inj value
        omega
      · exact absurd value (Option.some_ne_none n).symm

theorem hexValue_lt {c : Char} {n : Nat} (value : hexValue c = some n) : n < 16 := by
  have := hexValue_cases value
  omega

/-- A digit is its value and its case. -/
theorem hexDigit_hexValue {c : Char} {n : Nat} (value : hexValue c = some n) :
    hexDigit (isUpperHex c) n = c := by
  unfold hexDigit
  rcases hexValue_cases value with ⟨code, small, _⟩ | ⟨code, large, _, lower⟩ |
    ⟨code, large, _, upper⟩
  · rw [if_pos small, ← code, Char.ofNat_toNat]
  · rw [if_neg (by omega), lower, if_neg (by simp), ← code, Char.ofNat_toNat]
  · rw [if_neg (by omega), upper, if_pos rfl, ← code, Char.ofNat_toNat]

theorem hexValue_hexDigit (upper : Bool) {n : Nat} (small : n < 16) :
    hexValue (hexDigit upper n) = some n := by
  have all : ∀ (upper : Bool) (k : Fin 16), hexValue (hexDigit upper k) = some k.val := by decide
  exact all upper ⟨n, small⟩

/-! ### What decoding discards -/

private theorem hexPair_ofNat {high low : Char} {h l : Nat} (highValue : hexValue high = some h)
    (lowValue : hexValue low = some l) :
    hexPair (isUpperHex high, isUpperHex low) (UInt8.ofNat (16 * h + l)) = [high, low] := by
  have hLt := hexValue_lt highValue
  have lLt := hexValue_lt lowValue
  have value : (UInt8.ofNat (16 * h + l)).toNat = 16 * h + l := by
    rw [UInt8.toNat_ofNat']
    omega
  have quotient : (16 * h + l) / 16 = h := by omega
  have remainder : (16 * h + l) % 16 = l := by omega
  rw [hexPair, value, quotient, remainder, hexDigit_hexValue highValue,
    hexDigit_hexValue lowValue]

theorem hexRestore_hexDecode (text : List Char) :
    hexRestore (hexDecode text) (hexDiscarded text) = text := by
  induction text using hexDecode.induct with
  | case1 high low rest h l lowValue highValue inductionHypothesis =>
      simp only [hexDecode, hexDiscarded, highValue, lowValue]
      rw [hexRestore, List.zipWith_cons_cons, List.flatten_cons, hexPair_ofNat highValue lowValue,
        List.append_assoc, ← hexRestore, inductionHypothesis]
      rfl
  | case2 high low rest notDigits =>
      have stopped : hexDecode (high :: low :: rest) = [] ∧
          hexDiscarded (high :: low :: rest) = ([], high :: low :: rest) := by
        constructor
        · unfold hexDecode
          split <;> rename_i highValue lowValue
          · exact absurd lowValue (notDigits _ _ highValue)
          · rfl
        · unfold hexDiscarded
          split <;> rename_i highValue lowValue
          · exact absurd lowValue (notDigits _ _ highValue)
          · rfl
      rw [stopped.1, stopped.2]
      rfl
  | case3 rest short =>
      match rest with
      | [] => rfl
      | [_] => rfl
      | high :: low :: rest => exact absurd rfl (short high low rest)

/-- The bytes read and the discarded part determine the text. -/
theorem hexDecode_discarded_injective {left right : List Char}
    (decoded : hexDecode left = hexDecode right)
    (discarded : hexDiscarded left = hexDiscarded right) : left = right := by
  rw [← hexRestore_hexDecode left, ← hexRestore_hexDecode right, decoded, discarded]

end DicodeRelay.Lib
