import DicodeRelay.Lib.Bytes
import Mathlib.Tactic.SplitIfs

/-!
Contract: base64 text in both alphabets, with a decoder that never rejects.

Owns:
- padded standard encoding with its length, unpadded URL encoding, and their
  round trips;
- lenient decoding: digits of either alphabet up to the first `=`, everything
  else skipped, an incomplete last group read as far as it has whole bytes;
- what lenient decoding discards, and that the bytes and the discarded part
  together determine the text.

Does not own: strict decoding.
-/

namespace DicodeRelay.Lib

/-- Six bits, the value of one digit. -/
abbrev Sextet := Fin 64

/-- The digit of a sextet, in the standard or the URL alphabet. -/
def sextetDigit (url : Bool) (n : Sextet) : Char :=
  if n.val < 26 then Char.ofNat (n.val + 65)
  else if n.val < 52 then Char.ofNat (n.val + 71)
  else if n.val < 62 then Char.ofNat (n.val - 4)
  else if n.val = 62 then (if url then '-' else '+')
  else (if url then '_' else '/')

/-- The sextet of a digit of either alphabet. -/
def sextetValue (c : Char) : Option Sextet :=
  if 'A' ≤ c ∧ c ≤ 'Z' then some (Fin.ofNat 64 (c.toNat - 65))
  else if 'a' ≤ c ∧ c ≤ 'z' then some (Fin.ofNat 64 (c.toNat - 71))
  else if '0' ≤ c ∧ c ≤ '9' then some (Fin.ofNat 64 (c.toNat + 4))
  else if c = '+' ∨ c = '-' then some 62
  else if c = '/' ∨ c = '_' then some 63
  else none

/-- A digit that only the URL alphabet has. -/
def isUrlDigit (c : Char) : Bool := c = '-' ∨ c = '_'

/-! ### Groups -/

/-- Three bytes to four sextets; a shorter last group is zero-filled. -/
def splitGroups : Bytes → List Sextet
  | a :: b :: c :: rest =>
      Fin.ofNat 64 (a.toNat / 4) :: Fin.ofNat 64 (a.toNat % 4 * 16 + b.toNat / 16) ::
        Fin.ofNat 64 (b.toNat % 16 * 4 + c.toNat / 64) :: Fin.ofNat 64 (c.toNat % 64) ::
          splitGroups rest
  | [a, b] =>
      [Fin.ofNat 64 (a.toNat / 4), Fin.ofNat 64 (a.toNat % 4 * 16 + b.toNat / 16),
        Fin.ofNat 64 (b.toNat % 16 * 4)]
  | [a] => [Fin.ofNat 64 (a.toNat / 4), Fin.ofNat 64 (a.toNat % 4 * 16)]
  | [] => []

/-- Four sextets to three bytes; of a shorter last group, the whole bytes. -/
def joinGroups : List Sextet → Bytes
  | a :: b :: c :: d :: rest =>
      UInt8.ofNat (a.val * 4 + b.val / 16) :: UInt8.ofNat (b.val % 16 * 16 + c.val / 4) ::
        UInt8.ofNat (c.val % 4 * 64 + d.val) :: joinGroups rest
  | [a, b, c] => [UInt8.ofNat (a.val * 4 + b.val / 16), UInt8.ofNat (b.val % 16 * 16 + c.val / 4)]
  | [a, b] => [UInt8.ofNat (a.val * 4 + b.val / 16)]
  | _ => []

/-- The bits of an incomplete last group that make no whole byte. -/
def spareBits : List Sextet → Option Nat
  | _ :: _ :: _ :: _ :: rest => spareBits rest
  | [_, _, c] => some (c.val % 4)
  | [_, b] => some (b.val % 16)
  | [a] => some a.val
  | [] => none

/-- The sextets with the given whole bytes and spare bits. -/
def restoreGroups : Bytes → Option Nat → List Sextet
  | a :: b :: c :: rest, spare =>
      Fin.ofNat 64 (a.toNat / 4) :: Fin.ofNat 64 (a.toNat % 4 * 16 + b.toNat / 16) ::
        Fin.ofNat 64 (b.toNat % 16 * 4 + c.toNat / 64) :: Fin.ofNat 64 (c.toNat % 64) ::
          restoreGroups rest spare
  | [a, b], spare =>
      [Fin.ofNat 64 (a.toNat / 4), Fin.ofNat 64 (a.toNat % 4 * 16 + b.toNat / 16),
        Fin.ofNat 64 (b.toNat % 16 * 4 + spare.getD 0)]
  | [a], spare => [Fin.ofNat 64 (a.toNat / 4), Fin.ofNat 64 (a.toNat % 4 * 16 + spare.getD 0)]
  | [], spare => (spare.map fun bits => Fin.ofNat 64 bits).toList

/-! ### Text -/

/-- What stands before the first `=`. -/
def unpadded (text : List Char) : List Char := text.takeWhile (· != '=')

def base64Decode (text : List Char) : Bytes :=
  joinGroups ((unpadded text).filterMap sextetValue)

def base64urlEncode (bytes : Bytes) : String :=
  String.ofList ((splitGroups bytes).map (sextetDigit true))

def base64Encode (bytes : Bytes) : String :=
  String.ofList ((splitGroups bytes).map (sextetDigit false) ++
    List.replicate ((3 - bytes.length % 3) % 3) '=')

/-- What `base64Decode` forgets of a text. -/
structure Base64Discarded where
  /-- For each character before the first `=`, the alphabet of a digit or the
  skipped character. -/
  skeleton : List (Bool ⊕ Char)
  spare : Option Nat
  /-- Everything from the first `=`. -/
  padding : List Char
deriving DecidableEq

def skeletonOf (c : Char) : Bool ⊕ Char :=
  match sextetValue c with
  | some _ => Sum.inl (isUrlDigit c)
  | none => Sum.inr c

def base64Discarded (text : List Char) : Base64Discarded where
  skeleton := (unpadded text).map skeletonOf
  spare := spareBits ((unpadded text).filterMap sextetValue)
  padding := text.dropWhile (· != '=')

/-- The text whose digits are the given sextets. -/
def fillSkeleton : List (Bool ⊕ Char) → List Sextet → List Char
  | Sum.inl url :: skeleton, n :: sextets => sextetDigit url n :: fillSkeleton skeleton sextets
  | Sum.inr c :: skeleton, sextets => c :: fillSkeleton skeleton sextets
  | _, _ => []

/-- The text with the given bytes and discarded part. -/
def base64Restore (bytes : Bytes) (discarded : Base64Discarded) : List Char :=
  fillSkeleton discarded.skeleton (restoreGroups bytes discarded.spare) ++ discarded.padding

/-! ### Digits -/

theorem sextetValue_sextetDigit (url : Bool) (n : Sextet) :
    sextetValue (sextetDigit url n) = some n := by
  have all : ∀ (u : Bool) (k : Sextet), sextetValue (sextetDigit u k) = some k := by
    decide +kernel
  exact all url n

theorem sextetDigit_ne_padding (url : Bool) (n : Sextet) : sextetDigit url n ≠ '=' := by
  intro equal
  have value := sextetValue_sextetDigit url n
  have none : sextetValue '=' = none := by decide
  rw [equal, none] at value
  contradiction

private theorem ascii_of_sextetValue {c : Char} {n : Sextet} (value : sextetValue c = some n) :
    c.toNat < 128 := by
  have charLe : ∀ a b : Char, a ≤ b ↔ a.toNat ≤ b.toNat := fun _ _ => Iff.rfl
  have upperZ : 'Z'.toNat = 90 := rfl
  have lowerZ : 'z'.toNat = 122 := rfl
  have nine : '9'.toNat = 57 := rfl
  simp only [sextetValue, charLe, upperZ, lowerZ, nine] at value
  split_ifs at value with upper lower decimal plus slash
  · omega
  · omega
  · omega
  · rcases plus with rfl | rfl <;> decide
  · rcases slash with rfl | rfl <;> decide

/-- A digit is its sextet and its alphabet. -/
theorem sextetDigit_sextetValue {c : Char} {n : Sextet} (value : sextetValue c = some n) :
    sextetDigit (isUrlDigit c) n = c := by
  have all : ∀ code : Fin 128, (sextetValue (Char.ofNat code)).all (fun k =>
      sextetDigit (isUrlDigit (Char.ofNat code)) k == Char.ofNat code) = true := by
    decide +kernel
  have this := all ⟨c.toNat, ascii_of_sextetValue value⟩
  rw [Char.ofNat_toNat, value] at this
  simpa using this

/-! ### Round trips -/

private theorem toNat_ofNat_of_lt {n : Nat} (small : n < 256) : (UInt8.ofNat n).toNat = n := by
  rw [UInt8.toNat_ofNat']
  omega

private theorem ofNat_eq_of_toNat {b : UInt8} {n : Nat} (value : n = b.toNat) :
    UInt8.ofNat n = b := by
  rw [value]
  simp

theorem joinGroups_splitGroups (bytes : Bytes) : joinGroups (splitGroups bytes) = bytes := by
  induction bytes using splitGroups.induct with
  | case1 a b c rest inductionHypothesis =>
      have aLt : a.toNat < 256 := a.toNat_lt
      have bLt : b.toNat < 256 := b.toNat_lt
      have cLt : c.toNat < 256 := c.toNat_lt
      simp only [splitGroups, joinGroups, inductionHypothesis, Fin.ofNat, List.cons.injEq,
        and_true]
      refine ⟨ofNat_eq_of_toNat ?_, ofNat_eq_of_toNat ?_, ofNat_eq_of_toNat ?_⟩ <;> omega
  | case2 a b =>
      have aLt : a.toNat < 256 := a.toNat_lt
      have bLt : b.toNat < 256 := b.toNat_lt
      simp only [splitGroups, joinGroups, Fin.ofNat, List.cons.injEq, and_true]
      refine ⟨ofNat_eq_of_toNat ?_, ofNat_eq_of_toNat ?_⟩ <;> omega
  | case3 a =>
      have aLt : a.toNat < 256 := a.toNat_lt
      simp only [splitGroups, joinGroups, Fin.ofNat, List.cons.injEq, and_true]
      apply ofNat_eq_of_toNat
      omega
  | case4 => rfl

private theorem sextets_of_digits (url : Bool) (sextets : List Sextet) (padding : Nat) :
    (unpadded (sextets.map (sextetDigit url) ++ List.replicate padding '=')).filterMap
      sextetValue = sextets := by
  have digits : unpadded (sextets.map (sextetDigit url) ++ List.replicate padding '=') =
      sextets.map (sextetDigit url) := by
    unfold unpadded
    rw [List.takeWhile_append_of_pos]
    · cases padding <;> simp [List.replicate_succ]
    · intro c member
      obtain ⟨n, _, rfl⟩ := List.mem_map.mp member
      simpa using sextetDigit_ne_padding url n
  rw [digits, List.filterMap_map]
  have values : sextetValue ∘ sextetDigit url = some := by
    funext n
    exact sextetValue_sextetDigit url n
  rw [values, List.filterMap_some]

theorem base64Decode_base64Encode (bytes : Bytes) :
    base64Decode (base64Encode bytes).toList = bytes := by
  rw [base64Decode, base64Encode, String.toList_ofList, sextets_of_digits,
    joinGroups_splitGroups]

theorem base64Decode_base64urlEncode (bytes : Bytes) :
    base64Decode (base64urlEncode bytes).toList = bytes := by
  have unpaddedDigits := sextets_of_digits true (splitGroups bytes) 0
  rw [List.replicate_zero, List.append_nil] at unpaddedDigits
  rw [base64Decode, base64urlEncode, String.toList_ofList, unpaddedDigits,
    joinGroups_splitGroups]

/-! ### What decoding discards -/

theorem restoreGroups_joinGroups (sextets : List Sextet) :
    restoreGroups (joinGroups sextets) (spareBits sextets) = sextets := by
  induction sextets using joinGroups.induct with
  | case1 a b c d rest inductionHypothesis =>
      simp only [joinGroups, spareBits, restoreGroups, inductionHypothesis, List.cons.injEq,
        and_true]
      rw [toNat_ofNat_of_lt (by omega), toNat_ofNat_of_lt (by omega), toNat_ofNat_of_lt (by omega)]
      refine ⟨?_, ?_, ?_, ?_⟩ <;> apply Fin.ext <;> simp only [Fin.ofNat] <;> omega
  | case2 a b c =>
      simp only [joinGroups, spareBits, restoreGroups, List.cons.injEq, and_true, Option.getD_some]
      rw [toNat_ofNat_of_lt (by omega), toNat_ofNat_of_lt (by omega)]
      refine ⟨?_, ?_, ?_⟩ <;> apply Fin.ext <;> simp only [Fin.ofNat] <;> omega
  | case3 a b =>
      simp only [joinGroups, spareBits, restoreGroups, List.cons.injEq, and_true, Option.getD_some]
      rw [toNat_ofNat_of_lt (by omega)]
      refine ⟨?_, ?_⟩ <;> apply Fin.ext <;> simp only [Fin.ofNat] <;> omega
  | case4 sextets notFour notThree notTwo =>
      match sextets with
      | [] => rfl
      | [a] => simp [joinGroups, spareBits, restoreGroups]
      | [a, b] => exact absurd rfl (notTwo a b)
      | [a, b, c] => exact absurd rfl (notThree a b c)
      | a :: b :: c :: d :: rest => exact absurd rfl (notFour a b c d rest)

private theorem fillSkeleton_skeletonOf (text : List Char) :
    fillSkeleton (text.map skeletonOf) (text.filterMap sextetValue) = text := by
  induction text with
  | nil => rfl
  | cons c rest inductionHypothesis =>
      cases value : sextetValue c with
      | none => simp [skeletonOf, value, fillSkeleton, inductionHypothesis]
      | some n =>
          simp [skeletonOf, value, fillSkeleton, inductionHypothesis,
            sextetDigit_sextetValue value]

theorem base64Restore_base64Decode (text : List Char) :
    base64Restore (base64Decode text) (base64Discarded text) = text := by
  simp only [base64Restore, base64Decode, base64Discarded]
  rw [restoreGroups_joinGroups, fillSkeleton_skeletonOf]
  exact List.takeWhile_append_dropWhile

/-- The bytes read and the discarded part determine the text. -/
theorem base64Decode_discarded_injective {left right : List Char}
    (decoded : base64Decode left = base64Decode right)
    (discarded : base64Discarded left = base64Discarded right) : left = right := by
  rw [← base64Restore_base64Decode left, ← base64Restore_base64Decode right, decoded, discarded]

/-! ### Lengths -/

private theorem splitGroups_length (bytes : Bytes) :
    (splitGroups bytes).length = (4 * bytes.length + 2) / 3 := by
  fun_induction splitGroups bytes with
  | case1 a b c rest inductionHypothesis =>
      simp only [List.length_cons, inductionHypothesis]
      omega
  | case2 => simp only [List.length_cons, List.length_nil]
  | case3 => simp only [List.length_cons, List.length_nil]
  | case4 => rfl

/-- Base64 has four bytes for every three, the last ones padded. -/
theorem utf8_base64Encode_length (bytes : Bytes) :
    (utf8 (base64Encode bytes)).length = 4 * ((bytes.length + 2) / 3) := by
  have digits : ∀ (url : Bool) (n : Sextet),
      (String.utf8EncodeChar (sextetDigit url n)).length = 1 := by
    decide +kernel
  have padding : (String.utf8EncodeChar '=').length = 1 := by decide
  simp only [utf8, base64Encode, String.toList_ofList, List.length_flatMap, List.map_append,
    List.map_map, List.sum_append, List.map_replicate, Function.comp_def, digits, padding,
    List.map_const', List.sum_replicate_nat, splitGroups_length, Nat.mul_one]
  omega

end DicodeRelay.Lib
