import DicodeRelay.Lib.Text
import DicodeRelay.Lib.Utf8

/-!
Contract: percent-escapes in text.

Owns:
- escaping of the characters of a set, as the UTF-8 bytes they have;
- `decodeURIComponent`, which rejects malformed escapes and bytes that are no
  UTF-8;
- that it undoes escaping, and leaves exactly the text without `%` as it is.

Does not own: which characters a component of a URL escapes.
-/

namespace DicodeRelay.Lib

/-- The text with the characters of the set escaped. -/
def percentEncode (set : Char → Bool) (text : List Char) : List Char :=
  text.flatMap fun c => if set c then (String.utf8EncodeChar c).flatMap escapeByte else [c]

/-- The bytes a text stands for; `none` when a `%` is not followed by two hex
digits. -/
def percentDecode : List Char → Option Bytes
  | [] => some []
  | '%' :: high :: low :: rest =>
      match hexValue high, hexValue low with
      | some h, some l => (percentDecode rest).map (UInt8.ofNat (16 * h + l) :: ·)
      | _, _ => none
  | c :: rest =>
      if c = '%' then none else (percentDecode rest).map (String.utf8EncodeChar c ++ ·)

/-- The text of well-formed UTF-8. -/
def utf8DecodeStrict (bytes : Bytes) : Option String :=
  if utf8 (utf8Decode bytes) = bytes then some (utf8Decode bytes) else none

/-- `decodeURIComponent(text)`; `none`: it throws. -/
def decodeURIComponent (text : String) : Option String :=
  (percentDecode text.toList).bind utf8DecodeStrict

/-! ### Bytes -/

theorem utf8DecodeStrict_utf8 (text : String) : utf8DecodeStrict (utf8 text) = some text := by
  rw [utf8DecodeStrict, utf8Decode_utf8, if_pos rfl]

theorem utf8_of_utf8DecodeStrict {bytes : Bytes} {text : String}
    (decoded : utf8DecodeStrict bytes = some text) : utf8 text = bytes := by
  unfold utf8DecodeStrict at decoded
  split at decoded
  · rename_i valid
    rw [← Option.some.inj decoded, valid]
  · contradiction

theorem percentDecode_cons {c : Char} (plain : c ≠ '%') (rest : List Char) :
    percentDecode (c :: rest) = (percentDecode rest).map (String.utf8EncodeChar c ++ ·) := by
  rw [percentDecode, if_neg plain]
  exact fun high low rest' percent => absurd percent plain

theorem percentDecode_escapeByte (b : UInt8) (rest : List Char) :
    percentDecode (escapeByte b ++ rest) = (percentDecode rest).map (b :: ·) := by
  have bLt : b.toNat < 256 := b.toNat_lt
  have high : hexValue (hexDigit true (b.toNat / 16)) = some (b.toNat / 16) :=
    hexValue_hexDigit true (by omega)
  have low : hexValue (hexDigit true (b.toNat % 16)) = some (b.toNat % 16) :=
    hexValue_hexDigit true (by omega)
  have recombined : 16 * (b.toNat / 16) + b.toNat % 16 = b.toNat := by omega
  simp only [escapeByte, hexPair, List.cons_append, List.nil_append, percentDecode, high, low,
    recombined, UInt8.ofNat_toNat]

theorem percentDecode_escapes (bytes : Bytes) (rest : List Char) :
    percentDecode (bytes.flatMap escapeByte ++ rest) = (percentDecode rest).map (bytes ++ ·) := by
  induction bytes with
  | nil => simp
  | cons b bytes inductionHypothesis =>
      rw [List.flatMap_cons, List.append_assoc, percentDecode_escapeByte, inductionHypothesis,
        Option.map_map]
      rfl

/-! ### Escaping and back -/

/-- Escaping is undone, if it escapes the `%` of the text. -/
theorem percentDecode_percentEncode (set : Char → Bool) {text : List Char}
    (escaped : '%' ∈ text → set '%' = true) :
    percentDecode (percentEncode set text) = some (text.flatMap String.utf8EncodeChar) := by
  induction text with
  | nil => rfl
  | cons c rest inductionHypothesis =>
      have decoded := inductionHypothesis fun member => escaped (List.mem_cons_of_mem _ member)
      rw [percentEncode, List.flatMap_cons, ← percentEncode]
      by_cases inSet : set c = true
      · rw [if_pos inSet, percentDecode_escapes, decoded, Option.map_some, List.flatMap_cons]
      · have plain : c ≠ '%' := by
          rintro rfl
          exact inSet (escaped List.mem_cons_self)
        rw [if_neg inSet, List.singleton_append, percentDecode_cons plain, decoded,
          Option.map_some, List.flatMap_cons]

theorem decodeURIComponent_percentEncode {set : Char → Bool} {text : List Char}
    (escaped : '%' ∈ text → set '%' = true) :
    decodeURIComponent (String.ofList (percentEncode set text)) = some (String.ofList text) := by
  rw [decodeURIComponent, String.toList_ofList, percentDecode_percentEncode set escaped,
    Option.bind_some, ← utf8DecodeStrict_utf8, utf8, String.toList_ofList]

theorem percentEncode_eq_self {set : Char → Bool} {text : List Char}
    (plain : ∀ c ∈ text, set c = false) : percentEncode set text = text := by
  induction text with
  | nil => rfl
  | cons c rest inductionHypothesis =>
      rw [percentEncode, List.flatMap_cons, ← percentEncode, plain c List.mem_cons_self,
        inductionHypothesis fun d member => plain d (List.mem_cons_of_mem _ member)]
      rfl

/-- Text without escapes is what nothing else is escaped to. -/
theorem percentEncode_eq_iff {set : Char → Bool} {text plain : List Char}
    (noPercent : '%' ∉ plain) (spared : ∀ c ∈ plain, set c = false) :
    percentEncode set text = plain ↔ text = plain := by
  constructor
  · intro equal
    have untouched : ∀ c ∈ text, set c = false := by
      intro c member
      by_contra escaped
      obtain ⟨b, rest, bytes⟩ := List.exists_cons_of_length_pos (l := String.utf8EncodeChar c) (by
        rw [String.length_utf8EncodeChar]
        exact c.utf8Size_pos)
      refine noPercent (equal ▸ List.mem_flatMap.mpr ⟨c, member, ?_⟩)
      rw [if_pos (by simpa using escaped), bytes]
      exact List.mem_cons_self
    exact (percentEncode_eq_self untouched).symm.trans equal
  · rintro rfl
    exact percentEncode_eq_self spared

/-- Every escape makes the text longer than what it stands for. -/
theorem length_percentDecode {text : List Char} {bytes : Bytes}
    (decoded : percentDecode text = some bytes) :
    bytes.length + text.count '%' ≤ (text.flatMap String.utf8EncodeChar).length := by
  have occupies : ∀ c : Char, 1 ≤ (String.utf8EncodeChar c).length := by
    intro c
    rw [String.length_utf8EncodeChar]
    exact c.utf8Size_pos
  induction text using percentDecode.induct generalizing bytes with
  | case1 =>
      obtain rfl := Option.some.inj decoded
      simp
  | case2 high low rest h l lowValue highValue inductionHypothesis =>
      simp only [percentDecode, highValue, lowValue, Option.map_eq_some_iff] at decoded
      obtain ⟨tail, restDecoded, rfl⟩ := decoded
      have shorter := inductionHypothesis restDecoded
      have highOccupies := occupies high
      have lowOccupies := occupies low
      have noPercent : ∀ n, hexValue '%' ≠ some n := by simp [hexValue]
      have highPlain : high ≠ '%' := by
        rintro rfl
        exact noPercent h highValue
      have lowPlain : low ≠ '%' := by
        rintro rfl
        exact noPercent l lowValue
      simp only [List.flatMap_cons, List.length_append, List.length_cons, List.count_cons_self,
        List.count_cons_of_ne highPlain, List.count_cons_of_ne lowPlain]
      have percent : (String.utf8EncodeChar '%').length = 1 := rfl
      omega
  | case3 high low rest noValue =>
      simp only [percentDecode] at decoded
      exact absurd decoded (by simp)
  | case4 rest noDigits =>
      simp [percentDecode] at decoded
  | case5 c rest noEscape plain inductionHypothesis =>
      rw [percentDecode_cons plain, Option.map_eq_some_iff] at decoded
      obtain ⟨tail, restDecoded, rfl⟩ := decoded
      have shorter := inductionHypothesis restDecoded
      rw [List.flatMap_cons, List.length_append, List.length_append,
        List.count_cons_of_ne plain]
      omega

/-- What decoding leaves as it is. -/
theorem decodeURIComponent_eq_self_iff {text : String} :
    decodeURIComponent text = some text ↔ '%' ∉ text.toList := by
  constructor
  · intro decoded percent
    obtain ⟨bytes, fromEscapes, strict⟩ := Option.bind_eq_some_iff.mp decoded
    have shorter := length_percentDecode fromEscapes
    have occurs := List.count_pos_iff.mpr percent
    rw [← utf8_of_utf8DecodeStrict strict, utf8] at shorter
    omega
  · intro plain
    have same := percentDecode_percentEncode (fun _ => false)
      fun percent => absurd percent plain
    rw [percentEncode_eq_self fun _ _ => rfl] at same
    rw [decodeURIComponent, same, Option.bind_some, ← utf8, utf8DecodeStrict_utf8]

end DicodeRelay.Lib
