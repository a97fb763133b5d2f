import Mathlib.Algebra.Ring.Int.Defs
import Mathlib.Algebra.Ring.Nat
import Mathlib.Data.List.Basic

/-!
Contract: byte strings, and the framings that read back unambiguously.

Owns:
- the UTF-8 bytes of a string, and their injectivity;
- fixed-width big-endian numbers, and their injectivity within range;
- four-byte length prefixes, and the unique split of what follows them;
- `mapM` where every item has an answer.

Does not own: text encodings of bytes.
-/

namespace DicodeRelay.Lib

abbrev Bytes := List UInt8

theorem mapM_eq_some_map {Item Value : Type} {f : Item → Option Value} {g : Item → Value}
    {items : List Item} (each : ∀ item ∈ items, f item = some (g item)) :
    items.mapM f = some (items.map g) := by
  induction items with
  | nil => rfl
  | cons item rest inductionHypothesis =>
      rw [List.mapM_cons, each item (by simp),
        inductionHypothesis fun other member => each other (by simp [member])]
      rfl

/-! ### UTF-8 -/

/-- The UTF-8 bytes of a string. -/
def utf8 (s : String) : Bytes := s.toList.flatMap String.utf8EncodeChar

theorem toByteArray_utf8 (s : String) : (utf8 s).toByteArray = s.toByteArray := by
  rw [← String.utf8Encode_toList]
  rfl

theorem utf8_injective : Function.Injective utf8 := by
  intro s t equal
  apply String.toByteArray_inj.mp
  rw [← toByteArray_utf8 s, ← toByteArray_utf8 t, equal]

/-! ### Big-endian numbers -/

/-- The low `width` bytes of `n`, most significant first. -/
def bigEndian : Nat → Nat → Bytes
  | 0, _ => []
  | width + 1, n => bigEndian width (n / 256) ++ [UInt8.ofNat n]

@[simp] theorem bigEndian_length (width n : Nat) : (bigEndian width n).length = width := by
  induction width generalizing n with
  | zero => rfl
  | succ width inductionHypothesis => simp [bigEndian, inductionHypothesis]

theorem bigEndian_injective {width m n : Nat} (mLt : m < 256 ^ width) (nLt : n < 256 ^ width)
    (equal : bigEndian width m = bigEndian width n) : m = n := by
  induction width generalizing m n with
  | zero =>
      rw [Nat.pow_zero] at mLt nLt
      omega
  | succ width inductionHypothesis =>
      have parts := List.append_inj' equal rfl
      have quotients : m / 256 = n / 256 := by
        apply inductionHypothesis _ _ parts.1
        · rw [Nat.pow_succ] at mLt
          omega
        · rw [Nat.pow_succ] at nLt
          omega
      have lastBytes : UInt8.ofNat m = UInt8.ofNat n := by simpa using parts.2
      have remainders : m % 256 = n % 256 := by
        simpa using congrArg UInt8.toNat lastBytes
      omega

/-! ### Length prefixes -/

/-- `uint32_be(len(field)) || field`. -/
def frame (field : Bytes) : Bytes := bigEndian 4 field.length ++ field

/-- Two framed fields, each followed by anything, split in one way. -/
theorem frame_append_inj {a b restA restB : Bytes} (aLt : a.length < 2 ^ 32)
    (bLt : b.length < 2 ^ 32) (equal : frame a ++ restA = frame b ++ restB) :
    a = b ∧ restA = restB := by
  unfold frame at equal
  rw [List.append_assoc, List.append_assoc] at equal
  have heads := List.append_inj equal (by simp)
  have lengths : a.length = b.length :=
    bigEndian_injective (by simpa using aLt) (by simpa using bLt) heads.1
  exact List.append_inj heads.2 lengths

/-- As many frames are the frames of one list of fields. -/
theorem frames_injective {fields₁ fields₂ : List Bytes}
    (fits₁ : ∀ field ∈ fields₁, field.length < 2 ^ 32)
    (fits₂ : ∀ field ∈ fields₂, field.length < 2 ^ 32)
    (sameLength : fields₁.length = fields₂.length)
    (equal : (fields₁.map frame).flatten = (fields₂.map frame).flatten) : fields₁ = fields₂ := by
  induction fields₁ generalizing fields₂ with
  | nil => exact (List.length_eq_zero_iff.mp sameLength.symm).symm
  | cons first rest inductionHypothesis =>
      cases fields₂ with
      | nil => simp at sameLength
      | cons first₂ rest₂ =>
          simp only [List.map_cons, List.flatten_cons] at equal
          obtain ⟨same, others⟩ := frame_append_inj (fits₁ first (by simp)) (fits₂ first₂ (by simp))
            equal
          have tails := inductionHypothesis (fun field member => fits₁ field (by simp [member]))
            (fun field member => fits₂ field (by simp [member])) (by simpa using sameLength) others
          rw [same, tails]

end DicodeRelay.Lib
