import DicodeRelay.Client.Identity
import DicodeRelay.Lib.Buffers
import DicodeRelay.Lib.Der

/-!
Contract: the DER form of a signature.

Owns:
- the array that `p1363ToDer` fills, offset by offset;
- that it is a minimal DER sequence of the two halves of the signature.

Does not own: what is signed; how a verifier reads keys.
-/

namespace DicodeRelay.Client

open DicodeRelay.Lib

/-! ### The array -/

/-- `p1363ToDer`, write by write; `none`: a `set` throws. -/
def p1363ToDerBuffer (p1363 : Bytes) : Option Bytes :=
  let r := trimAndPad (p1363.take 32)
  let s := trimAndPad ((p1363.drop 32).take 32)
  let seqLen := r.length + s.length + 4
  let out := zeroed (2 + seqLen)
  let out := out.set 0 0x30
  let out := out.set 1 (UInt8.ofNat seqLen)
  let out := out.set 2 0x02
  let out := out.set 3 (UInt8.ofNat r.length)
  (blit out 4 r).bind fun out =>
    let i := 4 + r.length
    let out := out.set i 0x02
    let out := out.set (i + 1) (UInt8.ofNat s.length)
    blit out (i + 2) s

/-- The four octets before the first integer's contents. -/
theorem set_header (b₀ b₁ b₂ b₃ : UInt8) (free : Nat) :
    ((((zeroed (free + 4)).set 0 b₀).set 1 b₁).set 2 b₂).set 3 b₃ =
      filled [b₀, b₁, b₂, b₃] free := by
  have first : (zeroed (free + 4)).set 0 b₀ = filled [b₀] (free + 3) := set_filled [] _ b₀
  have second : (filled [b₀] (free + 3)).set 1 b₁ = filled [b₀, b₁] (free + 2) :=
    set_filled [b₀] _ b₁
  have third : (filled [b₀, b₁] (free + 2)).set 2 b₂ = filled [b₀, b₁, b₂] (free + 1) :=
    set_filled [b₀, b₁] _ b₂
  have fourth : (filled [b₀, b₁, b₂] (free + 1)).set 3 b₃ = filled [b₀, b₁, b₂, b₃] free :=
    set_filled [b₀, b₁, b₂] _ b₃
  rw [first, second, third, fourth]

/-- The writes fill the array from its first place to its last. -/
theorem p1363ToDerBuffer_eq (p1363 : Bytes) :
    p1363ToDerBuffer p1363 = some (p1363ToDer p1363) := by
  unfold p1363ToDerBuffer p1363ToDer
  generalize trimAndPad (p1363.take 32) = r
  generalize trimAndPad ((p1363.drop 32).take 32) = s
  have size : 2 + (r.length + s.length + 4) = r.length + (s.length + 0 + 2) + 4 := by omega
  dsimp only
  rw [size, set_header]
  generalize headed : [0x30, UInt8.ofNat (r.length + s.length + 4), 0x02,
    UInt8.ofNat r.length] = header
  have four : header.length = 4 := by rw [← headed]; rfl
  have copied := blit_filled header r (s.length + 0 + 2)
  rw [four] at copied
  have reached : (header ++ r).length = 4 + r.length := by rw [List.length_append, four]
  have tagged := set_filled (header ++ r) (s.length + 0 + 1) 0x02
  rw [reached] at tagged
  have reached' : ((header ++ r) ++ [0x02]).length = 4 + r.length + 1 := by
    rw [List.length_append, reached, List.length_singleton]
  have counted := set_filled ((header ++ r) ++ [0x02]) (s.length + 0) (UInt8.ofNat s.length)
  rw [reached'] at counted
  have reached'' : (((header ++ r) ++ [0x02]) ++ [UInt8.ofNat s.length]).length =
      4 + r.length + 2 := by
    rw [List.length_append, reached', List.length_singleton]
  have last := blit_filled (((header ++ r) ++ [0x02]) ++ [UInt8.ofNat s.length]) s 0
  rw [reached'', filled_zero] at last
  rw [copied, Option.bind_some, tagged, counted, last, ← headed]
  simp [derInteger]

/-! ### The integers -/

theorem beNat_trimZeros (int : Bytes) : beNat (trimZeros int) = beNat int := by
  fun_induction trimZeros int with
  | case1 b rest inductionHypothesis => rw [inductionHypothesis, beNat_zero_cons]
  | case2 => rfl

/-- What is left of an integer begins with a zero only if that is all of it. -/
theorem trimZeros_eq_cons {int : Bytes} (nonempty : int ≠ []) :
    ∃ first rest, trimZeros int = first :: rest ∧ (first = 0 → rest = []) ∧
      (first :: rest).length ≤ int.length := by
  fun_induction trimZeros int with
  | case1 b rest inductionHypothesis =>
      obtain ⟨first, others, equal, trimmed, shorter⟩ := inductionHypothesis (by simp)
      exact ⟨first, others, equal, trimmed, Nat.le_succ_of_le shorter⟩
  | case2 int kept =>
      obtain ⟨first, rest, rfl⟩ := List.exists_cons_of_ne_nil nonempty
      refine ⟨first, rest, rfl, ?_, Nat.le_refl _⟩
      rintro rfl
      cases rest with
      | nil => rfl
      | cons second others => exact absurd rfl (kept second others)

/-- The contents of the integer are minimal, and the sign costs one octet. -/
theorem unsigned_trimAndPad {int : Bytes} (nonempty : int ≠ []) :
    Unsigned (trimAndPad int) (beNat int) ∧ (trimAndPad int).length ≤ int.length + 1 := by
  obtain ⟨first, rest, equal, trimmed, shorter⟩ := trimZeros_eq_cons nonempty
  have unsigned := unsigned_of_trimmed trimmed
  rw [← equal, beNat_trimZeros, equal] at unsigned
  rw [trimAndPad, equal]
  refine ⟨unsigned, ?_⟩
  dsimp only
  split
  · exact Nat.succ_le_succ shorter
  · exact Nat.le_succ_of_le shorter

/-! ### The sequence -/

theorem p1363ToDer_eq (p1363 : Bytes) :
    p1363ToDer p1363 = shortElement 0x30
      (shortElement 0x02 (trimAndPad (p1363.take 32)) ++
        shortElement 0x02 (trimAndPad ((p1363.drop 32).take 32))) := by
  have length : (shortElement 0x02 (trimAndPad (p1363.take 32)) ++
      shortElement 0x02 (trimAndPad ((p1363.drop 32).take 32))).length =
      (trimAndPad (p1363.take 32)).length + (trimAndPad ((p1363.drop 32).take 32)).length + 4 := by
    simp only [shortElement, List.length_append, List.length_cons]
    omega
  rw [p1363ToDer, shortElement, length]
  rfl

/-- From r and s, each of 32 bytes, to a sequence of two minimal integers without a
sign, in short lengths, from which a strict reader has r and s back. -/
theorem p1363ToDer_strict {p1363 : Bytes} (width : p1363.length = 64) :
    ∃ r s, p1363ToDerBuffer p1363 =
        some (shortElement 0x30 (shortElement 0x02 r ++ shortElement 0x02 s)) ∧
      (shortElement 0x02 r ++ shortElement 0x02 s).length < 0x80 ∧
      r.length < 0x80 ∧ s.length < 0x80 ∧
      Unsigned r (beNat (p1363.take 32)) ∧ Unsigned s (beNat (p1363.drop 32)) ∧
      readIntegerPair (shortElement 0x30 (shortElement 0x02 r ++ shortElement 0x02 s)) =
        some ((beNat (p1363.take 32) : Int), (beNat (p1363.drop 32) : Int)) := by
  have half : (p1363.take 32).length = 32 := by
    rw [List.length_take]
    omega
  have half' : (p1363.drop 32).length = 32 := by
    rw [List.length_drop]
    omega
  have whole : (p1363.drop 32).take 32 = p1363.drop 32 := List.take_of_length_le (by omega)
  have rNonempty : p1363.take 32 ≠ [] := List.ne_nil_of_length_pos (by omega)
  have sNonempty : p1363.drop 32 ≠ [] := List.ne_nil_of_length_pos (by omega)
  have rIs := unsigned_trimAndPad rNonempty
  have sIs := unsigned_trimAndPad sNonempty
  have built := p1363ToDerBuffer_eq p1363
  rw [p1363ToDer_eq, whole] at built
  have short : (shortElement 0x02 (trimAndPad (p1363.take 32)) ++
      shortElement 0x02 (trimAndPad (p1363.drop 32))).length < 0x80 := by
    simp only [shortElement, List.length_append, List.length_cons]
    omega
  exact ⟨_, _, built, short, by omega, by omega, rIs.1, sIs.1,
    readIntegerPair_shortElement rIs.1 sIs.1 short⟩

/-- A zero half, and one whose sign bit is set behind a leading zero. -/
theorem p1363ToDer_strict_edge :
    (p1363ToDerBuffer (List.replicate 32 0 ++ 0 :: 0x80 :: List.replicate 30 0)).bind
      readIntegerPair = some (0, 2 ^ 247) := by
  obtain ⟨_, _, built, _, _, _, _, _, read⟩ :=
    @p1363ToDer_strict (List.replicate 32 0 ++ 0 :: 0x80 :: List.replicate 30 0) rfl
  rw [built, Option.bind_some, read]
  decide +kernel

end DicodeRelay.Client
