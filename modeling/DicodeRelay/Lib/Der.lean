import DicodeRelay.Lib.Bytes

/-!
Contract: integers and sequences in DER.

Owns:
- the numbers that bytes denote, unsigned and in two's complement;
- elements with a short length;
- a strict reader of a sequence of two integers, which takes only the lengths
  and the contents that DER prescribes;
- what that reader makes of elements with minimal contents.

Does not own: other types; elements whose tag has several octets.
-/

namespace DicodeRelay.Lib

/-! ### Numbers -/

/-- The unsigned number of big-endian bytes. -/
def beNat (bytes : Bytes) : Nat := bytes.foldl (fun n byte => n * 256 + byte.toNat) 0

@[simp] theorem beNat_zero_cons (bytes : Bytes) : beNat (0 :: bytes) = beNat bytes := rfl

/-- The number of big-endian bytes in two's complement. -/
def beInt : Bytes → Int
  | [] => 0
  | first :: rest =>
      if 0x80 ≤ first.toNat then (beNat (first :: rest) : Int) - 256 ^ (rest.length + 1)
      else beNat (first :: rest)

/-! ### Reading -/

/-- A length: one octet below 128, otherwise the number of the octets that
follow, as few as possible. -/
def readLength : Bytes → Option (Nat × Bytes)
  | [] => none
  | first :: rest =>
      if first.toNat < 0x80 then some (first.toNat, rest)
      else
        let count := first.toNat - 0x80
        let octets := rest.take count
        if count = 0 ∨ count = 127 ∨ rest.length < count ∨ octets.head? = some 0 ∨
            beNat octets < 0x80 then none
        else some (beNat octets, rest.drop count)

/-- The contents of an element with the tag, and what follows it. -/
def readElement (tag : UInt8) : Bytes → Option (Bytes × Bytes)
  | [] => none
  | first :: rest =>
      if first = tag then
        (readLength rest).bind fun read =>
          if read.2.length < read.1 then none
          else some (read.2.take read.1, read.2.drop read.1)
      else none

/-- An integer is never empty, and its first nine bits are not all equal. -/
def isMinimal : Bytes → Bool
  | [] => false
  | [_] => true
  | first :: second :: _ =>
      ¬(first = 0 ∧ second.toNat < 0x80) ∧ ¬(first = 0xff ∧ 0x80 ≤ second.toNat)

def readInteger (bytes : Bytes) : Option (Int × Bytes) :=
  (readElement 0x02 bytes).bind fun read =>
    if isMinimal read.1 then some (beInt read.1, read.2) else none

/-- A sequence of two integers, with nothing after them and nothing after it. -/
def readIntegerPair (bytes : Bytes) : Option (Int × Int) :=
  (readElement 0x30 bytes).bind fun sequence =>
    (readInteger sequence.1).bind fun first =>
      (readInteger first.2).bind fun second =>
        if sequence.2 = [] ∧ second.2 = [] then some (first.1, second.1) else none

/-! ### Elements -/

/-- An element whose length is one octet. -/
def shortElement (tag : UInt8) (contents : Bytes) : Bytes :=
  tag :: UInt8.ofNat contents.length :: contents

theorem readElement_shortElement (tag : UInt8) {contents : Bytes} (short : contents.length < 0x80)
    (rest : Bytes) :
    readElement tag (shortElement tag contents ++ rest) = some (contents, rest) := by
  have octet : (UInt8.ofNat contents.length).toNat = contents.length := by
    rw [UInt8.toNat_ofNat']
    omega
  have length : readLength (UInt8.ofNat contents.length :: (contents ++ rest)) =
      some (contents.length, contents ++ rest) := by
    rw [readLength, octet, if_pos short]
  have enough : ¬(contents ++ rest).length < contents.length := by
    rw [List.length_append]
    omega
  rw [shortElement, List.cons_append, List.cons_append, readElement, if_pos rfl, length,
    Option.bind_some, if_neg enough, List.take_left, List.drop_left]

/-- The contents of a minimal integer without a sign, of the given value. -/
structure Unsigned (contents : Bytes) (value : Nat) : Prop where
  minimal : isMinimal contents = true
  nonnegative : ∀ first, contents.head? = some first → first.toNat < 0x80
  value : beNat contents = value

theorem Unsigned.beInt {contents : Bytes} {value : Nat} (unsigned : Unsigned contents value) :
    beInt contents = value := by
  cases contents with
  | nil => exact absurd unsigned.minimal Bool.false_ne_true
  | cons first rest =>
      have positive := unsigned.nonnegative first rfl
      rw [Lib.beInt, if_neg (by omega), unsigned.value]

theorem readInteger_shortElement {contents : Bytes} {value : Nat}
    (unsigned : Unsigned contents value) (short : contents.length < 0x80) (rest : Bytes) :
    readInteger (shortElement 0x02 contents ++ rest) = some ((value : Int), rest) := by
  rw [readInteger, readElement_shortElement _ short, Option.bind_some, if_pos unsigned.minimal,
    unsigned.beInt]

theorem readIntegerPair_shortElement {first second : Bytes} {m n : Nat}
    (firstIs : Unsigned first m) (secondIs : Unsigned second n)
    (short : (shortElement 0x02 first ++ shortElement 0x02 second).length < 0x80) :
    readIntegerPair (shortElement 0x30 (shortElement 0x02 first ++ shortElement 0x02 second)) =
      some ((m : Int), (n : Int)) := by
  have lengths : first.length < 0x80 ∧ second.length < 0x80 := by
    simp only [shortElement, List.length_append, List.length_cons] at short
    omega
  have sequence := readElement_shortElement 0x30 short []
  have last := readInteger_shortElement secondIs lengths.2 []
  rw [List.append_nil] at sequence last
  rw [readIntegerPair, sequence, Option.bind_some, readInteger_shortElement firstIs lengths.1,
    Option.bind_some, last, Option.bind_some, if_pos ⟨rfl, rfl⟩]

/-! ### Minimal contents -/

/-- A single leading zero is kept only where it clears the sign bit. -/
theorem unsigned_of_trimmed {first : UInt8} {rest : Bytes} (trimmed : first = 0 → rest = []) :
    Unsigned (if 0x80 ≤ first.toNat then 0 :: first :: rest else first :: rest)
      (beNat (first :: rest)) := by
  by_cases high : 0x80 ≤ first.toNat
  · rw [if_pos high]
    refine ⟨?_, ?_, beNat_zero_cons _⟩
    · simp only [isMinimal, decide_eq_true_eq]
      exact ⟨fun both => by omega, fun both => absurd both.1 (by decide)⟩
    · intro byte same
      obtain rfl := Option.some.inj same
      decide
  · rw [if_neg high]
    refine ⟨?_, ?_, rfl⟩
    · cases rest with
      | nil => rfl
      | cons second others =>
          simp only [isMinimal, decide_eq_true_eq]
          refine ⟨fun both => List.cons_ne_nil _ _ (trimmed both.1), ?_⟩
          rintro ⟨rfl, _⟩
          exact high (by decide)
    · intro byte same
      obtain rfl := Option.some.inj same
      omega

end DicodeRelay.Lib
