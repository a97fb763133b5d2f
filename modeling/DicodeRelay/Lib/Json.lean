import DicodeRelay.Lib.Hex
import Mathlib.Data.List.TakeDrop
import Mathlib.Tactic.SplitIfs

/-!
Contract: JSON values, their text, and a parser for it.

Owns:
- JSON values with exact decimal numbers and members in order of appearance;
- writing a value without insignificant white space;
- a parser for the whole grammar, and that it reads back every written value.

Does not own: rounding of numbers; texts with lone surrogates, which are read
as the replacement character.
-/

namespace DicodeRelay.Lib

/-- A JSON value. The number is `mantissa * 10 ^ exponent`. -/
inductive Json where
  | null
  | bool (value : Bool)
  | num (mantissa exponent : Int)
  | str (value : String)
  | arr (items : List Json)
  | obj (members : List (String × Json))

/-- The number `mantissa * 10 ^ exponent`. -/
structure Decimal where
  mantissa : Int
  exponent : Int
deriving DecidableEq

namespace Decimal

def ofNat (n : Nat) : Decimal := ⟨n, 0⟩

/-- The number is at most `n`. -/
def atMost (d : Decimal) (n : Nat) : Bool :=
  if 0 ≤ d.exponent then d.mantissa * 10 ^ d.exponent.toNat ≤ n
  else d.mantissa ≤ n * 10 ^ (-d.exponent).toNat

@[simp] theorem atMost_ofNat (m n : Nat) : (ofNat m).atMost n = decide (m ≤ n) := by
  simp [atMost, ofNat]

end Decimal

namespace Json

def ofNat (n : Nat) : Json := .num n 0

/-- The value of a member; of two members with one key the later counts. -/
def field (key : String) : Json → Option Json
  | .obj members => (members.reverse.find? fun member => member.1 = key).map Prod.snd
  | _ => none

def asString : Json → Option String
  | .str value => some value
  | _ => none

/-- The number, when it is an integer. -/
def asInt : Json → Option Int
  | .num mantissa exponent =>
      if 0 ≤ exponent then some (mantissa * 10 ^ exponent.toNat)
      else if mantissa % 10 ^ (-exponent).toNat = 0 then some (mantissa / 10 ^ (-exponent).toNat)
      else none
  | _ => none

/-- The number, as written. -/
def asNumber : Json → Option Decimal
  | .num mantissa exponent => some ⟨mantissa, exponent⟩
  | _ => none

/-! ### Writing -/

/-- The character inside a string literal. -/
def escapeChar (c : Char) : List Char :=
  if c = '"' then ['\\', '"']
  else if c = '\\' then ['\\', '\\']
  else if c.toNat = 8 then ['\\', 'b']
  else if c.toNat = 9 then ['\\', 't']
  else if c.toNat = 10 then ['\\', 'n']
  else if c.toNat = 12 then ['\\', 'f']
  else if c.toNat = 13 then ['\\', 'r']
  else if c.toNat < 32 then
    ['\\', 'u', '0', '0', hexDigit false (c.toNat / 16), hexDigit false (c.toNat % 16)]
  else [c]

def writeString (s : String) : List Char := '"' :: s.toList.flatMap escapeChar ++ ['"']

def writeInt (n : Int) : List Char :=
  if n < 0 then '-' :: Nat.toDigits 10 n.natAbs else Nat.toDigits 10 n.natAbs

def writeNum (mantissa exponent : Int) : List Char :=
  if exponent = 0 then writeInt mantissa else writeInt mantissa ++ 'e' :: writeInt exponent

mutual

def write : Json → List Char
  | .null => ['n', 'u', 'l', 'l']
  | .bool true => ['t', 'r', 'u', 'e']
  | .bool false => ['f', 'a', 'l', 's', 'e']
  | .num mantissa exponent => writeNum mantissa exponent
  | .str value => writeString value
  | .arr items => '[' :: writeItems items ++ [']']
  | .obj members => '{' :: writeMembers members ++ ['}']

def writeItems : List Json → List Char
  | [] => []
  | [item] => write item
  | item :: items => write item ++ ',' :: writeItems items

def writeMembers : List (String × Json) → List Char
  | [] => []
  | [(key, value)] => writeString key ++ ':' :: write value
  | (key, value) :: members => writeString key ++ ':' :: write value ++ ',' :: writeMembers members

end

/-- `JSON.stringify`. -/
def stringify (value : Json) : String := String.ofList (write value)

/-! ### Reading -/

def isSpace (c : Char) : Bool := c = ' ' ∨ c = '\t' ∨ c = '\n' ∨ c = '\r'

def skipSpace (text : List Char) : List Char := text.dropWhile isSpace

def readHex4 : List Char → Option (Nat × List Char)
  | a :: b :: c :: d :: rest => do
      let a ← hexValue a
      let b ← hexValue b
      let c ← hexValue c
      let d ← hexValue d
      return (4096 * a + 256 * b + 16 * c + d, rest)
  | _ => none

/-- The code units of a string literal up to its closing quote, and the rest.
A character outside the basic plane stands as itself. -/
def readUnits : Nat → List Char → Option (List Nat × List Char)
  | 0, _ => none
  | _, [] => none
  | fuel + 1, c :: rest =>
      if c = '"' then some ([], rest)
      else if c = '\\' then
        match rest with
        | '"' :: rest => (readUnits fuel rest).map fun r => (34 :: r.1, r.2)
        | '\\' :: rest => (readUnits fuel rest).map fun r => (92 :: r.1, r.2)
        | '/' :: rest => (readUnits fuel rest).map fun r => (47 :: r.1, r.2)
        | 'b' :: rest => (readUnits fuel rest).map fun r => (8 :: r.1, r.2)
        | 'f' :: rest => (readUnits fuel rest).map fun r => (12 :: r.1, r.2)
        | 'n' :: rest => (readUnits fuel rest).map fun r => (10 :: r.1, r.2)
        | 'r' :: rest => (readUnits fuel rest).map fun r => (13 :: r.1, r.2)
        | 't' :: rest => (readUnits fuel rest).map fun r => (9 :: r.1, r.2)
        | 'u' :: rest => do
            let (unit, rest) ← readHex4 rest
            let (units, rest) ← readUnits fuel rest
            return (unit :: units, rest)
        | _ => none
      else if c.toNat < 32 then none
      else (readUnits fuel rest).map fun r => (c.toNat :: r.1, r.2)

/-- Escaped surrogate pairs are one character, lone surrogates the replacement
character. -/
def joinUnits : List Nat → List Char
  | [] => []
  | [unit] => [if 55296 ≤ unit ∧ unit < 57344 then Char.ofNat 65533 else Char.ofNat unit]
  | first :: second :: rest =>
      if 55296 ≤ first ∧ first < 56320 ∧ 56320 ≤ second ∧ second < 57344 then
        Char.ofNat (65536 + (first - 55296) * 1024 + (second - 56320)) :: joinUnits rest
      else if 55296 ≤ first ∧ first < 57344 then Char.ofNat 65533 :: joinUnits (second :: rest)
      else Char.ofNat first :: joinUnits (second :: rest)

/-- The rest of a string literal after its opening quote. -/
def readString (text : List Char) : Option (String × List Char) :=
  (readUnits (text.length + 1) text).map fun r => (String.ofList (joinUnits r.1), r.2)

/-- A run of digits without a needless leading zero. -/
def readNat (text : List Char) : Option (Nat × List Char) :=
  match text with
  | '0' :: rest => some (0, rest)
  | _ =>
      let (digits, rest) := text.span Char.isDigit
      if digits = [] then none else some (Nat.ofDigitChars 10 digits 0, rest)

/-- The digits after a decimal point, and how many they are. -/
def readFraction (text : List Char) : Option (List Char × List Char) :=
  match text with
  | '.' :: rest =>
      let (digits, rest) := rest.span Char.isDigit
      if digits = [] then none else some (digits, rest)
  | _ => some ([], text)

def readSigned (text : List Char) : Option (Int × List Char) :=
  let (negative, digits) := match text with
    | '-' :: rest => (true, rest)
    | '+' :: rest => (false, rest)
    | _ => (false, text)
  let (digits, rest) := digits.span Char.isDigit
  if digits = [] then none
  else
    let magnitude : Int := Nat.ofDigitChars 10 digits 0
    some (if negative then -magnitude else magnitude, rest)

def readExponent (text : List Char) : Option (Int × List Char) :=
  match text with
  | 'e' :: rest => readSigned rest
  | 'E' :: rest => readSigned rest
  | _ => some (0, text)

/-- The magnitude and the exponent of an unsigned literal. -/
def readUnsigned (text : List Char) : Option (Int × Int × List Char) := do
  let (whole, text) ← readNat text
  let (fraction, text) ← readFraction text
  let (exponent, text) ← readExponent text
  return (Nat.ofDigitChars 10 fraction whole, exponent - fraction.length, text)

def readNum : List Char → Option (Json × List Char)
  | '-' :: rest => (readUnsigned rest).map fun r => (.num (-r.1) r.2.1, r.2.2)
  | text => (readUnsigned text).map fun r => (.num r.1 r.2.1, r.2.2)

mutual

def readValue : Nat → List Char → Option (Json × List Char)
  | 0, _ => none
  | fuel + 1, text =>
      match skipSpace text with
      | 'n' :: 'u' :: 'l' :: 'l' :: rest => some (.null, rest)
      | 't' :: 'r' :: 'u' :: 'e' :: rest => some (.bool true, rest)
      | 'f' :: 'a' :: 'l' :: 's' :: 'e' :: rest => some (.bool false, rest)
      | '"' :: rest => (readString rest).map fun r => (.str r.1, r.2)
      | '[' :: rest =>
          match skipSpace rest with
          | ']' :: rest => some (.arr [], rest)
          | _ => (readItems fuel rest).map fun r => (.arr r.1, r.2)
      | '{' :: rest =>
          match skipSpace rest with
          | '}' :: rest => some (.obj [], rest)
          | _ => (readMembers fuel rest).map fun r => (.obj r.1, r.2)
      | text => readNum text

/-- The items of a nonempty array, up to its closing bracket. -/
def readItems : Nat → List Char → Option (List Json × List Char)
  | 0, _ => none
  | fuel + 1, text => do
      let (item, rest) ← readValue fuel text
      match skipSpace rest with
      | ',' :: rest =>
          let (items, rest) ← readItems fuel rest
          return (item :: items, rest)
      | ']' :: rest => some ([item], rest)
      | _ => none

/-- The members of a nonempty object, up to its closing brace. -/
def readMembers : Nat → List Char → Option (List (String × Json) × List Char)
  | 0, _ => none
  | fuel + 1, text => do
      match skipSpace text with
      | '"' :: rest =>
          let (key, rest) ← readString rest
          match skipSpace rest with
          | ':' :: rest =>
              let (value, rest) ← readValue fuel rest
              match skipSpace rest with
              | ',' :: rest =>
                  let (members, rest) ← readMembers fuel rest
                  return ((key, value) :: members, rest)
              | '}' :: rest => some ([(key, value)], rest)
              | _ => none
          | _ => none
      | _ => none

end

/-- `JSON.parse`; `none` where it throws. -/
def parse (text : String) : Option Json :=
  match readValue (text.toList.length + 1) text.toList with
  | some (value, rest) => if skipSpace rest = [] then some value else none
  | none => none

/-! ### String literals -/

private theorem readUnits_escapeChar (fuel : Nat) (c : Char) (rest : List Char) :
    readUnits (fuel + 1) (escapeChar c ++ rest) =
      (readUnits fuel rest).map fun r => (c.toNat :: r.1, r.2) := by
  have escape : ¬ '\\' = '"' := by decide
  unfold escapeChar
  split_ifs with quote backslash backspace tab newline formFeed return_ control
  · subst quote
    simp only [List.cons_append, List.nil_append, readUnits, escape, if_false, if_true]
    rfl
  · subst backslash
    simp only [List.cons_append, List.nil_append, readUnits, escape, if_false, if_true]
    rfl
  · simp only [List.cons_append, List.nil_append, readUnits, escape, if_false, if_true, backspace]
  · simp only [List.cons_append, List.nil_append, readUnits, escape, if_false, if_true, tab]
  · simp only [List.cons_append, List.nil_append, readUnits, escape, if_false, if_true, newline]
  · simp only [List.cons_append, List.nil_append, readUnits, escape, if_false, if_true, formFeed]
  · simp only [List.cons_append, List.nil_append, readUnits, escape, if_false, if_true, return_]
  · have zero : hexValue '0' = some 0 := by decide
    have high : hexValue (hexDigit false (c.toNat / 16)) = some (c.toNat / 16) :=
      hexValue_hexDigit false (by omega)
    have low : hexValue (hexDigit false (c.toNat % 16)) = some (c.toNat % 16) :=
      hexValue_hexDigit false (by omega)
    have unit : 4096 * 0 + 256 * 0 + 16 * (c.toNat / 16) + c.toNat % 16 = c.toNat := by omega
    simp only [List.cons_append, List.nil_append, readUnits, escape, if_false, if_true, readHex4,
      zero, high, low, Option.pure_def, Option.bind_eq_bind, Option.bind_some, unit]
    cases readUnits fuel rest <;> rfl
  · simp only [List.cons_append, List.nil_append, readUnits, quote, backslash, control, if_false]

private theorem readUnits_flatMap (chars rest : List Char) (fuel : Nat)
    (enough : chars.length < fuel) :
    readUnits fuel (chars.flatMap escapeChar ++ '"' :: rest) =
      some (chars.map Char.toNat, rest) := by
  induction chars generalizing fuel with
  | nil =>
      obtain ⟨fuel, rfl⟩ := Nat.exists_eq_succ_of_ne_zero (Nat.ne_of_gt enough)
      rfl
  | cons c chars inductionHypothesis =>
      obtain ⟨fuel, rfl⟩ := Nat.exists_eq_succ_of_ne_zero (Nat.ne_of_gt (Nat.zero_lt_of_lt enough))
      rw [List.flatMap_cons, List.append_assoc, readUnits_escapeChar,
        inductionHypothesis fuel (by simpa using enough)]
      rfl

private theorem joinUnits_cons (c : Char) (units : List Nat) :
    joinUnits (c.toNat :: units) = c :: joinUnits units := by
  have valid : c.toNat < 55296 ∨ 57344 ≤ c.toNat := by
    have := c.valid
    rcases this with low | ⟨high, _⟩
    · exact Or.inl low
    · exact Or.inr high
  cases units with
  | nil =>
      simp only [joinUnits]
      rw [if_neg (by omega), Char.ofNat_toNat]
  | cons unit units =>
      rw [joinUnits, if_neg (by omega), if_neg (by omega), Char.ofNat_toNat]

private theorem joinUnits_map_toNat (chars : List Char) :
    joinUnits (chars.map Char.toNat) = chars := by
  induction chars with
  | nil => rfl
  | cons c chars inductionHypothesis =>
      rw [List.map_cons, joinUnits_cons, inductionHypothesis]

private theorem length_le_flatMap_escapeChar (chars : List Char) :
    chars.length ≤ (chars.flatMap escapeChar).length := by
  induction chars with
  | nil => exact Nat.le_refl _
  | cons c chars inductionHypothesis =>
      have nonempty : 1 ≤ (escapeChar c).length := by
        unfold escapeChar
        split_ifs <;> simp
      rw [List.flatMap_cons, List.length_append, List.length_cons]
      omega

theorem readString_flatMap (value : String) (rest : List Char) :
    readString (value.toList.flatMap escapeChar ++ '"' :: rest) = some (value, rest) := by
  have longer := length_le_flatMap_escapeChar value.toList
  rw [readString, readUnits_flatMap _ _ _ (by simp only [List.length_append]; omega)]
  simp [joinUnits_map_toNat]

/-! ### Number literals -/

/-- What may stand right after a value in a written text. -/
def Ends (rest : List Char) : Prop := ∀ c ∈ rest.head?, c = ',' ∨ c = ']' ∨ c = '}'

private theorem ends_nil : Ends [] := by simp [Ends]

private theorem ends_cons {c : Char} (closes : c = ',' ∨ c = ']' ∨ c = '}') (rest : List Char) :
    Ends (c :: rest) := by
  simpa [Ends] using closes

private theorem span_digits {digits rest : List Char} (all : ∀ c ∈ digits, c.isDigit = true)
    (stops : ∀ c ∈ rest.head?, c.isDigit = false) :
    (digits ++ rest).span Char.isDigit = (digits, rest) := by
  rw [List.span_eq_takeWhile_dropWhile, List.takeWhile_append_of_pos all,
    List.dropWhile_append_of_pos all]
  cases rest with
  | nil => simp
  | cons c rest =>
      have notDigit := stops c rfl
      simp [notDigit]

private theorem isDigit_toDigits (n : Nat) : ∀ c ∈ Nat.toDigits 10 n, c.isDigit = true :=
  fun _ member => Nat.isDigit_of_mem_toDigits (by decide) (by decide) member

private theorem head_toDigits_ne_zero {n : Nat} (positive : 0 < n) (rest : List Char) :
    Nat.toDigits 10 n ≠ '0' :: rest := by
  induction n using Nat.strongRecOn generalizing rest with
  | ind n inductionHypothesis =>
      rcases Nat.lt_or_ge n 10 with small | large
      · rw [Nat.toDigits_of_lt_base small]
        have all : ∀ k : Fin 10, 0 < k.val → k.val.digitChar ≠ '0' := by decide
        intro equal
        exact all ⟨n, small⟩ positive (List.cons.inj equal).1
      · rw [Nat.toDigits_of_base_le (by decide) large]
        intro equal
        obtain ⟨head, tail, split⟩ := List.exists_cons_of_ne_nil
          (Nat.toDigits_ne_nil (n := n / 10) (b := 10))
        rw [split, List.cons_append] at equal
        have zero := (List.cons.inj equal).1
        exact inductionHypothesis (n / 10) (by omega) (by omega) tail (zero ▸ split)

private theorem readNat_toDigits (n : Nat) {rest : List Char}
    (stops : ∀ c ∈ rest.head?, c.isDigit = false) :
    readNat (Nat.toDigits 10 n ++ rest) = some (n, rest) := by
  rcases Nat.eq_zero_or_pos n with rfl | positive
  · rfl
  · unfold readNat
    split
    · rename_i tail equal
      obtain ⟨head, digits, split⟩ := List.exists_cons_of_ne_nil
        (Nat.toDigits_ne_nil (n := n) (b := 10))
      rw [split, List.cons_append] at equal
      exact absurd ((List.cons.inj equal).1 ▸ split) (head_toDigits_ne_zero positive digits)
    · simp only [span_digits (isDigit_toDigits n) stops, Nat.toDigits_ne_nil, if_false,
        Nat.ofDigitChars_ten_toDigits]

private theorem toDigits_cons (n : Nat) :
    ∃ head tail, Nat.toDigits 10 n = head :: tail ∧ head.isDigit = true := by
  obtain ⟨head, tail, split⟩ := List.exists_cons_of_ne_nil
    (Nat.toDigits_ne_nil (n := n) (b := 10))
  exact ⟨head, tail, split, isDigit_toDigits n head (by simp [split])⟩

private theorem readSigned_writeInt (n : Int) {rest : List Char}
    (stops : ∀ c ∈ rest.head?, c.isDigit = false) :
    readSigned (writeInt n ++ rest) = some (n, rest) := by
  unfold writeInt
  split
  · rename_i negative
    unfold readSigned
    simp only [List.cons_append, span_digits (isDigit_toDigits _) stops, Nat.toDigits_ne_nil,
      if_false, Nat.ofDigitChars_ten_toDigits, if_true, Option.some.injEq, Prod.mk.injEq, and_true]
    omega
  · rename_i nonnegative
    obtain ⟨head, tail, split, digit⟩ := toDigits_cons n.natAbs
    have notMinus : head ≠ '-' := by rintro rfl; contradiction
    have notPlus : head ≠ '+' := by rintro rfl; contradiction
    have digits := span_digits (isDigit_toDigits n.natAbs) stops
    have value := Nat.ofDigitChars_ten_toDigits (n := n.natAbs)
    rw [split] at digits value ⊢
    unfold readSigned
    simp only [List.cons_append] at digits ⊢
    split
    · rename_i equal
      exact absurd (List.cons.inj equal).1 notMinus
    · rename_i equal
      exact absurd (List.cons.inj equal).1 notPlus
    · rw [digits]
      simp only [List.cons_ne_nil, if_false, Bool.false_eq_true, Option.some.injEq, Prod.mk.injEq,
        and_true, value]
      omega

private theorem ends_not_digit {rest : List Char} (ends : Ends rest) :
    ∀ c ∈ rest.head?, c.isDigit = false := by
  intro c member
  rcases ends c member with rfl | rfl | rfl <;> decide

private theorem readFraction_of_not_point {text : List Char}
    (noPoint : ∀ c ∈ text.head?, c ≠ '.') : readFraction text = some ([], text) := by
  unfold readFraction
  split
  · exact absurd rfl (noPoint '.' rfl)
  · rfl

private theorem readExponent_of_ends {rest : List Char} (ends : Ends rest) :
    readExponent rest = some (0, rest) := by
  unfold readExponent
  split
  · rcases ends 'e' rfl with absurdity | absurdity | absurdity <;>
      exact absurd absurdity (by decide)
  · rcases ends 'E' rfl with absurdity | absurdity | absurdity <;>
      exact absurd absurdity (by decide)
  · rfl

/-- The exponent of a written number. -/
private def writeExponent (exponent : Int) : List Char :=
  if exponent = 0 then [] else 'e' :: writeInt exponent

private theorem readUnsigned_toDigits (n : Nat) (exponent : Int) {rest : List Char}
    (ends : Ends rest) :
    readUnsigned (Nat.toDigits 10 n ++ (writeExponent exponent ++ rest)) =
      some ((n : Int), exponent, rest) := by
  unfold writeExponent readUnsigned
  split
  · rename_i zero
    have noPoint : ∀ c ∈ rest.head?, c ≠ '.' := by
      intro c member
      rcases ends c member with rfl | rfl | rfl <;> decide
    rw [List.nil_append, readNat_toDigits n (ends_not_digit ends)]
    simp [readFraction_of_not_point noPoint, readExponent_of_ends ends, zero]
  · rw [List.cons_append, readNat_toDigits n (by simp)]
    have noPoint : ∀ c ∈ ('e' :: (writeInt exponent ++ rest)).head?, c ≠ '.' := by
      simp
    simp [readFraction_of_not_point noPoint, readExponent,
      readSigned_writeInt exponent (ends_not_digit ends)]

theorem readNum_writeNum (mantissa exponent : Int) {rest : List Char} (ends : Ends rest) :
    readNum (writeNum mantissa exponent ++ rest) = some (.num mantissa exponent, rest) := by
  have split : writeNum mantissa exponent ++ rest =
      writeInt mantissa ++ (writeExponent exponent ++ rest) := by
    unfold writeNum writeExponent
    split <;> simp
  rw [split, writeInt]
  have unsigned := readUnsigned_toDigits mantissa.natAbs exponent ends
  split
  · rename_i negative
    rw [List.cons_append, readNum, unsigned]
    simp only [Option.map_some, Option.some.injEq, Prod.mk.injEq, Json.num.injEq, and_true]
    omega
  · rename_i nonnegative
    obtain ⟨head, tail, digits, digit⟩ := toDigits_cons mantissa.natAbs
    unfold readNum
    split
    · rename_i equal
      rw [digits, List.cons_append] at equal
      rw [(List.cons.inj equal).1] at digit
      contradiction
    · rw [unsigned]
      simp only [Option.map_some, Option.some.injEq, Prod.mk.injEq, Json.num.injEq, and_true]
      omega

/-! ### Values -/

private theorem skipSpace_cons {c : Char} (notSpace : isSpace c = false) (rest : List Char) :
    skipSpace (c :: rest) = c :: rest := by
  simp [skipSpace, notSpace]

/-- A written number starts with a digit or a minus sign. -/
private theorem writeNum_cons (mantissa exponent : Int) :
    ∃ head tail, writeNum mantissa exponent = head :: tail ∧
      (head.isDigit = true ∨ head = '-') := by
  obtain ⟨head, tail, digits, digit⟩ := toDigits_cons mantissa.natAbs
  unfold writeNum writeInt
  split <;> split <;> simp [digits, digit]

private theorem not_space_of_numeric {c : Char} (numeric : c.isDigit = true ∨ c = '-') :
    isSpace c = false := by
  rw [isSpace, decide_eq_false_iff_not]
  rintro (rfl | rfl | rfl | rfl) <;> revert numeric <;> decide

/-- What starts like a number is read as one. -/
private theorem readValue_of_number {head : Char} {tail : List Char} (fuel : Nat)
    (numeric : head.isDigit = true ∨ head = '-') :
    readValue (fuel + 1) (head :: tail) = readNum (head :: tail) := by
  rw [readValue, skipSpace_cons (not_space_of_numeric numeric)]
  split
  all_goals first
    | (exfalso; rename_i equal; rcases numeric with digit | minus
       · rw [(List.cons.inj equal).1] at digit; contradiction
       · rw [(List.cons.inj equal).1] at minus; contradiction)
    | rfl

/-- A written value starts with neither white space nor a closing bracket. -/
private theorem write_cons (value : Json) :
    ∃ head tail, write value = head :: tail ∧ isSpace head = false ∧ head ≠ ']' := by
  match value with
  | .null => exact ⟨'n', _, rfl, by decide, by decide⟩
  | .bool true => exact ⟨'t', _, rfl, by decide, by decide⟩
  | .bool false => exact ⟨'f', _, rfl, by decide, by decide⟩
  | .num mantissa exponent =>
      obtain ⟨head, tail, text, numeric⟩ := writeNum_cons mantissa exponent
      refine ⟨head, tail, text, not_space_of_numeric numeric, ?_⟩
      rintro rfl
      revert numeric
      decide
  | .str value => exact ⟨'"', _, rfl, by decide, by decide⟩
  | .arr items => exact ⟨'[', _, rfl, by decide, by decide⟩
  | .obj members => exact ⟨'{', _, rfl, by decide, by decide⟩

private theorem writeItems_cons (item : Json) (items : List Json) :
    ∃ more, writeItems (item :: items) = write item ++ more := by
  cases items with
  | nil => exact ⟨[], by simp [writeItems]⟩
  | cons next items => exact ⟨',' :: writeItems (next :: items), rfl⟩

private theorem writeMembers_cons (key : String) (value : Json)
    (members : List (String × Json)) :
    ∃ more, writeMembers ((key, value) :: members) = '"' :: more := by
  cases members with
  | nil => exact ⟨_, rfl⟩
  | cons next members => exact ⟨_, rfl⟩

/-- With this much fuel every shorter text reads back. -/
private structure ReadsBack (fuel : Nat) : Prop where
  value : ∀ value rest, (write value).length < fuel → Ends rest →
    readValue fuel (write value ++ rest) = some (value, rest)
  items : ∀ item items rest, (writeItems (item :: items)).length + 1 < fuel →
    readItems fuel (writeItems (item :: items) ++ ']' :: rest) = some (item :: items, rest)
  members : ∀ key value members rest,
    (writeMembers ((key, value) :: members)).length + 1 < fuel →
    readMembers fuel (writeMembers ((key, value) :: members) ++ '}' :: rest) =
      some ((key, value) :: members, rest)

private theorem readValue_write {fuel : Nat} (smaller : ReadsBack fuel) (value : Json)
    (rest : List Char) (enough : (write value).length < fuel + 1) (ends : Ends rest) :
    readValue (fuel + 1) (write value ++ rest) = some (value, rest) := by
  match value with
  | .null => rfl
  | .bool true => rfl
  | .bool false => rfl
  | .num mantissa exponent =>
      obtain ⟨head, tail, text, numeric⟩ := writeNum_cons mantissa exponent
      have read := readNum_writeNum mantissa exponent ends
      rw [write]
      rw [text, List.cons_append] at read ⊢
      rw [readValue_of_number fuel numeric, read]
  | .str value =>
      have read := readString_flatMap value rest
      simp only [write, writeString, List.cons_append, List.append_assoc, List.nil_append,
        readValue, skipSpace_cons (show isSpace '"' = false by decide), read, Option.map_some]
  | .arr [] => rfl
  | .arr (item :: items) =>
      simp only [write, List.length_cons, List.length_append, List.length_nil] at enough
      have read := smaller.items item items rest (by omega)
      obtain ⟨head, tail, text, notSpace, notBracket⟩ := write_cons item
      obtain ⟨more, itemsText⟩ := writeItems_cons item items
      have start : writeItems (item :: items) ++ ']' :: rest =
          head :: (tail ++ more ++ ']' :: rest) := by
        rw [itemsText, text]
        simp
      simp only [write, List.cons_append, List.append_assoc, List.nil_append, readValue,
        skipSpace_cons (show isSpace '[' = false by decide)]
      rw [start] at read ⊢
      rw [skipSpace_cons notSpace]
      split
      · rename_i equal
        exact absurd (List.cons.inj equal).1 notBracket
      · rw [read]
        rfl
  | .obj [] => rfl
  | .obj ((key, value) :: members) =>
      simp only [write, List.length_cons, List.length_append, List.length_nil] at enough
      have read := smaller.members key value members rest (by omega)
      obtain ⟨more, membersText⟩ := writeMembers_cons key value members
      simp only [write, List.cons_append, List.append_assoc, List.nil_append, readValue,
        skipSpace_cons (show isSpace '{' = false by decide)]
      rw [membersText, List.cons_append] at read ⊢
      rw [skipSpace_cons (by decide)]
      split
      · rename_i equal
        exact absurd (List.cons.inj equal).1 (by decide)
      · rw [read]
        rfl

private theorem readItems_write {fuel : Nat} (smaller : ReadsBack fuel) (item : Json)
    (items : List Json) (rest : List Char)
    (enough : (writeItems (item :: items)).length + 1 < fuel + 1) :
    readItems (fuel + 1) (writeItems (item :: items) ++ ']' :: rest) =
      some (item :: items, rest) := by
  match items with
  | [] =>
      simp only [writeItems] at enough ⊢
      have read := smaller.value item (']' :: rest) (by omega) (ends_cons (by decide) _)
      simp only [readItems, read, Option.bind_eq_bind, Option.bind_some,
        skipSpace_cons (show isSpace ']' = false by decide)]
  | next :: items =>
      simp only [writeItems, List.length_append, List.length_cons] at enough
      have read := smaller.value item (',' :: (writeItems (next :: items) ++ ']' :: rest))
        (by omega) (ends_cons (by decide) _)
      have others := smaller.items next items rest (by omega)
      simp only [writeItems, List.append_assoc, List.cons_append]
      simp only [readItems, read, Option.bind_eq_bind, Option.bind_some,
        skipSpace_cons (show isSpace ',' = false by decide), others, Option.pure_def]

private theorem readMembers_write {fuel : Nat} (smaller : ReadsBack fuel) (key : String)
    (value : Json) (members : List (String × Json)) (rest : List Char)
    (enough : (writeMembers ((key, value) :: members)).length + 1 < fuel + 1) :
    readMembers (fuel + 1) (writeMembers ((key, value) :: members) ++ '}' :: rest) =
      some ((key, value) :: members, rest) := by
  match members with
  | [] =>
      simp only [writeMembers, List.length_append, List.length_cons] at enough
      have readKey := readString_flatMap key (':' :: (write value ++ '}' :: rest))
      have read := smaller.value value ('}' :: rest) (by omega) (ends_cons (by decide) _)
      simp only [writeMembers, writeString, List.append_assoc, List.cons_append, List.nil_append]
      simp only [readMembers, skipSpace_cons (show isSpace '"' = false by decide), readKey,
        Option.bind_eq_bind, Option.bind_some, skipSpace_cons (show isSpace ':' = false by decide),
        read, skipSpace_cons (show isSpace '}' = false by decide)]
  | (nextKey, nextValue) :: members =>
      simp only [writeMembers, List.length_append, List.length_cons] at enough
      have readKey := readString_flatMap key (':' :: (write value ++ ',' ::
        (writeMembers ((nextKey, nextValue) :: members) ++ '}' :: rest)))
      have read := smaller.value value
        (',' :: (writeMembers ((nextKey, nextValue) :: members) ++ '}' :: rest))
        (by omega) (ends_cons (by decide) _)
      have others := smaller.members nextKey nextValue members rest (by omega)
      have text : writeMembers ((key, value) :: (nextKey, nextValue) :: members) ++ '}' :: rest =
          '"' :: (key.toList.flatMap escapeChar ++ '"' :: ':' :: (write value ++ ',' ::
            (writeMembers ((nextKey, nextValue) :: members) ++ '}' :: rest))) := by
        simp [writeMembers, writeString]
      rw [text]
      simp only [readMembers, skipSpace_cons (show isSpace '"' = false by decide), readKey,
        Option.bind_eq_bind, Option.bind_some, skipSpace_cons (show isSpace ':' = false by decide),
        read, skipSpace_cons (show isSpace ',' = false by decide), others, Option.pure_def]

private theorem readsBack (fuel : Nat) : ReadsBack fuel := by
  induction fuel with
  | zero => constructor <;> intros <;> omega
  | succ fuel inductionHypothesis =>
      exact ⟨readValue_write inductionHypothesis, readItems_write inductionHypothesis,
        readMembers_write inductionHypothesis⟩

/-- Every written value reads back. -/
theorem parse_stringify (value : Json) : parse (stringify value) = some value := by
  have read := (readsBack ((write value).length + 1)).value value [] (by omega) ends_nil
  rw [List.append_nil] at read
  rw [parse, stringify, String.toList_ofList, read]
  rfl

end Json

end DicodeRelay.Lib
