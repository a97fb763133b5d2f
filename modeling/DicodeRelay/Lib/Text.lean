import DicodeRelay.Lib.Hex

/-!
Contract: searches, numbers and URI escapes in text, as the host language reads
and writes them.

Owns:
- whether a text includes another;
- rounding of an integer to the nearest double;
- `parseInt` in base ten;
- `encodeURIComponent`.

Does not own: query strings.
-/

namespace DicodeRelay.Lib

/-- `text.includes(part)`. -/
def includes (text part : String) : Bool :=
  text.toList.tails.any fun rest => part.toList.isPrefixOf rest

/-! ### Numbers -/

/-- The double nearest to `n`, ties to even; `none` when it overflows. -/
def roundToDouble (n : Nat) : Option Nat :=
  if n < 2 ^ 53 then some n
  else
    let unit := 2 ^ (n.log2 - 52)
    let quotient := n / unit
    let remainder := n % unit
    let up := unit < 2 * remainder ∨ (unit = 2 * remainder ∧ quotient % 2 = 1)
    let rounded := (if up then quotient + 1 else quotient) * unit
    if rounded < 2 ^ 1024 then some rounded else none

/-- White space and line terminators, which `parseInt` skips at the start. -/
def isStrWhiteSpace (c : Char) : Bool :=
  let n := c.toNat
  (9 ≤ n ∧ n ≤ 13) ∨ n = 0x20 ∨ n = 0xA0 ∨ n = 0x1680 ∨ (0x2000 ≤ n ∧ n ≤ 0x200A) ∨
    n = 0x2028 ∨ n = 0x2029 ∨ n = 0x202F ∨ n = 0x205F ∨ n = 0x3000 ∨ n = 0xFEFF

def digitsValue (digits : List Char) : Nat :=
  digits.foldl (fun value c => 10 * value + (c.toNat - 48)) 0

/-- The finite number a digit prefix denotes. -/
def parseUnsigned (text : List Char) : Option Nat :=
  match text.takeWhile Char.isDigit with
  | [] => none
  | digits => roundToDouble (digitsValue digits)

/-- `parseInt(text, 10)` where it is finite: whatever follows the digits is
ignored, and `none` stands for `NaN` and the infinities. -/
def parseInt (text : String) : Option Int :=
  match text.toList.dropWhile isStrWhiteSpace with
  | '-' :: rest => (parseUnsigned rest).map fun n => -(n : Int)
  | '+' :: rest => (parseUnsigned rest).map Int.ofNat
  | rest => (parseUnsigned rest).map Int.ofNat

/-! ### URI escapes -/

/-- The characters `encodeURIComponent` leaves as they are. -/
def isUriUnescaped (c : Char) : Bool :=
  (c.isAlphanum && c.toNat < 128) || c ∈ ['-', '_', '.', '!', '~', '*', '\'', '(', ')']

def escapeByte (b : UInt8) : List Char := '%' :: hexPair (true, true) b

def encodeURIComponent (text : String) : String :=
  String.ofList (text.toList.flatMap fun c =>
    if isUriUnescaped c then [c] else (String.utf8EncodeChar c).flatMap escapeByte)

end DicodeRelay.Lib
