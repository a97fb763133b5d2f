import DicodeRelay.Lib.Bytes

/-!
Contract: byte arrays of a fixed length, and parts of them.

Owns:
- new arrays, and copying bytes into one at an offset;
- what one write makes of an array that is filled up to there;
- parts between indices, which may count from the end, and the two parts around
  one index.

Does not own: what the bytes are.
-/

namespace DicodeRelay.Lib

/-! ### Filling -/

/-- `new Uint8Array(size)`. -/
def zeroed (size : Nat) : Bytes := List.replicate size 0

/-- `buffer.set(bytes, offset)`; `none`: they do not fit, and it throws. -/
def blit (buffer : Bytes) (offset : Nat) (bytes : Bytes) : Option Bytes :=
  if offset + bytes.length ≤ buffer.length then
    some (buffer.take offset ++ bytes ++ buffer.drop (offset + bytes.length))
  else none

/-- An array that is filled with `written` and has `free` places left. -/
def filled (written : Bytes) (free : Nat) : Bytes := written ++ zeroed free

@[simp] theorem filled_zero (written : Bytes) : filled written 0 = written := List.append_nil _

theorem length_filled (written : Bytes) (free : Nat) :
    (filled written free).length = written.length + free := by
  rw [filled, zeroed, List.length_append, List.length_replicate]

/-- `buffer[written.length] = byte`. -/
theorem set_filled (written : Bytes) (free : Nat) (byte : UInt8) :
    (filled written (free + 1)).set written.length byte = filled (written ++ [byte]) free := by
  rw [filled, zeroed, List.replicate_succ, List.set_append_right _ _ (Nat.le_refl _),
    Nat.sub_self, List.set_cons_zero, filled, zeroed, List.append_assoc]
  rfl

theorem blit_filled (written bytes : Bytes) (free : Nat) :
    blit (filled written (bytes.length + free)) written.length bytes =
      some (filled (written ++ bytes) free) := by
  have fits : written.length + bytes.length ≤ (filled written (bytes.length + free)).length := by
    rw [length_filled]
    omega
  have before : (filled written (bytes.length + free)).take written.length = written :=
    List.take_left
  have behind : (filled written (bytes.length + free)).drop (written.length + bytes.length) =
      zeroed free := by
    rw [filled, List.drop_append, List.drop_eq_nil_of_le (by omega), List.nil_append, zeroed,
      List.drop_replicate, zeroed]
    congr 1
    omega
  rw [blit, if_pos fits, before, behind]
  rfl

/-! ### Parts -/

/-- The place of an index: a negative one counts from the end, and each is
clamped. -/
def placeOf (length : Nat) (index : Int) : Nat :=
  min length (if index < 0 then length + index else index).toNat

/-- `buffer.subarray(start, stop)`. -/
def subarray (buffer : Bytes) (start stop : Int) : Bytes :=
  (buffer.take (placeOf buffer.length stop)).drop (placeOf buffer.length start)

/-- Up to an index. -/
theorem subarray_zero (buffer : Bytes) (index : Int) :
    subarray buffer 0 index = buffer.take (placeOf buffer.length index) := by
  have start : placeOf buffer.length 0 = 0 := by simp [placeOf]
  rw [subarray, start, List.drop_zero]

/-- From an index on. -/
theorem subarray_length (buffer : Bytes) (index : Int) :
    subarray buffer index buffer.length = buffer.drop (placeOf buffer.length index) := by
  have stop : placeOf buffer.length buffer.length = buffer.length := by
    unfold placeOf
    split <;> omega
  rw [subarray, stop, List.take_length]

end DicodeRelay.Lib
