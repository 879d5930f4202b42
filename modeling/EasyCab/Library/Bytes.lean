import Mathlib.Algebra.Group.Nat.Defs

/-!
# Byte strings of fixed width

`Sized n` is a byte string with the proof of its length. Numbers are laid out
least significant byte first. A reader consumes a prefix of its input and fails
rather than look past the end, so a reader that answers has stayed inside the
buffer.
-/

namespace EasyCab.Library

/-- A byte string of exactly `count` bytes. -/
abbrev Sized (count : Nat) := {bytes : List UInt8 // bytes.length = count}

namespace Sized

variable {count : Nat}

/-- Sized byte strings are equal exactly when their bytes are. -/
theorem ext {left right : Sized count} (same : left.1 = right.1) : left = right :=
  Subtype.ext same

/-- The length every sized byte string carries. -/
@[simp] theorem length (bytes : Sized count) : bytes.1.length = count := bytes.2

/-- `count` copies of one byte. -/
def fill (count : Nat) (byte : UInt8) : Sized count := ⟨List.replicate count byte, by simp⟩

/-- Copy `front` over the first bytes of a string which is long enough to hold it. -/
def overwrite (bytes : Sized count) (front : List UInt8)
    (fits : front.length ≤ count) : Sized count :=
  ⟨front ++ bytes.1.drop front.length, by simp; omega⟩

/-- One byte, which is zero past the end. -/
def byteAt (bytes : Sized count) (index : Nat) : UInt8 := bytes.1.getD index 0

/-- Write one byte. -/
def set (bytes : Sized count) (index : Nat) (byte : UInt8) : Sized count :=
  ⟨bytes.1.set index byte, by simp⟩

/-- `size` bytes from an offset on. -/
def slice (bytes : Sized count) (offset size : Nat) (fits : offset + size ≤ count) : Sized size :=
  ⟨(bytes.1.drop offset).take size, by simp; omega⟩

/-- Copy `part` over the bytes from an offset on, where there are as many of them. -/
def splice (bytes : Sized count) (offset : Nat) (part : List UInt8)
    (fits : offset + part.length ≤ count) : Sized count :=
  ⟨bytes.1.take offset ++ (part ++ bytes.1.drop (offset + part.length)), by simp; omega⟩

section Access

variable {bytes other : Sized count} {index offset size : Nat} {byte : UInt8}

theorem byteAt_set (inside : index < count) : (bytes.set index byte).byteAt index = byte := by
  simp [byteAt, set, List.getD_eq_getElem?_getD, inside]

theorem byteAt_set_ne {wanted : Nat} (apart : index ≠ wanted) :
    (bytes.set index byte).byteAt wanted = bytes.byteAt wanted := by
  simp [byteAt, set, List.getD_eq_getElem?_getD, apart]

/-- The front of an overwritten string is what was copied over it. -/
theorem byteAt_overwrite {front : List UInt8} {fits : front.length ≤ count}
    (early : index < front.length) :
    (bytes.overwrite front fits).byteAt index = front.getD index 0 := by
  simp [byteAt, overwrite, List.getD_eq_getElem?_getD, List.getElem?_append_left early]

/-- Nothing is left of a string which is overwritten by one of its own length. -/
theorem overwrite_whole (front : Sized count) {fits : front.1.length ≤ count} :
    bytes.overwrite front.1 fits = front := by
  apply Sized.ext
  simp [overwrite]

/-- A splice at the start overwrites. -/
theorem splice_zero {part : List UInt8} {fits : 0 + part.length ≤ count} :
    bytes.splice 0 part fits = bytes.overwrite part (Nat.le_trans (Nat.le_add_left _ 0) fits) := by
  apply Sized.ext
  simp [splice, overwrite]

/-- What was copied stands where it was copied to. -/
theorem slice_splice {part : List UInt8} {fits : offset + part.length ≤ count} :
    (bytes.splice offset part fits).slice offset part.length fits = ⟨part, rfl⟩ := by
  have before : (bytes.1.take offset).length = offset := by
    rw [List.length_take, bytes.length]
    omega
  apply Sized.ext
  simp only [slice, splice, List.drop_left' before, List.take_left]

/-- All other bytes are as they were. -/
theorem byteAt_splice_ne {part : List UInt8} {fits : offset + part.length ≤ count}
    (apart : index < offset ∨ offset + part.length ≤ index) :
    (bytes.splice offset part fits).byteAt index = bytes.byteAt index := by
  have before : (bytes.1.take offset).length = offset := by
    rw [List.length_take, bytes.length]
    omega
  rw [byteAt, byteAt, List.getD_eq_getElem?_getD, List.getD_eq_getElem?_getD, splice]
  rcases apart with early | late
  · rw [List.getElem?_append_left (by omega), List.getElem?_take_of_lt early]
  · have rest : offset + part.length + (index - offset - part.length) = index := by omega
    rw [List.getElem?_append_right (by omega), List.getElem?_append_right (by omega), before,
      List.getElem?_drop, rest]

/-- Slices are equal when their bytes are. -/
theorem slice_eq_slice {fits : offset + size ≤ count}
    (same : ∀ index, offset ≤ index → index < offset + size →
      bytes.byteAt index = other.byteAt index) :
    bytes.slice offset size fits = other.slice offset size fits := by
  apply Sized.ext
  apply List.ext_getElem
  · simp [slice]
  · intro index inside _
    simp only [slice, List.length_take, List.length_drop, Sized.length] at inside
    have equal := same (offset + index) (by omega) (by omega)
    have within : offset + index < count := by omega
    simpa [slice, byteAt, List.getD_eq_getElem?_getD, within] using equal

end Access

end Sized

/-! ### Blocks

A stream of blocks of one size: where a block starts, the stream goes on with that block. -/

section Blocks

variable {Block : Type} {bytes : Block → List UInt8} {size : Nat}

theorem flatMap_length_of_blocks (even : ∀ block, (bytes block).length = size)
    (blocks : List Block) : (blocks.flatMap bytes).length = size * blocks.length := by
  induction blocks with
  | nil => simp
  | cons block blocks inductionHypothesis =>
      simp [even, inductionHypothesis, Nat.mul_add, Nat.add_comm]

theorem drop_flatMap_of_blocks (even : ∀ block, (bytes block).length = size)
    (blocks : List Block) (index : Nat) :
    (blocks.flatMap bytes).drop (size * index) = (blocks.drop index).flatMap bytes := by
  induction index generalizing blocks with
  | zero => simp
  | succ index inductionHypothesis =>
      cases blocks with
      | nil => simp
      | cons block blocks =>
          rw [List.flatMap_cons, List.drop_succ_cons, ← inductionHypothesis blocks,
            Nat.mul_succ, Nat.add_comm, ← List.drop_drop]
          simp [even]

/-- Bytes taken from the start of a block, and no more than it has, are bytes of that block. -/
theorem take_drop_of_blocks (even : ∀ block, (bytes block).length = size) {blocks : List Block}
    {index count : Nat} (positive : 0 < count) (fits : count ≤ size)
    (inside : size * index + count ≤ (blocks.flatMap bytes).length) :
    ∃ block, blocks[index]? = some block ∧
      ((blocks.flatMap bytes).drop (size * index)).take count = (bytes block).take count := by
  rw [flatMap_length_of_blocks even] at inside
  have early : index < blocks.length := by
    by_cases late : blocks.length ≤ index
    · have := Nat.mul_le_mul_left size late
      omega
    · omega
  refine ⟨blocks.get ⟨index, early⟩, by simp [early], ?_⟩
  rw [drop_flatMap_of_blocks even, List.drop_eq_getElem_cons early, List.flatMap_cons,
    List.take_append_of_le_length (by rw [even]; exact fits)]
  rfl

end Blocks

/-! ### Check bytes -/

/-- The exclusive or of some bytes tells where it started. -/
theorem foldl_xor_inj {left right : UInt8} (bytes : List UInt8) :
    bytes.foldl (· ^^^ ·) left = bytes.foldl (· ^^^ ·) right ↔ left = right := by
  induction bytes generalizing left right with
  | nil => rfl
  | cons byte bytes inductionHypothesis =>
      rw [List.foldl_cons, List.foldl_cons, inductionHypothesis]
      exact UInt8.xor_left_inj byte

/-- The exclusive or of some bytes changes when one of them does. -/
theorem foldl_xor_set_inj {start byte : UInt8} {bytes : List UInt8} {index : Nat}
    (inside : index < bytes.length) :
    (bytes.set index byte).foldl (· ^^^ ·) start = bytes.foldl (· ^^^ ·) start ↔
      byte = bytes.getD index 0 := by
  induction bytes generalizing start index with
  | nil => simp at inside
  | cons head bytes inductionHypothesis =>
      cases index with
      | zero =>
          rw [List.set_cons_zero, List.foldl_cons, List.foldl_cons, foldl_xor_inj]
          simp
      | succ index =>
          rw [List.set_cons_succ, List.foldl_cons, List.foldl_cons,
            inductionHypothesis (Nat.lt_of_succ_lt_succ inside)]
          simp

/-! ### Numbers as bytes -/

/-- The `count` low bytes of a number, least significant first. -/
def littleEndian : Nat → Nat → List UInt8
  | 0, _ => []
  | count + 1, number => UInt8.ofNat number :: littleEndian count (number / 256)

/-- The number whose bytes, least significant first, are given. -/
def ofLittleEndian : List UInt8 → Nat
  | [] => 0
  | byte :: rest => byte.toNat + 256 * ofLittleEndian rest

@[simp] theorem littleEndian_length (count number : Nat) :
    (littleEndian count number).length = count := by
  induction count generalizing number with
  | zero => rfl
  | succ count inductionHypothesis => simp [littleEndian, inductionHypothesis]

/-- Reading a number back recovers it when it fits its width. -/
theorem ofLittleEndian_littleEndian {count number : Nat} (fits : number < 256 ^ count) :
    ofLittleEndian (littleEndian count number) = number := by
  induction count generalizing number with
  | zero =>
      have zero : number = 0 := by simpa using fits
      simp [littleEndian, ofLittleEndian, zero]
  | succ count inductionHypothesis =>
      have high : number / 256 < 256 ^ count := by
        rw [Nat.pow_succ] at fits
        exact Nat.div_lt_of_lt_mul (by omega)
      simp only [littleEndian, ofLittleEndian, inductionHypothesis high, UInt8.toNat_ofNat']
      omega

/-- A number which was copied over the front of a string is read back from there. -/
theorem ofLittleEndian_take_overwrite {count width number : Nat} {bytes : Sized count}
    {fits : (littleEndian width number).length ≤ count} (small : number < 256 ^ width) :
    ofLittleEndian ((bytes.overwrite (littleEndian width number) fits).1.take width) = number := by
  have front : (bytes.overwrite (littleEndian width number) fits).1.take width =
      littleEndian width number := List.take_left' (littleEndian_length width number)
  rw [front, ofLittleEndian_littleEndian small]

/-- Laying a number out again recovers its bytes. -/
theorem littleEndian_ofLittleEndian (bytes : List UInt8) :
    littleEndian bytes.length (ofLittleEndian bytes) = bytes := by
  induction bytes with
  | nil => rfl
  | cons byte rest inductionHypothesis =>
      have low : UInt8.ofNat (byte.toNat + 256 * ofLittleEndian rest) = byte := by
        apply UInt8.toNat_inj.mp
        have := byte.toNat_lt
        rw [UInt8.toNat_ofNat']
        omega
      have high : (byte.toNat + 256 * ofLittleEndian rest) / 256 = ofLittleEndian rest := by
        have := byte.toNat_lt
        omega
      rw [List.length_cons, ofLittleEndian, littleEndian, low, high, inductionHypothesis]

/-- Bytes make a number which fits their width. -/
theorem ofLittleEndian_lt (bytes : List UInt8) : ofLittleEndian bytes < 256 ^ bytes.length := by
  induction bytes with
  | nil => simp [ofLittleEndian]
  | cons byte rest inductionHypothesis =>
      have := byte.toNat_lt
      rw [ofLittleEndian, List.length_cons, Nat.pow_succ]
      omega

/-- Four bytes are those of the number which they make. -/
theorem littleEndian_uint32 {bytes : List UInt8} (size : bytes.length = 4) :
    littleEndian 4 (UInt32.ofNat (ofLittleEndian bytes)).toNat = bytes := by
  have small := ofLittleEndian_lt bytes
  have again := littleEndian_ofLittleEndian bytes
  rw [size] at small again
  rw [UInt32.toNat_ofNat', Nat.mod_eq_of_lt (by omega), again]

/-- Two bytes are those of the number which they make. -/
theorem littleEndian_uint16 {bytes : List UInt8} (size : bytes.length = 2) :
    littleEndian 2 (UInt16.ofNat (ofLittleEndian bytes)).toNat = bytes := by
  have small := ofLittleEndian_lt bytes
  have again := littleEndian_ofLittleEndian bytes
  rw [size] at small again
  rw [UInt16.toNat_ofNat', Nat.mod_eq_of_lt (by omega), again]

/-! ### Readers -/

/-- A reader answers a value and the input it left, or fails. -/
abbrev Reader (Value : Type) := List UInt8 → Option (Value × List UInt8)

/-- Take exactly `count` bytes. -/
def readBytes (count : Nat) : Reader (Sized count) := fun input =>
  if enough : count ≤ input.length then
    some (⟨input.take count, by simp [enough]⟩, input.drop count)
  else none

/-- A reader takes back what was laid out in front of the rest of the input. -/
theorem readBytes_append {count : Nat} {bytes rest : List UInt8} (size : bytes.length = count) :
    readBytes count (bytes ++ rest) = some (⟨bytes, size⟩, rest) := by
  subst size
  simp [readBytes]

/-- What was taken stood in front of what was left. -/
theorem readBytes_eq_some_iff {count : Nat} {input rest : List UInt8} {bytes : Sized count} :
    readBytes count input = some (bytes, rest) ↔ input = bytes.1 ++ rest := by
  constructor
  · intro read
    unfold readBytes at read
    split at read
    · cases read
      simp
    · cases read
  · rintro rfl
    exact readBytes_append bytes.2

/-- A reader finds its bytes where there are enough of them. -/
theorem exists_readBytes {count : Nat} {input : List UInt8} (enough : count ≤ input.length) :
    ∃ (bytes : Sized count) (rest : List UInt8), readBytes count input = some (bytes, rest) ∧
      input.length = count + rest.length := by
  refine ⟨⟨input.take count, by simp [enough]⟩, input.drop count, dif_pos enough, ?_⟩
  rw [List.length_drop]
  omega

end EasyCab.Library
