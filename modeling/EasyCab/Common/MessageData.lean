import Mathlib.Tactic.ByContra
import EasyCab.Common.Protocols
import EasyCab.Library.Readers

/-!
# The data of a message

`setData` copies an object of any type into the data array. The room it leaves for the object is
a `size_t` from which an `int` is taken away: past the end of the array, and before its start,
there seems to be more room than there is. A copy which leaves the array answers nothing.
-/

namespace EasyCab

open Library

/-- The bytes of an object. Its size is a `size_t`, which is never zero. -/
structure Object where
  bytes : List UInt8
  nonempty : 0 < bytes.length
  addressable : bytes.length < sizeLimit

namespace Object

/-- `sizeof`. -/
def size (object : Object) : Nat := object.bytes.length

/-- An `int`. -/
def ofInt (value : Int32) : Object where
  bytes := littleEndian 4 value.toUInt32.toNat
  nonempty := by rw [littleEndian_length]; decide
  addressable := by rw [littleEndian_length]; decide

/-- A `char`. -/
def ofChar (value : Id) : Object where
  bytes := [value]
  nonempty := Nat.one_pos
  addressable := by change 1 < sizeLimit; decide

end Object

namespace Message

/-- `MAX_DATA_SIZE - offset`, for which the offset becomes a `size_t`. -/
def maxCopy (offset : Int32) : UInt64 := 40 - offset.toInt64.toUInt64

/-- So many bytes from the offset on are bytes of the array. -/
def Inside (offset : Int32) (size : Nat) : Prop :=
  0 ≤ offset.toInt ∧ offset.toInt.toNat + size ≤ maxDataSize

instance (offset : Int32) (size : Nat) : Decidable (Inside offset size) := instDecidableAnd

/-- `setData`. -/
def setData (message : Message) (object : Object) (offset : Int32) : Option Message :=
  if UInt64.ofNat object.size ≤ maxCopy offset then
    if inside : Inside offset object.size then
      some { message with data := message.data.splice offset.toInt.toNat object.bytes inside.2 }
    else none
  else some message

/-- `memcpy(&obj, data.data() + offset, count)`, for an object whose bytes are not initialized. -/
def copyTo (message : Message) {width : Nat} (object : Sized width) (offset : Int32) (count : Nat) :
    Option (Sized width) :=
  if inside : Inside offset count then
    if fits : count ≤ width then
      some (object.overwrite (message.data.slice offset.toInt.toNat count inside.2).1
        (by rw [Sized.length]; exact fits))
    else none
  else none

/-- `getFromData`. A size of zero is that of the object. -/
def getFromData (message : Message) {width : Nat} (object : Sized width) (offset : Int32)
    (size : Nat) : Option (Sized width) :=
  message.copyTo object offset (if size = 0 then width else size)

/-! ### The room for an object -/

/-- What the offset is as a `size_t`. -/
theorem toNat_offset (offset : Int32) :
    (offset.toInt64.toUInt64.toNat : Int) =
      if 0 ≤ offset.toInt then offset.toInt else offset.toInt + 18446744073709551616 := by
  have signed := offset.toInt_toInt64
  have cases := BitVec.toInt_eq_toNat_cond offset.toInt64.toBitVec
  have same : offset.toInt64.toUInt64.toNat = offset.toInt64.toBitVec.toNat := rfl
  have whole : offset.toInt64.toBitVec.toInt = offset.toInt64.toInt := rfl
  have small := offset.toInt64.toBitVec.isLt
  rw [same]
  split at cases <;> split <;> omega

theorem toNat_maxCopy (offset : Int32) :
    ((maxCopy offset).toNat : Int) =
      if offset.toInt ≤ 40 then 40 - offset.toInt else 18446744073709551656 - offset.toInt := by
  have value := toNat_offset offset
  have least := offset.le_toInt
  have most := offset.toInt_lt
  rw [maxCopy, UInt64.toNat_sub]
  have forty : (40 : UInt64).toNat = 40 := rfl
  rw [forty]
  split at value <;> split <;> omega

/-- Whether the room is large enough, without wrapping around. -/
theorem le_maxCopy_iff {object : Object} {offset : Int32} :
    UInt64.ofNat object.size ≤ maxCopy offset ↔
      (object.size : Int) ≤
        if offset.toInt ≤ 40 then 40 - offset.toInt else 18446744073709551656 - offset.toInt := by
  have small : object.size < 18446744073709551616 := object.addressable
  rw [← toNat_maxCopy, UInt64.le_iff_toNat_le, UInt64.toNat_ofNat', Nat.mod_eq_of_lt small]
  exact Int.ofNat_le.symm

/-! ### Calls which stay inside -/

/-- The offset is one of the array, or the object is too large for what seems to be left: for more
than the array from the offset on, when that is before its start, and for almost all of the
memory, when it is past its end. -/
def Harmless (object : Object) (offset : Int32) : Prop :=
  (0 ≤ offset.toInt ∧ offset.toInt ≤ 40) ∨ (offset.toInt < 0 ∧ 40 - offset.toInt < object.size) ∨
    (40 < offset.toInt ∧ 18446744073709551656 - offset.toInt < object.size)

/-- The object was copied inside of the array, and is read back from there. -/
structure Copied (message : Message) (object : Object) (offset : Int32) (next : Message) : Prop where
  inside : Inside offset object.size
  whole : (next.data.slice offset.toInt.toNat object.size inside.2).1 = object.bytes
  others : ∀ index, index < offset.toInt.toNat ∨ offset.toInt.toNat + object.size ≤ index →
    next.data.byteAt index = message.data.byteAt index
  fields : next = { message with data := next.data }
  readBack : ∀ uninitialized : Sized object.size,
    next.getFromData uninitialized offset 0 = some ⟨object.bytes, rfl⟩

variable {message next : Message} {object : Object} {offset : Int32}

/-- Reading an object of the size which was copied finds its bytes. -/
theorem getFromData_splice (inside : Inside offset object.size)
    (uninitialized : Sized object.size) :
    Message.getFromData
        { message with data := message.data.splice offset.toInt.toNat object.bytes inside.2 }
        uninitialized offset 0 = some ⟨object.bytes, rfl⟩ := by
  have found : (message.data.splice offset.toInt.toNat object.bytes inside.2).slice
      offset.toInt.toNat object.size inside.2 = ⟨object.bytes, rfl⟩ := Sized.slice_splice
  rw [getFromData, if_pos rfl, copyTo, dif_pos inside, dif_pos (Nat.le_refl _)]
  simp only [found]
  exact congrArg some (Sized.overwrite_whole ⟨object.bytes, rfl⟩)

/-- An object which fits where it is to go is copied there. -/
theorem setData_of_inside (inside : Inside offset object.size) :
    ∃ next, message.setData object offset = some next ∧ Copied message object offset next := by
  have room : UInt64.ofNat object.size ≤ maxCopy offset := by
    obtain ⟨start, fits⟩ := inside
    rw [le_maxCopy_iff]
    rw [maxDataSize] at fits
    split <;> omega
  refine ⟨_, (if_pos room).trans (dif_pos inside), inside, ?_, ?_, rfl, getFromData_splice inside⟩
  · exact congrArg Subtype.val Sized.slice_splice
  · intro index apart
    exact @Sized.byteAt_splice_ne _ _ _ _ _ inside.2 apart

/-- What a call answers was copied, or is the message as it was. -/
theorem setData_cases (answered : message.setData object offset = some next) :
    Copied message object offset next ∨ next = message := by
  by_cases inside : Inside offset object.size
  · left
    obtain ⟨copied, same, holds⟩ := @setData_of_inside message _ _ inside
    rw [answered] at same
    cases same
    exact holds
  · right
    rw [setData] at answered
    split at answered
    · simp at answered
    · cases answered
      rfl

/-- A call leaves the array unless it is harmless. -/
theorem setData_eq_none_iff : message.setData object offset = none ↔ ¬ Harmless object offset := by
  have room := @le_maxCopy_iff object offset
  have positive : 0 < object.size := object.nonempty
  have inside : Inside offset object.size ↔
      0 ≤ offset.toInt ∧ offset.toInt.toNat + object.size ≤ 40 := Iff.rfl
  rw [setData, Harmless]
  split
  · next some =>
    rw [room] at some
    by_cases fits : Inside offset object.size
    · rw [dif_pos fits]
      rw [inside] at fits
      simp only [reduceCtorEq, false_iff, Classical.not_not]
      omega
    · rw [dif_neg fits]
      rw [inside] at fits
      simp only [true_iff]
      split at some <;> omega
  · next little =>
    rw [room] at little
    simp only [reduceCtorEq, false_iff, Classical.not_not]
    split at little <;> omega

/-! ### The calls of the components

All of them are at the start of the array, where `setIntData`, `setCharData`, `intFromData` and
`charFromData` say what they do.
-/

theorem setData_start (fits : object.bytes.length ≤ maxDataSize) :
    message.setData object 0 = some { message with data := message.data.overwrite object.bytes fits } := by
  have inside : Inside 0 object.size := ⟨Int.le_refl 0, Nat.le_trans (Nat.le_of_eq (Nat.zero_add _)) fits⟩
  have room : UInt64.ofNat object.size ≤ maxCopy 0 := by
    rw [le_maxCopy_iff]
    exact Int.ofNat_le.mpr fits
  have same : message.data.splice 0 object.bytes inside.2 = message.data.overwrite object.bytes fits :=
    Sized.splice_zero
  rw [setData, if_pos room, dif_pos inside]
  exact congrArg (fun data => some { message with data := data }) same

theorem setData_ofInt (value : Int32) :
    message.setData (.ofInt value) 0 = some (message.setIntData value) :=
  setData_start (by rw [Object.ofInt, littleEndian_length]; decide)

theorem setData_ofChar (value : Id) :
    message.setData (.ofChar value) 0 = some (message.setCharData value) :=
  setData_start (by simp [Object.ofChar, maxDataSize])

theorem getFromData_int (uninitialized : Sized 4) :
    ∃ bytes : Sized 4, message.getFromData uninitialized 0 0 = some bytes ∧
      (UInt32.ofNat (ofLittleEndian bytes.1)).toInt32 = message.intFromData :=
  ⟨_, congrArg some (Sized.overwrite_whole _), rfl⟩

theorem getFromData_char (uninitialized : Sized 1) :
    message.getFromData uninitialized 0 0 = some ⟨[message.charFromData], rfl⟩ := by
  obtain ⟨subject, id, taxiId, coord, session, bytes, full⟩ := message
  cases bytes with
  | nil => cases full
  | cons first rest => exact congrArg some (Sized.overwrite_whole ⟨[first], rfl⟩)

/-! ### Sequences of calls -/

/-- Each call copies the object inside of the array, or leaves the message as it is. -/
def WithinBounds : Message → List (Object × Int32) → Prop
  | _, [] => True
  | message, (object, offset) :: calls =>
      ∃ next, message.setData object offset = some next ∧
        (Copied message object offset next ∨ next = message) ∧ WithinBounds next calls

end Message

/-- However `setData` is called, it copies its object inside of the array, from where it is read
back, or leaves the message as it is, exactly as long as every call is harmless. -/
theorem set_data_within_bounds_iff (message : Message) (calls : List (Object × Int32)) :
    message.WithinBounds calls ↔ ∀ call ∈ calls, Message.Harmless call.1 call.2 := by
  induction calls generalizing message with
  | nil => simp [Message.WithinBounds]
  | cons call calls inductionHypothesis =>
      rw [List.forall_mem_cons]
      constructor
      · rintro ⟨next, answered, -, rest⟩
        refine ⟨?_, (inductionHypothesis next).mp rest⟩
        by_contra harmful
        rw [Message.setData_eq_none_iff.mpr harmful] at answered
        cases answered
      · rintro ⟨harmless, rest⟩
        cases answered : message.setData call.1 call.2 with
        | none => exact absurd harmless (Message.setData_eq_none_iff.mp answered)
        | some next =>
            exact ⟨next, answered, Message.setData_cases answered, (inductionHypothesis next).mpr rest⟩

/-- One byte is copied to the place after the last one of the array. -/
theorem offset_past_the_end : ¬ Message.new.WithinBounds [(Object.ofChar 65, 40 + 1)] := by
  rintro ⟨next, answered, -⟩
  have leaves : Message.new.setData (Object.ofChar 65) (40 + 1) = none := by decide
  rw [leaves] at answered
  cases answered

end EasyCab
