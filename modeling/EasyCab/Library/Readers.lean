import EasyCab.Library.Bytes

/-!
# Readers of machine values

The integers and truth values of a little-endian machine as bytes, and loops over records.
`Reads` says that a reader takes a value back from the bytes in which it was laid out, and leaves
what follows them, so a reader of a record is the sequence of the readers of its fields.
-/

namespace EasyCab.Library

variable {Value Item Padding : Type}

/-- The reader takes the value back from these bytes and leaves what follows them. -/
def Reads (read : Reader Value) (bytes : List UInt8) (value : Value) : Prop :=
  ∀ rest, read (bytes ++ rest) = some (value, rest)

/-- Take `count` bytes for a value. -/
def readAs (count : Nat) (value : Sized count → Value) : Reader Value := fun input =>
  (readBytes count input).map fun read => (value read.1, read.2)

theorem reads_as {count : Nat} {value : Sized count → Value} {bytes : List UInt8}
    (size : bytes.length = count) : Reads (readAs count value) bytes (value ⟨bytes, size⟩) := by
  intro rest
  rw [readAs, readBytes_append size]
  rfl

/-- Reading a list of which nothing follows leaves nothing. -/
theorem Reads.all {read : Reader Value} {bytes : List UInt8} {value : Value}
    (reads : Reads read bytes value) : read bytes = some (value, []) := by
  simpa using reads []

/-! ### Fields -/

/-- Take one byte. -/
def readByte : Reader UInt8 := readAs 1 fun bytes => bytes.1.headD 0

theorem reads_byte (byte : UInt8) : Reads readByte [byte] byte :=
  @reads_as _ 1 (fun bytes => bytes.1.headD 0) [byte] rfl

/-- The byte of a `bool`. -/
def boolBytes (value : Bool) : List UInt8 := [if value then 1 else 0]

/-- Take a `bool`. -/
def readBool : Reader Bool := readAs 1 fun bytes => bytes.1.headD 0 ≠ 0

theorem reads_bool (value : Bool) : Reads readBool (boolBytes value) value := by
  have first := @reads_as _ 1 (fun bytes => decide (bytes.1.headD 0 ≠ 0)) (boolBytes value) rfl
  cases value <;> exact first

/-- The bytes of a `short`. -/
def shortBytes (value : Int16) : List UInt8 := littleEndian 2 value.toUInt16.toNat

/-- Take a `short`. -/
def readShort : Reader Int16 :=
  readAs 2 fun bytes => (UInt16.ofNat (ofLittleEndian bytes.1)).toInt16

theorem reads_short (value : Int16) : Reads readShort (shortBytes value) value := by
  intro rest
  have small : value.toUInt16.toNat < 256 ^ 2 := value.toUInt16.toNat_lt
  rw [readShort, shortBytes, reads_as (littleEndian_length 2 _)]
  simp [ofLittleEndian_littleEndian small]

/-- The bytes of an `int`. -/
def intBytes (value : Int32) : List UInt8 := littleEndian 4 value.toUInt32.toNat

/-- Take an `int`. -/
def readInt : Reader Int32 :=
  readAs 4 fun bytes => (UInt32.ofNat (ofLittleEndian bytes.1)).toInt32

theorem reads_int (value : Int32) : Reads readInt (intBytes value) value := by
  intro rest
  have small : value.toUInt32.toNat < 256 ^ 4 := value.toUInt32.toNat_lt
  rw [readInt, intBytes, reads_as (littleEndian_length 4 _)]
  simp [ofLittleEndian_littleEndian small]

/-- The numbers which a `size_t` holds. -/
def sizeLimit : Nat := 256 ^ 8

/-- The bytes of a `size_t`. -/
def sizeBytes (size : Nat) : List UInt8 := littleEndian 8 size

/-- Take a `size_t`. -/
def readSize : Reader Nat := readAs 8 fun bytes => ofLittleEndian bytes.1

theorem reads_size {size : Nat} (small : size < sizeLimit) : Reads readSize (sizeBytes size) size := by
  intro rest
  rw [readSize, sizeBytes, reads_as (littleEndian_length 8 _), ofLittleEndian_littleEndian small]

/-! ### Loops -/

/-- Take so many records. -/
def readMany (read : Reader Item) : Nat → Reader (List Item)
  | 0 => fun input => some ([], input)
  | count + 1 => fun input => do
      let (item, input) ← read input
      let (items, input) ← readMany read count input
      return (item :: items, input)

/-- Records laid out one after the other, each with its own padding. -/
def layMany (bytes : Item → Padding → List UInt8) (padding : Nat → Padding) :
    List Item → List UInt8
  | [] => []
  | item :: items => bytes item (padding 0) ++ layMany bytes (fun index => padding (index + 1)) items

/-- A loop takes back all records, whatever their padding holds. -/
theorem reads_many {read : Reader Item} {bytes : Item → Padding → List UInt8}
    (each : ∀ item padding, Reads read (bytes item padding) item) (padding : Nat → Padding)
    (items : List Item) : Reads (readMany read items.length) (layMany bytes padding items) items := by
  induction items generalizing padding with
  | nil => exact fun rest => rfl
  | cons item items inductionHypothesis =>
      intro rest
      rw [layMany, List.length_cons, List.append_assoc, readMany]
      simp only [each item (padding 0) _, inductionHypothesis _ rest, Option.bind_eq_bind,
        Option.bind_some, Option.pure_def]

end EasyCab.Library
