import EasyCab.Library.Bytes

/-!
# The data exchanged by the components

The enumerations and records of `Protocols.h`. An enumerator list names the
declared values; a value of the underlying `int` outside the list is legal too
and reaches every `default` branch, so each enumeration also has an `unlisted`
value that carries the proof that its code is not a declared one.

A one-character `CHAR` or `u_char` identifier is a byte. Identifiers are compared
as the database compares them: two characters which the collation of the column
does not tell apart are one byte here. They are read back as they were stored,
the blank too, which MySQL strips when it reads a `CHAR` back.
-/

namespace EasyCab

open Library

/-- A one-character identifier of a customer or a location. -/
abbrev Id := UInt8

/-- A `short` taxi identifier. -/
abbrev TaxiId := Int16

section Decidable

variable {Value : Type} {holds : Value → Prop} [DecidablePred holds]

-- Identifiers are of finite types. What is said of those in a list or an option is decided
-- along it, and not by going through all identifiers.

instance (priority := 2000) decidableForallMem (values : List Value) :
    Decidable (∀ value ∈ values, holds value) := List.decidableBAll holds values

instance (priority := 2000) decidableForallMemOption (value? : Option Value) :
    Decidable (∀ value ∈ value?, holds value) := Option.decidableForallMem value?

end Decidable

/-! ### Enumerations -/

/-- `SUBJ_GUI`. -/
inductive SubjGui where
  | writeBottomWindow
  | writeTopWindow
  | mapUpdate
  | unlisted (code : UInt32) (undeclared : 3 ≤ code.toNat)
deriving DecidableEq

/-- `SUBJ_REQUEST`, in declaration order. -/
inductive SubjRequest where
  | orderTaxiGoTo
  | orderTaxiStop
  | orderTaxiContinue
  | orderTaxiReturnToBase
  | orderTaxiDisconnect
  | orderCustomerDisconnect
  | orderCustomerPriority
  | orderLocationMove
  | newTaxi
  | taxiReconnected
  | taxiReady
  | taxiNotReady
  | taxiUpdateWaitTime
  | taxiMove
  | taxiDestinationReached
  | taxiPing
  | newCustomer
  | customerPing
  | customerServiceRequest
  | customerUpdateNextRequest
  | unlisted (code : UInt32) (undeclared : 20 ≤ code.toNat)
deriving DecidableEq

/-- `SUBJ_RESPONSE`, in declaration order. -/
inductive SubjResponse where
  | taxiGoTo
  | taxiStop
  | taxiContinue
  | taxiReturnToBase
  | taxiDisconnect
  | customerDisconnect
  | customerPriority
  | customerPickedUp
  | customerDroppedOff
  | customerEnqueued
  | customerServiceCompleted
  | customerServiceAccepted
  | customerServiceDenied
  | mapUpdate
  | deny
  | accept
  | unlisted (code : UInt32) (undeclared : 16 ≤ code.toNat)
deriving DecidableEq

/-- `SUBJECT`, the variant of the three enumerations. -/
inductive Subject where
  | gui (subject : SubjGui)
  | request (subject : SubjRequest)
  | response (subject : SubjResponse)
deriving DecidableEq

/-- `CONTROL_CHAR`, with the byte each enumerator stands for. -/
inductive ControlChar where
  | none
  | stc
  | stx
  | etx
  | eot
  | enq
  | ack
  | nack
deriving DecidableEq

namespace ControlChar

/-- The byte of an enumerator. -/
def byte : ControlChar → UInt8
  | .none => 0x00
  | .stc => 0x01
  | .stx => 0x02
  | .etx => 0x03
  | .eot => 0x04
  | .enq => 0x05
  | .ack => 0x06
  | .nack => 0x15

/-- `magic_enum::enum_contains` and the cast back: the enumerator of a byte, if it has one. -/
def ofByte? (byte : UInt8) : Option ControlChar :=
  [none, stc, stx, etx, eot, enq, ack, nack].find? fun char => char.byte = byte

/-- Every enumerator is found from its own byte. -/
@[simp] theorem ofByte?_byte (char : ControlChar) : ofByte? char.byte = some char := by
  cases char <;> rfl

end ControlChar

/-! ### Records -/

/-- `Coordinate`, two 32-bit integers. -/
structure Coordinate where
  x : Int32
  y : Int32
deriving DecidableEq

/-- `Location`, as the map topic carries it. -/
structure Location where
  id : Id
  coord : Coordinate
deriving DecidableEq

/-- `Customer`, as the map topic carries it. -/
structure Customer where
  id : Id
  coord : Coordinate
  destination : Id
  onboard : Bool
  inQueue : Bool
  nextRequest : Int32
deriving DecidableEq

/-- `Taxi`, as the map topic carries it. -/
structure Taxi where
  id : TaxiId
  coord : Coordinate
  customer : Id
  dest : Coordinate
  connected : Bool
  ready : Bool
  stopped : Bool
  waitTime : Int32
deriving DecidableEq

/-- `Map`: the three lists in the order in which their rows were added. -/
structure Map where
  locations : List Location
  customers : List Customer
  taxis : List Taxi
deriving DecidableEq

/-- The length of a textual `uuid`, and of the session of Central. -/
def uuidLength : Nat := 36

/-- A string of the length `generate_unique_id` returns. -/
abbrev Uuid := Sized uuidLength

/-- `Message::MAX_DATA_SIZE`. -/
def maxDataSize : Nat := 40

/-- `prot::Message`. The session is a string of any length; the data is an array. -/
structure Message where
  subject : Subject
  id : Id
  taxiId : TaxiId
  coord : Coordinate
  session : List UInt8
  data : Sized maxDataSize
deriving DecidableEq

namespace Message

/-- The default constructor. -/
def new : Message where
  subject := .response .mapUpdate
  id := 0
  taxiId := 0
  coord := ⟨0, 0⟩
  session := []
  data := Sized.fill maxDataSize 0

/-- A message on which only the session and a request subject were set. -/
def request (session : List UInt8) (subject : SubjRequest) : Message :=
  { new with session := session, subject := .request subject }

/-- `checkSession`. -/
def checkSession (message : Message) (session : List UInt8) : Bool := message.session = session

/-- `getFromData<char>()`: the first byte of the data. -/
def charFromData (message : Message) : Id := message.data.1.headD 0

/-- `getFromData<int>()`: the first four bytes of the data, least significant first. -/
def intFromData (message : Message) : Int32 :=
  (UInt32.ofNat (ofLittleEndian (message.data.1.take 4))).toInt32

/-- `setData<int>(value)` at offset 0. -/
def setIntData (message : Message) (value : Int32) : Message :=
  { message with
    data := message.data.overwrite (littleEndian 4 value.toUInt32.toNat)
      (by rw [littleEndian_length]; decide) }

@[simp] theorem setIntData_subject (message : Message) (value : Int32) :
    (message.setIntData value).subject = message.subject := rfl

@[simp] theorem setIntData_taxiId (message : Message) (value : Int32) :
    (message.setIntData value).taxiId = message.taxiId := rfl

/-- What was set is read back. -/
@[simp] theorem intFromData_setIntData (message : Message) (value : Int32) :
    (message.setIntData value).intFromData = value := by
  have small : value.toUInt32.toNat < 256 ^ 4 := value.toUInt32.toNat_lt
  rw [intFromData, setIntData, ofLittleEndian_take_overwrite small]
  simp

/-- `setData<char>(value)` at offset 0. -/
def setCharData (message : Message) (value : Id) : Message :=
  { message with data := message.data.overwrite [value] (by simp [maxDataSize]) }

@[simp] theorem charFromData_setCharData (message : Message) (value : Id) :
    (message.setCharData value).charFromData = value := rfl

/-- `memcpy(getData().data(), uuid, 36)`. -/
def setUuidData (message : Message) (uuid : Uuid) : Message :=
  { message with data := message.data.overwrite uuid.1 (by rw [uuid.2]; decide) }

end Message

end EasyCab
