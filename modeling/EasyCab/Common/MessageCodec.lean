import EasyCab.Common.Protocols

/-!
# The bytes of a message

`serialize` writes the session with the length it has, `deserialize` takes 36 bytes
for it. A subject is a variant of three enumerations: four bytes for the value, one
for the alternative, and three of padding which nobody writes. A reader that would
look past the end of its buffer answers nothing.
-/

namespace EasyCab

open Library

/-! ### Enumerators by their codes -/

/-- The declared enumerators of `SUBJ_GUI`, in order. -/
def SubjGui.declared : List SubjGui := [.writeBottomWindow, .writeTopWindow, .mapUpdate]

/-- The underlying `int` of a value of `SUBJ_GUI`. -/
def SubjGui.code : SubjGui → UInt32
  | .unlisted code _ => code
  | subject => UInt32.ofNat (declared.idxOf subject)

/-- The value of `SUBJ_GUI` with an underlying `int`. -/
def SubjGui.ofCode (code : UInt32) : SubjGui :=
  if listed : code.toNat < 3 then declared.get ⟨code.toNat, listed⟩
  else .unlisted code (by omega)

/-- The declared enumerators of `SUBJ_REQUEST`, in order. -/
def SubjRequest.declared : List SubjRequest :=
  [.orderTaxiGoTo, .orderTaxiStop, .orderTaxiContinue, .orderTaxiReturnToBase,
    .orderTaxiDisconnect, .orderCustomerDisconnect, .orderCustomerPriority, .orderLocationMove,
    .newTaxi, .taxiReconnected, .taxiReady, .taxiNotReady, .taxiUpdateWaitTime, .taxiMove,
    .taxiDestinationReached, .taxiPing, .newCustomer, .customerPing, .customerServiceRequest,
    .customerUpdateNextRequest]

/-- The underlying `int` of a value of `SUBJ_REQUEST`. -/
def SubjRequest.code : SubjRequest → UInt32
  | .unlisted code _ => code
  | subject => UInt32.ofNat (declared.idxOf subject)

/-- The value of `SUBJ_REQUEST` with an underlying `int`. -/
def SubjRequest.ofCode (code : UInt32) : SubjRequest :=
  if listed : code.toNat < 20 then declared.get ⟨code.toNat, listed⟩
  else .unlisted code (by omega)

/-- The declared enumerators of `SUBJ_RESPONSE`, in order. -/
def SubjResponse.declared : List SubjResponse :=
  [.taxiGoTo, .taxiStop, .taxiContinue, .taxiReturnToBase, .taxiDisconnect, .customerDisconnect,
    .customerPriority, .customerPickedUp, .customerDroppedOff, .customerEnqueued,
    .customerServiceCompleted, .customerServiceAccepted, .customerServiceDenied, .mapUpdate,
    .deny, .accept]

/-- The underlying `int` of a value of `SUBJ_RESPONSE`. -/
def SubjResponse.code : SubjResponse → UInt32
  | .unlisted code _ => code
  | subject => UInt32.ofNat (declared.idxOf subject)

/-- The value of `SUBJ_RESPONSE` with an underlying `int`. -/
def SubjResponse.ofCode (code : UInt32) : SubjResponse :=
  if listed : code.toNat < 16 then declared.get ⟨code.toNat, listed⟩
  else .unlisted code (by omega)

@[simp] theorem SubjGui.ofCode_code (subject : SubjGui) : ofCode subject.code = subject := by
  cases subject with
  | unlisted code undeclared => exact dif_neg (by simp only [SubjGui.code]; omega)
  | _ => rfl

@[simp] theorem SubjRequest.ofCode_code (subject : SubjRequest) : ofCode subject.code = subject := by
  cases subject with
  | unlisted code undeclared => exact dif_neg (by simp only [SubjRequest.code]; omega)
  | _ => rfl

@[simp] theorem SubjResponse.ofCode_code (subject : SubjResponse) :
    ofCode subject.code = subject := by
  cases subject with
  | unlisted code undeclared => exact dif_neg (by simp only [SubjResponse.code]; omega)
  | _ => rfl

@[simp] theorem SubjGui.code_ofCode (code : UInt32) : (ofCode code).code = code := by
  unfold ofCode
  split
  · next listed =>
    have each : ∀ index : Fin 3, (declared.get index).code = UInt32.ofNat index.val := by decide
    exact (each ⟨code.toNat, listed⟩).trans UInt32.ofNat_toNat
  · rfl

@[simp] theorem SubjRequest.code_ofCode (code : UInt32) : (ofCode code).code = code := by
  unfold ofCode
  split
  · next listed =>
    have each : ∀ index : Fin 20, (declared.get index).code = UInt32.ofNat index.val := by decide
    exact (each ⟨code.toNat, listed⟩).trans UInt32.ofNat_toNat
  · rfl

@[simp] theorem SubjResponse.code_ofCode (code : UInt32) : (ofCode code).code = code := by
  unfold ofCode
  split
  · next listed =>
    have each : ∀ index : Fin 16, (declared.get index).code = UInt32.ofNat index.val := by decide
    exact (each ⟨code.toNat, listed⟩).trans UInt32.ofNat_toNat
  · rfl

/-! ### Fields -/

namespace Subject

/-- The underlying value of the alternative which is held. -/
def code : Subject → UInt32
  | .gui subject => subject.code
  | .request subject => subject.code
  | .response subject => subject.code

/-- `index()` of the variant. -/
def index : Subject → UInt8
  | .gui _ => 0
  | .request _ => 1
  | .response _ => 2

/-- The eight bytes of the variant, with what happens to be in its padding. -/
def bytes (subject : Subject) (padding : Sized 3) : List UInt8 :=
  littleEndian 4 subject.code.toNat ++ subject.index :: padding.1

/-- The variant in eight bytes, if its index is one of an alternative. -/
def ofBytes? (bytes : Sized 8) : Option Subject :=
  let code := UInt32.ofNat (ofLittleEndian (bytes.1.take 4))
  match bytes.1.get ⟨4, by simp⟩ with
  | 0 => some (.gui (.ofCode code))
  | 1 => some (.request (.ofCode code))
  | 2 => some (.response (.ofCode code))
  | _ => none

@[simp] theorem bytes_length (subject : Subject) (padding : Sized 3) :
    (subject.bytes padding).length = 8 := by
  simp [bytes]

/-- A variant is read back from its bytes, whatever its padding holds. -/
theorem ofBytes?_bytes (subject : Subject) (padding : Sized 3) :
    ofBytes? ⟨subject.bytes padding, bytes_length subject padding⟩ = some subject := by
  have front : (subject.bytes padding).take 4 = littleEndian 4 subject.code.toNat :=
    List.take_left' (littleEndian_length 4 _)
  have code : UInt32.ofNat (ofLittleEndian ((subject.bytes padding).take 4)) = subject.code := by
    rw [front, ofLittleEndian_littleEndian (by have := subject.code.toNat_lt; omega)]
    exact UInt32.ofNat_toNat
  have index : (subject.bytes padding).get ⟨4, by simp⟩ = subject.index := by
    simp [bytes, List.getElem_append_right]
  simp only [ofBytes?, code, index]
  cases subject with
  | gui subject => simp [Subject.index, Subject.code]
  | request subject => simp [Subject.index, Subject.code]
  | response subject => simp [Subject.index, Subject.code]

/-- Every alternative is read. -/
theorem ofBytes?_of_alternative {bytes : Sized 8} (alternative : bytes.1.get ⟨4, by simp⟩ < 3) :
    ∃ subject, ofBytes? bytes = some subject := by
  have listed (index : UInt8) (small : index < 3) : index = 0 ∨ index = 1 ∨ index = 2 := by
    rw [UInt8.lt_iff_toNat_lt] at small
    simp only [← UInt8.toNat_inj]
    simp only [UInt8.toNat_ofNat] at small ⊢
    omega
  unfold ofBytes?
  rcases listed _ alternative with gui | request | response
  · exact ⟨_, by simp only [gui]; rfl⟩
  · exact ⟨_, by simp only [request]; rfl⟩
  · exact ⟨_, by simp only [response]; rfl⟩

/-- The padding in the eight bytes of a variant. -/
def padding (bytes : Sized 8) : Sized 3 := ⟨bytes.1.drop 5, by simp⟩

/-- A variant is laid out as it was read, with the padding which it had. -/
theorem bytes_ofBytes? {bytes : Sized 8} {subject : Subject}
    (read : ofBytes? bytes = some subject) : subject.bytes (padding bytes) = bytes.1 := by
  have held : subject.code = UInt32.ofNat (ofLittleEndian (bytes.1.take 4)) ∧
      subject.index = bytes.1.get ⟨4, by simp⟩ := by
    simp only [ofBytes?] at read
    split at read <;> cases read
    · next index => exact ⟨SubjGui.code_ofCode _, index.symm⟩
    · next index => exact ⟨SubjRequest.code_ofCode _, index.symm⟩
    · next index => exact ⟨SubjResponse.code_ofCode _, index.symm⟩
  have back : bytes.1.get ⟨4, by simp⟩ :: bytes.1.drop 5 = bytes.1.drop 4 :=
    (List.drop_eq_getElem_cons (by simp)).symm
  rw [Subject.bytes, held.1, held.2, littleEndian_uint32 (by simp), padding, back,
    List.take_append_drop]

end Subject

namespace Coordinate

/-- The eight bytes of a coordinate. -/
def bytes (coord : Coordinate) : List UInt8 :=
  littleEndian 4 coord.x.toUInt32.toNat ++ littleEndian 4 coord.y.toUInt32.toNat

/-- The coordinate in eight bytes. -/
def ofBytes (bytes : Sized 8) : Coordinate where
  x := (UInt32.ofNat (ofLittleEndian (bytes.1.take 4))).toInt32
  y := (UInt32.ofNat (ofLittleEndian (bytes.1.drop 4))).toInt32

@[simp] theorem bytes_length (coord : Coordinate) : coord.bytes.length = 8 := by
  simp [bytes]

theorem ofBytes_bytes (coord : Coordinate) : ofBytes ⟨coord.bytes, coord.bytes_length⟩ = coord := by
  have low : coord.bytes.take 4 = littleEndian 4 coord.x.toUInt32.toNat :=
    List.take_left' (littleEndian_length 4 _)
  have high : coord.bytes.drop 4 = littleEndian 4 coord.y.toUInt32.toNat :=
    List.drop_left' (littleEndian_length 4 _)
  have four (value : Int32) : (UInt32.ofNat (ofLittleEndian
      (littleEndian 4 value.toUInt32.toNat))).toInt32 = value := by
    rw [ofLittleEndian_littleEndian (by have := value.toUInt32.toNat_lt; omega)]
    simp
  simp only [ofBytes, low, high, four]

theorem bytes_ofBytes (bytes : Sized 8) : (ofBytes bytes).bytes = bytes.1 := by
  simp only [Coordinate.bytes, ofBytes, UInt32.toUInt32_toInt32]
  rw [littleEndian_uint32 (by simp), littleEndian_uint32 (by simp), List.take_append_drop]

end Coordinate

/-! ### Messages -/

namespace Message

/-- `serialize`. -/
def serialize (message : Message) (padding : Sized 3) : List UInt8 :=
  message.subject.bytes padding ++ (message.id :: (littleEndian 2 message.taxiId.toUInt16.toNat ++
    (message.coord.bytes ++ (message.session ++ message.data.1))))

/-- `deserialize`, unless it would read past the end of the buffer. -/
def deserialize (buffer : List UInt8) : Option Message := do
  let (subject, buffer) ← readBytes 8 buffer
  let (id, buffer) ← readBytes 1 buffer
  let (taxiId, buffer) ← readBytes 2 buffer
  let (coord, buffer) ← readBytes 8 buffer
  let (session, buffer) ← readBytes uuidLength buffer
  let (data, _) ← readBytes maxDataSize buffer
  let subject ← Subject.ofBytes? subject
  return {
    subject := subject
    id := id.1.headD 0
    taxiId := (UInt16.ofNat (ofLittleEndian taxiId.1)).toInt16
    coord := Coordinate.ofBytes coord
    session := session.1
    data := data }

/-- A message is read back from its bytes, inside the buffer and with every field equal. -/
def ReadsBack (message : Message) : Prop :=
  ∀ padding, deserialize (message.serialize padding) = some message

/-- A message that was read has a session of 36 bytes. -/
theorem session_of_deserialize {buffer : List UInt8} {message : Message}
    (read : deserialize buffer = some message) : message.session.length = uuidLength := by
  simp only [deserialize, Option.bind_eq_bind, Option.bind_eq_some_iff, Option.pure_def,
    Option.some.injEq] at read
  obtain ⟨_, _, _, _, _, _, _, _, session, _, _, _, _, _, rfl⟩ := read
  exact session.1.length

/-- A message is read back exactly when its session has 36 bytes. -/
theorem readsBack_iff {message : Message} :
    message.ReadsBack ↔ message.session.length = uuidLength := by
  constructor
  · exact fun readsBack => session_of_deserialize (readsBack (Sized.fill 3 0))
  · intro size padding
    have subject := @readBytes_append 8 (message.subject.bytes padding)
      (message.id :: (littleEndian 2 message.taxiId.toUInt16.toNat ++
        (message.coord.bytes ++ (message.session ++ message.data.1)))) (by simp)
    have id := @readBytes_append 1 [message.id] (littleEndian 2 message.taxiId.toUInt16.toNat ++
      (message.coord.bytes ++ (message.session ++ message.data.1))) rfl
    have taxiId := @readBytes_append 2 (littleEndian 2 message.taxiId.toUInt16.toNat)
      (message.coord.bytes ++ (message.session ++ message.data.1)) (by simp)
    have coord := @readBytes_append 8 message.coord.bytes (message.session ++ message.data.1)
      (by simp)
    have session := @readBytes_append uuidLength message.session message.data.1 size
    have data := @readBytes_append maxDataSize message.data.1 [] message.data.2
    have short : UInt16.ofNat (ofLittleEndian (littleEndian 2 message.taxiId.toUInt16.toNat)) =
        message.taxiId.toUInt16 := by
      rw [ofLittleEndian_littleEndian (by have := message.taxiId.toUInt16.toNat_lt; omega)]
      exact UInt16.ofNat_toNat
    rw [List.append_nil] at data
    rw [List.singleton_append] at id
    simp only [deserialize, serialize, subject, id, taxiId, coord, session, data,
      Option.bind_eq_bind, Option.bind_some, Subject.ofBytes?_bytes, Coordinate.ofBytes_bytes,
      short, Int16.toInt16_toUInt16, List.headD_cons]
    rfl

end Message

/-! ### Messages with a full session -/

/-- A message whose session has 36 bytes, as every message has which was deserialized. -/
abbrev FullMessage := {message : Message // message.session.length = uuidLength}

namespace FullMessage

/-- A message on which only the session and a request subject were set. -/
def request (session : Uuid) (subject : SubjRequest) : FullMessage :=
  ⟨.request session.1 subject, session.2⟩

/-- A full message is read back. -/
theorem readsBack (message : FullMessage) : message.1.ReadsBack :=
  Message.readsBack_iff.mpr message.2

end FullMessage

/-! ### Buffers of a full message -/

namespace Message

/-- The number of bytes of a message whose session is full. -/
def messageSize : Nat := 95

/-- A buffer of the size of a full message, whose variant holds one of its alternatives. -/
structure Buffer where
  bytes : Sized messageSize
  alternative : bytes.1.get ⟨4, by simp [messageSize]⟩ < 3

/-- The padding of the variant in a buffer. -/
def Buffer.padding (buffer : Buffer) : Sized 3 :=
  Subject.padding ⟨buffer.bytes.1.take 8, by simp [messageSize]⟩

/-- Every such buffer is read. -/
theorem Buffer.deserializes (buffer : Buffer) :
    ∃ message, deserialize buffer.bytes.1 = some message := by
  obtain ⟨⟨bytes, size⟩, alternative⟩ := buffer
  simp only at alternative ⊢
  simp only [messageSize] at size
  obtain ⟨subject, second, readSubject, sizeSecond⟩ := @exists_readBytes 8 bytes (by omega)
  obtain ⟨id, third, readId, sizeThird⟩ := @exists_readBytes 1 second (by omega)
  obtain ⟨taxiId, fourth, readTaxiId, sizeFourth⟩ := @exists_readBytes 2 third (by omega)
  obtain ⟨coord, fifth, readCoord, sizeFifth⟩ := @exists_readBytes 8 fourth (by omega)
  obtain ⟨session, sixth, readSession, sizeSixth⟩ := @exists_readBytes uuidLength fifth (by
    rw [uuidLength]
    omega)
  obtain ⟨data, rest, readData, _⟩ := @exists_readBytes maxDataSize sixth (by
    rw [uuidLength] at sizeSixth
    rw [maxDataSize]
    omega)
  have front := readBytes_eq_some_iff.mp readSubject
  subst front
  obtain ⟨told, held⟩ : ∃ told, Subject.ofBytes? subject = some told := by
    apply Subject.ofBytes?_of_alternative
    simpa [List.getElem_append_left] using alternative
  simp only [deserialize, readSubject, readId, readTaxiId, readCoord, readSession, readData, held,
    Option.bind_eq_bind, Option.bind_some]
  exact ⟨_, rfl⟩

/-- What was read from such a buffer is laid out as it was, with the padding which it had. -/
theorem Buffer.serialize_of_deserialize {buffer : Buffer} {message : Message}
    (read : deserialize buffer.bytes.1 = some message) :
    message.serialize buffer.padding = buffer.bytes.1 := by
  obtain ⟨⟨bytes, size⟩, alternative⟩ := buffer
  simp only [deserialize, Option.bind_eq_bind, Option.bind_eq_some_iff, Option.pure_def,
    Option.some.injEq, Prod.exists] at read
  obtain ⟨subject, second, readSubject, id, third, readId, taxiId, fourth, readTaxiId, coord, fifth,
    readCoord, session, sixth, readSession, data, rest, readData, told, held, rfl⟩ := read
  rw [readBytes_eq_some_iff] at readSubject readId readTaxiId readCoord readSession readData
  subst readData readSession readCoord readTaxiId readId readSubject
  have ended : rest = [] := by
    simp only [List.length_append, Sized.length, messageSize, uuidLength, maxDataSize] at size
    exact List.eq_nil_of_length_eq_zero (by omega)
  subst ended
  have one : [id.1.headD 0] = id.1 := by
    obtain ⟨byte, same⟩ := List.length_eq_one_iff.mp id.2
    rw [same]
    rfl
  have front (later : List UInt8) (long : ((subject.1 ++ later).take 8).length = 8) :
      (⟨(subject.1 ++ later).take 8, long⟩ : Sized 8) = subject :=
    Sized.ext (List.take_left' subject.2)
  simp only [padding, front, serialize, Subject.bytes_ofBytes? held, Coordinate.bytes_ofBytes,
    UInt16.toUInt16_toInt16, littleEndian_uint16 taxiId.2, List.append_nil]
  rw [← List.singleton_append, one]

end Message

/-- Full messages, with the padding of their subjects, and buffers of their size whose variant holds
an alternative stand for each other: each is recovered from the other, and no two of either stand
for the same one. -/
theorem message_codec_bijective :
    (∀ (message : FullMessage) (padding : Sized 3),
      Message.deserialize (message.1.serialize padding) = some message.1) ∧
    (∀ buffer : Message.Buffer, ∃ message : FullMessage,
      Message.deserialize buffer.bytes.1 = some message.1 ∧
        message.1.serialize buffer.padding = buffer.bytes.1) ∧
    (∀ (left right : FullMessage) (leftPadding rightPadding : Sized 3),
      left.1.serialize leftPadding = right.1.serialize rightPadding → left = right) ∧
    ∀ left right : Message.Buffer,
      Message.deserialize left.bytes.1 = Message.deserialize right.bytes.1 →
        left.padding = right.padding → left = right := by
  refine ⟨fun message padding => message.readsBack padding, fun buffer => ?_, ?_, ?_⟩
  · obtain ⟨message, read⟩ := buffer.deserializes
    exact ⟨⟨message, Message.session_of_deserialize read⟩, read,
      Message.Buffer.serialize_of_deserialize read⟩
  · intro left right leftPadding rightPadding same
    have readLeft := left.readsBack leftPadding
    rw [same, right.readsBack rightPadding] at readLeft
    exact Subtype.ext (Option.some.inj readLeft).symm
  · intro left right same padding
    obtain ⟨message, read⟩ := left.deserializes
    have laidLeft := Message.Buffer.serialize_of_deserialize read
    have laidRight := Message.Buffer.serialize_of_deserialize (same.symm.trans read)
    rw [padding, laidRight] at laidLeft
    obtain ⟨leftBytes, _⟩ := left
    obtain ⟨rightBytes, _⟩ := right
    obtain rfl : leftBytes = rightBytes := Sized.ext laidLeft.symm
    rfl

end EasyCab
