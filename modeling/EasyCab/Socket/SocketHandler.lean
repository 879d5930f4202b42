import EasyCab.Common.Protocols

/-!
# Frames on a socket

`SocketHandler` over an open socket. What is written is always a whole frame: a head
(`STX` or `STC`), `BUFFER_SIZE` bytes, `ETX` and a check byte. What is read is whatever
one `read` answers, laid over what earlier reads left in `data`.
-/

namespace EasyCab

open Library

/-- `BUFFER_SIZE`. -/
def bufferSize : Nat := 256

/-- `BUFFER_SIZE + 3`. -/
def frameSize : Nat := bufferSize + 3

/-- `READ_ERROR`. -/
inductive ReadError where
  | socketClosed
  | readFailed
  | invalidFormat
  | invalidLrc
  | timeout
  | none
deriving DecidableEq

/-- The arrays of a handler and its last error. -/
structure SocketHandler where
  buffer : Sized frameSize
  data : Sized frameSize
  error : ReadError
deriving DecidableEq

/-- What `read` answers. -/
inductive Incoming where
  | bytes (chunk : List UInt8) (fits : chunk.length ≤ frameSize)
  | failed (wouldBlock : Bool)

/-- What a frame is for: data or a control character. -/
inductive Content where
  | data (payload : Sized bufferSize)
  | control (char : ControlChar)
deriving DecidableEq

/-- The exclusive or of all bytes but the last. -/
def lrc (bytes : Sized frameSize) : UInt8 := (bytes.1.take (frameSize - 1)).foldl (· ^^^ ·) 0

/-- The bytes of a frame which a handler lets its user see. -/
def payload (bytes : Sized frameSize) : Sized bufferSize :=
  bytes.slice 1 bufferSize (by decide)

namespace SocketHandler

/-- The default constructor. -/
def new : SocketHandler := ⟨Sized.fill frameSize 0, Sized.fill frameSize 0, .none⟩

/-! ### Writing

The bytes which go to the socket are those of `buffer` afterwards. -/

/-- The user writes through `getBuffer()`. -/
def fill (handler : SocketHandler) (payload : Sized bufferSize) : SocketHandler :=
  { handler with
    buffer := ⟨handler.buffer.1.take 1 ++ (payload.1 ++ handler.buffer.1.drop (bufferSize + 1)), by
      simp [frameSize, bufferSize]⟩ }

/-- `writeToSocketInternal`. -/
def writeToSocketInternal (handler : SocketHandler) : SocketHandler :=
  { handler with buffer := handler.buffer.set (frameSize - 1) (lrc handler.buffer) }

/-- `writeToSocket`. -/
def writeToSocket (handler : SocketHandler) : SocketHandler :=
  { handler with
    buffer := (handler.buffer.set 0 ControlChar.stx.byte).set (frameSize - 2)
      ControlChar.etx.byte }.writeToSocketInternal

/-- `sendControlChar`. -/
def sendControlChar (handler : SocketHandler) (char : ControlChar) : SocketHandler :=
  { handler with
    buffer := (handler.buffer.set 0 ControlChar.stc.byte).set 1 char.byte }.writeToSocketInternal

/-! ### Reading -/

/-- `checkDataFormat`. -/
def checkDataFormat (data : Sized frameSize) : Bool :=
  if data.byteAt 0 = ControlChar.stc.byte then (ControlChar.ofByte? (data.byteAt 1)).isSome
  else if data.byteAt 0 = ControlChar.stx.byte then
    data.byteAt (frameSize - 2) = ControlChar.etx.byte
  else false

/-- The error which the checks of `readFromSocketInternal` find in the data. -/
def checks (data : Sized frameSize) : ReadError :=
  if ¬ checkDataFormat data then .invalidFormat
  else if data.byteAt 0 = ControlChar.stx.byte ∧ lrc data ≠ data.byteAt (frameSize - 1) then
    .invalidLrc
  else .none

/-- `readFromSocketInternal`, by the error it leaves; it returns true where that is `NONE`. -/
def readFromSocketInternal (handler : SocketHandler) : Incoming → SocketHandler
  | .failed wouldBlock =>
      { handler with error := if wouldBlock then .timeout else .readFailed }
  | .bytes chunk fits =>
      let data := handler.data.overwrite chunk fits
      { handler with data := data, error := checks data }

/-- `readFromSocket`: what it returns, and the handler, whose data has no head after an error. -/
def readFromSocket (handler : SocketHandler) (incoming : Incoming) : Bool × SocketHandler :=
  let handler := handler.readFromSocketInternal incoming
  if handler.error = .none then (true, handler)
  else (false, { handler with data := handler.data.set 0 ControlChar.none.byte })

/-- `hasData`. -/
def hasData (handler : SocketHandler) : Bool := handler.data.byteAt 0 = ControlChar.stx.byte

/-- `hasControlChar`. -/
def hasControlChar (handler : SocketHandler) : Bool :=
  handler.data.byteAt 0 = ControlChar.stc.byte

/-- `getData`. -/
def getData (handler : SocketHandler) : Sized bufferSize :=
  if handler.hasData then payload handler.data else Sized.fill bufferSize 0

/-- `getControlChar`, if the byte stands for one. -/
def getControlChar (handler : SocketHandler) : Option ControlChar :=
  if handler.hasControlChar then ControlChar.ofByte? (handler.data.byteAt 1) else some .none

/-- The frame which a handler shows its user. -/
def exposed (handler : SocketHandler) : Option Content :=
  if handler.hasData then some (.data handler.getData)
  else if handler.hasControlChar then handler.getControlChar.map .control
  else none

end SocketHandler

/-! ### Frames -/

/-- The bytes of a frame say what it is for. -/
def Carries (bytes : Sized frameSize) : Content → Prop
  | .data sent => bytes.byteAt 0 = ControlChar.stx.byte ∧ payload bytes = sent
  | .control char => bytes.byteAt 0 = ControlChar.stc.byte ∧ bytes.byteAt 1 = char.byte

/-- A frame as it is written: what it is for, and bytes which say so and pass the checks. -/
structure Frame where
  content : Content
  bytes : Sized frameSize
  carries : Carries bytes content
  passes : SocketHandler.checks bytes = .none

namespace SocketHandler

variable {handler : SocketHandler}

/-- The check byte does not depend on itself. -/
theorem lrc_set_last {bytes : Sized frameSize} {byte : UInt8} :
    lrc (bytes.set (frameSize - 1) byte) = lrc bytes := by
  simp [lrc, Sized.set, List.take_set_of_le]

/-- What is written last makes the check byte right. -/
theorem writeToSocketInternal_lrc :
    lrc handler.writeToSocketInternal.buffer =
      handler.writeToSocketInternal.buffer.byteAt (frameSize - 1) := by
  rw [writeToSocketInternal, lrc_set_last, Sized.byteAt_set (by decide)]

/-- Writing the check byte leaves the other bytes alone. -/
theorem writeToSocketInternal_byteAt {index : Nat} (inside : index < frameSize - 1) :
    handler.writeToSocketInternal.buffer.byteAt index = handler.buffer.byteAt index :=
  Sized.byteAt_set_ne (by omega)

theorem writeToSocket_head :
    handler.writeToSocket.buffer.byteAt 0 = ControlChar.stx.byte := by
  rw [writeToSocket, writeToSocketInternal_byteAt (by decide), Sized.byteAt_set_ne (by decide),
    Sized.byteAt_set (by decide)]

theorem writeToSocket_foot :
    handler.writeToSocket.buffer.byteAt (frameSize - 2) = ControlChar.etx.byte := by
  rw [writeToSocket, writeToSocketInternal_byteAt (by decide), Sized.byteAt_set (by decide)]

theorem writeToSocket_payload : payload handler.writeToSocket.buffer = payload handler.buffer := by
  apply Sized.slice_eq_slice
  intro index late early
  have inside : index < frameSize - 2 := by
    simp only [frameSize, bufferSize] at early ⊢
    omega
  rw [writeToSocket, writeToSocketInternal_byteAt (by omega), Sized.byteAt_set_ne (by omega),
    Sized.byteAt_set_ne (by omega)]

theorem sendControlChar_head {char : ControlChar} :
    (handler.sendControlChar char).buffer.byteAt 0 = ControlChar.stc.byte := by
  rw [sendControlChar, writeToSocketInternal_byteAt (by decide), Sized.byteAt_set_ne (by decide),
    Sized.byteAt_set (by decide)]

theorem sendControlChar_char {char : ControlChar} :
    (handler.sendControlChar char).buffer.byteAt 1 = char.byte := by
  rw [sendControlChar, writeToSocketInternal_byteAt (by decide), Sized.byteAt_set (by decide)]

/-- What was written through `getBuffer()` is the payload. -/
@[simp] theorem payload_fill {bytes : Sized bufferSize} :
    payload (handler.fill bytes).buffer = bytes := by
  have head : (handler.buffer.1.take 1).length = 1 := by simp [frameSize]
  apply Sized.ext
  simp only [payload, fill, Sized.slice]
  rw [List.drop_left' head, List.take_left' bytes.2]

/-- The frame of `writeToSocket`. -/
def dataFrame (handler : SocketHandler) : Frame where
  content := .data (payload handler.buffer)
  bytes := handler.writeToSocket.buffer
  carries := ⟨writeToSocket_head, writeToSocket_payload⟩
  passes := by
    have right : lrc handler.writeToSocket.buffer =
        handler.writeToSocket.buffer.byteAt (frameSize - 1) := writeToSocketInternal_lrc
    have heads : ControlChar.stx.byte ≠ ControlChar.stc.byte := by decide
    simp [checks, checkDataFormat, writeToSocket_head, writeToSocket_foot, right, heads]

/-- The frame of `sendControlChar`. -/
def controlFrame (handler : SocketHandler) (char : ControlChar) : Frame where
  content := .control char
  bytes := (handler.sendControlChar char).buffer
  carries := ⟨sendControlChar_head, sendControlChar_char⟩
  passes := by
    have heads : ControlChar.stc.byte ≠ ControlChar.stx.byte := by decide
    simp [checks, checkDataFormat, sendControlChar_head, sendControlChar_char, heads]

/-- The number of bytes of a frame up to the last one it shows: a head and a control
character, or a head and the data. -/
def shownSize (bytes : Sized frameSize) : Nat :=
  if bytes.byteAt 0 = ControlChar.stc.byte then 2 else bufferSize + 1

/-! ### What a read shows -/

variable {chunk : List UInt8} {fits : chunk.length ≤ frameSize}

/-- A read succeeds exactly when its bytes over the old ones pass the checks. -/
theorem readFromSocket_bytes : (handler.readFromSocket (.bytes chunk fits)).1 = true ↔
    checks (handler.data.overwrite chunk fits) = .none := by
  by_cases passes : checks (handler.data.overwrite chunk fits) = .none
  · simp [readFromSocket, readFromSocketInternal, passes]
  · simp [readFromSocket, readFromSocketInternal, passes]

/-- After a read which succeeds, the bytes are there. -/
theorem readFromSocket_data
    (succeeds : (handler.readFromSocket (.bytes chunk fits)).1 = true) :
    (handler.readFromSocket (.bytes chunk fits)).2.data = handler.data.overwrite chunk fits := by
  have passes := readFromSocket_bytes.mp succeeds
  simp [readFromSocket, readFromSocketInternal, passes]

/-- A handler shows what its data carry. -/
theorem exposed_of_carries {content : Content} (carries : Carries handler.data content) :
    handler.exposed = some content := by
  cases content with
  | data sent =>
      obtain ⟨head, same⟩ := carries
      simp [exposed, hasData, getData, head, same]
  | control char =>
      obtain ⟨head, same⟩ := carries
      have heads : ControlChar.stc.byte ≠ ControlChar.stx.byte := by decide
      simp [exposed, hasData, hasControlChar, getControlChar, head, same, heads]

/-- The first bytes of a frame, up to the last one it shows, carry what the frame carries. -/
theorem carries_of_prefix {frame : Frame} {bytes : Sized frameSize} {count : Nat}
    (same : ∀ index < count, bytes.byteAt index = frame.bytes.byteAt index)
    (shown : shownSize bytes ≤ count) : Carries bytes frame.content := by
  have carries := frame.carries
  have positive : 0 < count := by
    unfold shownSize at shown
    split at shown <;> omega
  cases content : frame.content with
  | data sent =>
      rw [content] at carries
      have head : bytes.byteAt 0 = ControlChar.stx.byte := by rw [same 0 positive, carries.1]
      have heads : ControlChar.stx.byte ≠ ControlChar.stc.byte := by decide
      rw [shownSize, head, if_neg heads] at shown
      refine ⟨head, ?_⟩
      rw [← carries.2]
      exact Sized.slice_eq_slice fun index _ early => same index (by omega)
  | control char =>
      rw [content] at carries
      have head : bytes.byteAt 0 = ControlChar.stc.byte := by rw [same 0 positive, carries.1]
      rw [shownSize, if_pos head] at shown
      exact ⟨head, by rw [same 1 (by omega), carries.2]⟩

end SocketHandler

end EasyCab
