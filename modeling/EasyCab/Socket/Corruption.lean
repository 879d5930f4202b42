import EasyCab.Socket.WholeFrames

/-!
# Frames damaged on their way

A data frame carries an exclusive or of its bytes, and one byte which is changed makes the
frame fail the checks wherever it stands, with one exception: a head which becomes `STC` makes
it a frame of a single control character, which neither `ETX` nor the check byte protects.
`damaged_frame_rejected` says that this is the only way past the checks, and what is read then.
-/

namespace EasyCab

open Library

namespace SocketHandler

/-- `read` answers a whole frame of these bytes. -/
def wholeRead (bytes : Sized frameSize) : Incoming := .bytes bytes.1 (Nat.le_of_eq bytes.2)

/-- A call of `readFromSocket` returned false, and the handler shows nothing. -/
def Rejects (read : Bool × SocketHandler) : Prop :=
  read.1 = false ∧ read.2.hasData = false ∧ read.2.hasControlChar = false

instance (read : Bool × SocketHandler) : Decidable (Rejects read) :=
  inferInstanceAs (Decidable (_ ∧ _ ∧ _))

/-- The control character which a data frame with this payload becomes, if it becomes one, when
the byte at `index` is changed to `byte`. -/
def disguise? (payload : Sized bufferSize) (index : Nat) (byte : UInt8) : Option ControlChar :=
  if index = 0 ∧ byte = ControlChar.stc.byte then ControlChar.ofByte? (payload.byteAt 0) else none

/-- The bytes which `writeToSocket` writes for a payload. -/
def dataBytes (writer : SocketHandler) (payload : Sized bufferSize) : Sized frameSize :=
  (writer.fill payload).writeToSocket.buffer

variable {writer reader : SocketHandler} {payload : Sized bufferSize} {bytes : Sized frameSize}
  {index : Nat} {byte : UInt8}

/-- A handler rejects a whole frame which fails the checks, whatever it read before. -/
theorem rejects_of_checks (fails : checks bytes ≠ .none) :
    Rejects (reader.readFromSocket (wholeRead bytes)) := by
  have head : (bytes.set 0 ControlChar.none.byte).byteAt 0 = ControlChar.none.byte :=
    Sized.byteAt_set (by decide)
  have returned : reader.readFromSocket (wholeRead bytes) =
      (false, { reader with data := bytes.set 0 ControlChar.none.byte, error := checks bytes }) := by
    simp [readFromSocket, readFromSocketInternal, wholeRead, Sized.overwrite_whole, fails]
  rw [returned]
  refine ⟨rfl, ?_, ?_⟩
  · simp only [hasData, head]
    rfl
  · simp only [hasControlChar, head]
    rfl

/-- A handler shows the control character of a whole frame with the head `STC`. -/
theorem shows_of_control {char : ControlChar} (head : bytes.byteAt 0 = ControlChar.stc.byte)
    (named : ControlChar.ofByte? (bytes.byteAt 1) = some char) :
    Shows (reader.readFromSocket (wholeRead bytes)) (.control char) := by
  have heads : ControlChar.stc.byte ≠ ControlChar.stx.byte := by decide
  have passes : checks bytes = .none := by simp [checks, checkDataFormat, head, named, heads]
  have returned : reader.readFromSocket (wholeRead bytes) =
      (true, { reader with data := bytes, error := .none }) := by
    simp [readFromSocket, readFromSocketInternal, wholeRead, Sized.overwrite_whole, passes]
  rw [returned]
  refine ⟨rfl, ?_, ?_⟩
  · simp [hasControlChar, head]
  · simp [getControlChar, hasControlChar, head, named]

/-- The check byte of a frame follows every byte before it. -/
theorem lrc_set_inj (inside : index < frameSize - 1) :
    lrc (bytes.set index byte) = lrc bytes ↔ byte = bytes.byteAt index := by
  have early : index < (bytes.1.take (frameSize - 1)).length := by
    rw [List.length_take, bytes.2]
    omega
  have same : (bytes.1.take (frameSize - 1)).getD index 0 = bytes.byteAt index := by
    simp [Sized.byteAt, List.getD_eq_getElem?_getD, List.getElem?_take_of_lt inside]
  rw [lrc, lrc, Sized.set, List.take_set, foldl_xor_set_inj early, same]

/-- A frame which keeps its head is caught by the check byte, if not before. -/
theorem checks_damaged_body (head : bytes.byteAt 0 = ControlChar.stx.byte)
    (right : lrc bytes = bytes.byteAt (frameSize - 1)) (body : index ≠ 0)
    (inside : index < frameSize) (changed : byte ≠ bytes.byteAt index) :
    checks (bytes.set index byte) ≠ .none := by
  have kept : (bytes.set index byte).byteAt 0 = ControlChar.stx.byte := by
    rw [Sized.byteAt_set_ne body, head]
  by_cases last : index = frameSize - 1
  · -- The check byte itself was changed.
    subst last
    have wrong : lrc (bytes.set (frameSize - 1) byte) ≠
        (bytes.set (frameSize - 1) byte).byteAt (frameSize - 1) := by
      rw [lrc_set_last, Sized.byteAt_set inside, right]
      exact changed.symm
    by_cases format : checkDataFormat (bytes.set (frameSize - 1) byte) = true
    · simp [checks, format, kept, wrong]
    · simp [checks, format]
  · have early : index < frameSize - 1 := by omega
    have wrong : lrc (bytes.set index byte) ≠ (bytes.set index byte).byteAt (frameSize - 1) := by
      rw [Sized.byteAt_set_ne last, ← right]
      exact fun same => changed ((lrc_set_inj early).mp same)
    by_cases format : checkDataFormat (bytes.set index byte) = true
    · simp [checks, format, kept, wrong]
    · simp [checks, format]

/-- A frame whose head is changed to no head is no frame. -/
theorem checks_damaged_head (stx : byte ≠ ControlChar.stx.byte)
    (stc : byte = ControlChar.stc.byte → ControlChar.ofByte? (bytes.byteAt 1) = none) :
    checks (bytes.set 0 byte) ≠ .none := by
  have head : (bytes.set 0 byte).byteAt 0 = byte := Sized.byteAt_set (by decide)
  have next : (bytes.set 0 byte).byteAt 1 = bytes.byteAt 1 := Sized.byteAt_set_ne (by decide)
  have format : checkDataFormat (bytes.set 0 byte) = false := by
    by_cases control : byte = ControlChar.stc.byte
    · rw [checkDataFormat, head, if_pos control, next, stc control]
      rfl
    · rw [checkDataFormat, head, if_neg control, if_neg stx]
  simp [checks, format]

/-- The payload of a frame begins right after its head. -/
theorem dataBytes_first : (writer.dataBytes payload).byteAt 1 = payload.byteAt 0 := by
  have same : EasyCab.payload (writer.dataBytes payload) = payload := by
    rw [dataBytes, writeToSocket_payload, payload_fill]
  have first := congrArg (fun bytes : Sized bufferSize => bytes.byteAt 0) same
  have shifted : (EasyCab.payload (writer.dataBytes payload)).byteAt 0 =
      (writer.dataBytes payload).byteAt 1 := by
    simp [EasyCab.payload, Sized.slice, Sized.byteAt, List.getD_eq_getElem?_getD, bufferSize]
  exact shifted.symm.trans first

end SocketHandler

open SocketHandler

/-- A data frame of which one byte was changed is rejected, unless its head was changed to `STC` and
its payload begins with the byte of a control character: then it is read as that character. -/
theorem damaged_frame_rejected (writer reader : SocketHandler) (payload : Sized bufferSize)
    (index : Nat) (byte : UInt8) (inside : index < frameSize)
    (changed : byte ≠ (writer.dataBytes payload).byteAt index) :
    match disguise? payload index byte with
    | none => Rejects (reader.readFromSocket (wholeRead ((writer.dataBytes payload).set index byte)))
    | some char =>
        Shows (reader.readFromSocket (wholeRead ((writer.dataBytes payload).set index byte)))
          (.control char) := by
  have head : (writer.dataBytes payload).byteAt 0 = ControlChar.stx.byte := writeToSocket_head
  by_cases front : index = 0
  · subst front
    have next : ((writer.dataBytes payload).set 0 byte).byteAt 1 = payload.byteAt 0 := by
      rw [Sized.byteAt_set_ne (by decide), dataBytes_first]
    rw [head] at changed
    cases disguised : disguise? payload 0 byte with
    | none =>
        refine rejects_of_checks (checks_damaged_head changed fun control => ?_)
        rw [dataBytes_first]
        simpa [disguise?, control] using disguised
    | some char =>
        obtain ⟨⟨_, control⟩, named⟩ := Option.ite_none_right_eq_some.mp disguised
        refine shows_of_control ?_ (by rw [next, named])
        rw [Sized.byteAt_set (by decide), control]
  · have plain : disguise? payload index byte = none := if_neg fun disguised => front disguised.1
    rw [plain]
    exact rejects_of_checks
      (checks_damaged_body head writeToSocketInternal_lrc front inside changed)

/-- A payload which begins with `ENQ`. -/
def enquiry : Sized bufferSize := (Sized.fill bufferSize 0).set 0 ControlChar.enq.byte

/-- A frame whose check byte was changed is rejected. -/
theorem damaged_check_byte_rejected :
    Rejects (SocketHandler.new.readFromSocket
      (wholeRead ((SocketHandler.new.dataBytes enquiry).set (frameSize - 1) 7))) :=
  damaged_frame_rejected .new .new enquiry (frameSize - 1) 7 (by decide) (by decide +kernel)

/-- A frame which begins with `ENQ` after its head is let through when its head becomes `STC`. -/
theorem damaged_head_accepted :
    ¬ ∀ (writer reader : SocketHandler) (payload : Sized bufferSize) (index : Nat) (byte : UInt8),
      index < frameSize → byte ≠ (writer.dataBytes payload).byteAt index →
        Rejects (reader.readFromSocket
          (wholeRead ((writer.dataBytes payload).set index byte))) := by
  intro claimed
  have rejected := claimed .new .new enquiry 0 ControlChar.stc.byte (by decide) (by decide +kernel)
  revert rejected
  decide +kernel

end EasyCab
