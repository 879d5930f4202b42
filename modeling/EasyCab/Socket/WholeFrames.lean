import Mathlib.Data.List.Forall2
import EasyCab.Socket.SocketHandler

/-!
# Streams of whole frames

Both ends of a connection reuse one array for all frames, so a frame carries bytes of
the frames before it and a handler reads a frame over what it read before. When every
frame is read whole this does no harm: `whole_frames_round_trip` says that each read
shows the data or the control character which was written, whatever the arrays held
at first.
-/

namespace EasyCab

open Library

/-- `read` may answer a whole frame. -/
theorem Frame.bytes_fit (frame : Frame) : frame.bytes.1.length ≤ frameSize :=
  Nat.le_of_eq frame.bytes.2

/-- `read` answers the whole frame. -/
def Frame.incoming (frame : Frame) : Incoming :=
  .bytes frame.bytes.1 frame.bytes_fit

namespace SocketHandler

/-! ### Writing many frames -/

/-- What the user of a handler does to send something. -/
inductive Operation where
  /-- The user writes through `getBuffer()`; these are the bytes there afterwards. -/
  | edit (payload : Sized bufferSize)
  | writeToSocket
  | sendControlChar (char : ControlChar)

/-- The handler after an operation. -/
def operate (handler : SocketHandler) : Operation → SocketHandler
  | .edit payload => handler.fill payload
  | .writeToSocket => handler.writeToSocket
  | .sendControlChar char => handler.sendControlChar char

/-- The frame which an operation writes, with what it is for. -/
def emitted? (handler : SocketHandler) : Operation → Option Frame
  | .edit _ => none
  | .writeToSocket => some handler.dataFrame
  | .sendControlChar char => some (handler.controlFrame char)

/-- The frames which are written, in order. -/
def emit (handler : SocketHandler) : List Operation → List Frame
  | [] => []
  | operation :: operations =>
      (handler.emitted? operation).toList ++ (handler.operate operation).emit operations

/-! ### Reading many frames -/

/-- A call of `readFromSocket` for which `read` answers a whole frame. -/
def readFrame (handler : SocketHandler) (frame : Frame) : Bool × SocketHandler :=
  handler.readFromSocket frame.incoming

/-- What each call of `readFromSocket` returns, and the handler after it. -/
def readFrames (handler : SocketHandler) : List Frame → List (Bool × SocketHandler)
  | [] => []
  | frame :: frames => handler.readFrame frame :: (handler.readFrame frame).2.readFrames frames

/-- A call of `readFromSocket` returned true and shows this to the user. -/
def Shows (read : Bool × SocketHandler) : Content → Prop
  | .data payload => read.1 = true ∧ read.2.hasData = true ∧ read.2.getData = payload
  | .control char =>
      read.1 = true ∧ read.2.hasControlChar = true ∧ read.2.getControlChar = some char

variable {handler : SocketHandler} {frame : Frame}

/-- A frame which is read whole passes the checks. -/
theorem readFrame_returns : (handler.readFrame frame).1 = true := by
  rw [readFrame, Frame.incoming, readFromSocket_bytes, Sized.overwrite_whole]
  exact frame.passes

/-- A frame which is read whole is all there is in the data. -/
theorem readFrame_data : (handler.readFrame frame).2.data = frame.bytes :=
  (readFromSocket_data readFrame_returns).trans (Sized.overwrite_whole frame.bytes)

/-- Data which carry something show it. -/
theorem shows_of_carries {read : Bool × SocketHandler} {content : Content}
    (returned : read.1 = true) (carries : Carries read.2.data content) : Shows read content := by
  cases content with
  | data payload =>
      obtain ⟨head, same⟩ := carries
      have present : read.2.hasData = true := by simp [hasData, head]
      refine ⟨returned, present, ?_⟩
      rw [getData, if_pos present, same]
  | control char =>
      obtain ⟨head, same⟩ := carries
      have present : read.2.hasControlChar = true := by simp [hasControlChar, head]
      refine ⟨returned, present, ?_⟩
      rw [getControlChar, if_pos present, same, ControlChar.ofByte?_byte]

/-- A frame which is read whole shows what it is for. -/
theorem readFrame_shows : Shows (handler.readFrame frame) frame.content := by
  apply shows_of_carries readFrame_returns
  rw [readFrame_data]
  exact frame.carries

/-- Frames which are read whole and in order show what they are for, one after the other. -/
theorem readFrames_show (frames : List Frame) :
    List.Forall₂ (fun frame read => Shows read frame.content) frames
      (handler.readFrames frames) := by
  induction frames generalizing handler with
  | nil => exact .nil
  | cons frame frames inductionHypothesis => exact .cons readFrame_shows inductionHypothesis

end SocketHandler

end EasyCab
