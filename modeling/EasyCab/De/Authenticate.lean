import EasyCab.Socket.WholeFrames

/-!
# The authentication of a taxi

`authenticate` of `EC_DE`: up to three times `ENQ`, until a read answers `ACK`, then
the identifier and one more read. It goes from one read to the next; what it writes
between them is listed with the step. An error sends `EOT` and ends the process.
-/

namespace EasyCab

open Library

/-- Where `authenticate` is. -/
inductive AuthenticatePhase where
  /-- In the read of this round of the loop. -/
  | asking (round : Nat)
  /-- In the read after the identifier was sent. -/
  | proposed
  /-- The process ended because that read failed or the loop was over. -/
  | exited
  /-- The process ended because the frame which answered the identifier was not data with `ACK`. -/
  | refused
  | authenticated (session : Uuid)
deriving DecidableEq

/-- The handler of `authenticate` and where it is. -/
structure Authenticate where
  handler : SocketHandler
  phase : AuthenticatePhase

/-- An answer and the session behind it fit in the buffer. -/
theorem session_fits : 1 + uuidLength ≤ bufferSize := by decide

namespace Authenticate

/-- `sendControlChar`. -/
def sendControlChar (handler : SocketHandler) (char : ControlChar) (phase : AuthenticatePhase) :
    Authenticate × List Frame :=
  (⟨handler.sendControlChar char, phase⟩, [handler.controlFrame char])

/-- The loop is entered. -/
def start : Authenticate × List Frame := sendControlChar .new .enq (.asking 0)

/-- The handler after the identifier was copied to its buffer. -/
def putId (handler : SocketHandler) (id : TaxiId) : SocketHandler :=
  handler.fill ((payload handler.buffer).overwrite (littleEndian 2 id.toUInt16.toNat)
    (by rw [littleEndian_length]; decide))

/-- What follows the read of a round of the loop. -/
def asked (id : TaxiId) (round : Nat) (returned : Bool) (handler : SocketHandler) :
    Authenticate × List Frame :=
  if ¬ returned ∧ handler.error ≠ .timeout then sendControlChar handler .eot .exited
  else if handler.hasControlChar ∧ handler.getControlChar = some .ack then
    (⟨(putId handler id).writeToSocket, .proposed⟩, [(putId handler id).dataFrame])
  else if round = 2 then sendControlChar handler .eot .exited
  else sendControlChar handler .enq (.asking (round + 1))

/-- What follows the read after the identifier was sent. -/
def answered (returned : Bool) (handler : SocketHandler) : Authenticate × List Frame :=
  if ¬ returned ∧ handler.error ≠ .timeout then sendControlChar handler .eot .exited
  else if ¬ handler.hasData ∨ handler.getData.byteAt 0 ≠ ControlChar.ack.byte then
    sendControlChar handler .eot (if returned then .refused else .exited)
  else
    sendControlChar handler .eot
      (.authenticated (handler.getData.slice 1 uuidLength session_fits))

/-- A read answers. -/
def turn (id : TaxiId) (authenticate : Authenticate) (incoming : Incoming) :
    Option (Authenticate × List Frame) :=
  let (returned, handler) := authenticate.handler.readFromSocket incoming
  match authenticate.phase with
  | .asking round => some (asked id round returned handler)
  | .proposed => some (answered returned handler)
  | _ => none

end Authenticate

end EasyCab
