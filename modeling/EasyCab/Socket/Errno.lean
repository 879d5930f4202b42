import EasyCab.Socket.SocketHandler

/-!
# What is read from `errno`

`readFromSocketInternal` looks at `errno` whenever `read` answers less than a byte. The end of the
stream leaves `errno` as it is, so it passes for a timeout when the last read that failed was one.
-/

namespace EasyCab

open Library

/-- `EAGAIN`. -/
def eagain : Int32 := 11

/-- `EWOULDBLOCK`. -/
def ewouldblock : Int32 := 11

/-- `errno == EAGAIN || errno == EWOULDBLOCK`. -/
def WouldBlock (errno : Int32) : Prop := errno = eagain ∨ errno = ewouldblock

instance (errno : Int32) : Decidable (WouldBlock errno) := instDecidableOr

/-- What `read` does: it answers some bytes, or zero, or `-1` after it has set `errno`. -/
inductive ReadOutcome where
  | bytes (chunk : List UInt8) (nonempty : chunk ≠ []) (fits : chunk.length ≤ frameSize)
  | endOfStream
  | failed (errno : Int32)

namespace ReadOutcome

/-- `errno` after `read`. -/
def errnoAfter (errno : Int32) : ReadOutcome → Int32
  | .failed errno => errno
  | _ => errno

/-- What the handler makes of it. -/
def incoming (errno : Int32) : ReadOutcome → Incoming
  | .bytes chunk _ fits => .bytes chunk fits
  | .endOfStream => .failed (decide (WouldBlock errno))
  | .failed errno => .failed (decide (WouldBlock errno))

/-- The read failed because nothing came in time. -/
def TimedOut : ReadOutcome → Prop
  | .failed errno => WouldBlock errno
  | _ => False

end ReadOutcome

/-- A handler of an open socket, and `errno`. -/
structure SocketReader where
  handler : SocketHandler
  errno : Int32

namespace SocketReader

/-- `readFromSocket`: what it returns, and the reader afterwards. -/
def readFromSocket (reader : SocketReader) (outcome : ReadOutcome) : Bool × SocketReader :=
  let errno := outcome.errnoAfter reader.errno
  let (returned, handler) := reader.handler.readFromSocket (outcome.incoming errno)
  (returned, ⟨handler, errno⟩)

/-- `getError`. -/
def getError (reader : SocketReader) : ReadError := reader.handler.error

/-- The reader after some reads. -/
def afterReads (reader : SocketReader) (outcomes : List ReadOutcome) : SocketReader :=
  outcomes.foldl (fun reader outcome => (reader.readFromSocket outcome).2) reader

/-- After each read, the error is a timeout exactly if this read timed out. -/
def ClassifiesReads (reader : SocketReader) (outcomes : List ReadOutcome) : Prop :=
  ∀ earlier outcome later, outcomes = earlier ++ outcome :: later →
    (((reader.afterReads earlier).readFromSocket outcome).2.getError = .timeout ↔ outcome.TimedOut)

/-- `errno` after some reads. -/
def errnoAfter (errno : Int32) (outcomes : List ReadOutcome) : Int32 :=
  outcomes.foldl ReadOutcome.errnoAfter errno

variable {reader : SocketReader}

theorem afterReads_errno (outcomes : List ReadOutcome) :
    (reader.afterReads outcomes).errno = errnoAfter reader.errno outcomes := by
  induction outcomes generalizing reader with
  | nil => rfl
  | cons outcome outcomes inductionHypothesis =>
      change ((reader.readFromSocket outcome).2.afterReads outcomes).errno = _
      rw [inductionHypothesis]
      rfl

/-- The checks of what was read do not find a timeout. -/
theorem checks_ne_timeout (data : Sized frameSize) : SocketHandler.checks data ≠ .timeout := by
  unfold SocketHandler.checks
  split
  · simp
  · split <;> simp

/-- Emptying the data after an error does not change the error. -/
theorem readFromSocket_error (handler : SocketHandler) (incoming : Incoming) :
    (handler.readFromSocket incoming).2.error = (handler.readFromSocketInternal incoming).error := by
  simp only [SocketHandler.readFromSocket]
  split <;> rfl

/-- A read which answers no byte is a timeout if `errno` says so. -/
theorem failed_error_iff (handler : SocketHandler) (errno : Int32) :
    (handler.readFromSocket (.failed (decide (WouldBlock errno)))).2.error = .timeout ↔
      WouldBlock errno := by
  rw [readFromSocket_error]
  by_cases blocks : WouldBlock errno <;> simp [SocketHandler.readFromSocketInternal, blocks]

/-- One read is classified wrongly at the end of the stream, if `errno` is that of a timeout. -/
theorem getError_readFromSocket (outcome : ReadOutcome) :
    ((reader.readFromSocket outcome).2.getError = .timeout ↔ outcome.TimedOut) ↔
      (outcome = .endOfStream → ¬ WouldBlock reader.errno) := by
  cases outcome with
  | bytes chunk nonempty fits =>
      have other : (reader.readFromSocket (.bytes chunk nonempty fits)).2.getError ≠ .timeout := by
        change (reader.handler.readFromSocket (.bytes chunk fits)).2.error ≠ .timeout
        rw [readFromSocket_error]
        exact checks_ne_timeout _
      simp [other, ReadOutcome.TimedOut]
  | endOfStream =>
      have classified := failed_error_iff reader.handler reader.errno
      change ((reader.handler.readFromSocket (.failed (decide (WouldBlock reader.errno)))).2.error =
        .timeout ↔ False) ↔ _
      rw [classified, iff_false]
      exact ⟨fun other _ => other, fun other => other rfl⟩
  | failed errno =>
      have classified := failed_error_iff reader.handler errno
      change ((reader.handler.readFromSocket (.failed (decide (WouldBlock errno)))).2.error =
        .timeout ↔ WouldBlock errno) ↔ _
      simp [classified]

end SocketReader

/-- However a connection is read, the error after each read is a timeout exactly if that read timed
out, as long as the stream does not end where `errno` is still that of a timeout. -/
theorem reads_classified_iff (reader : SocketReader) (outcomes : List ReadOutcome) :
    reader.ClassifiesReads outcomes ↔
      ∀ earlier later, outcomes = earlier ++ .endOfStream :: later →
        ¬ WouldBlock (SocketReader.errnoAfter reader.errno earlier) := by
  constructor
  · intro classifies earlier later split
    rw [← SocketReader.afterReads_errno]
    exact (SocketReader.getError_readFromSocket _).mp (classifies earlier _ later split) rfl
  · intro ends earlier outcome later split
    rw [SocketReader.getError_readFromSocket]
    rintro rfl
    rw [SocketReader.afterReads_errno]
    exact ends earlier later split

/-- A read times out, and then the peer closes the connection. -/
theorem closed_after_timeout :
    ¬ SocketReader.ClassifiesReads ⟨.new, 0⟩ [.failed eagain, .endOfStream] := by
  intro classifies
  have last := classifies [.failed eagain] .endOfStream [] rfl
  rw [SocketReader.getError_readFromSocket] at last
  exact last rfl (by decide)

end EasyCab
