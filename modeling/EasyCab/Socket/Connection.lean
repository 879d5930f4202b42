import EasyCab.Library.Machine
import EasyCab.Socket.SocketHandler

/-!
# Frames through a stream

One direction of a connection: one handler writes frames and another reads. Each
`read` answers some of the bytes still to come, at most as many as a frame has, and
wherever it likes. `frames_delivered_in_order` says when that does no harm: what is let through
shows bytes of the frame at whose start that `read` began. A read which begins or ends
elsewhere and still passes the checks shows bytes of other frames, as `stx_redelivers`
does in every connection.
-/

namespace EasyCab

open Library

/-- The two ends, the frames written and the contents delivered, oldest first, and the number
of bytes which were read. -/
structure Connection where
  writer : SocketHandler
  reader : SocketHandler
  written : List Frame
  taken : Nat
  delivered : List Content

namespace Connection

/-- What can happen next. -/
inductive Event where
  /-- The user of the writer changes its buffer. -/
  | fill (payload : Sized bufferSize)
  /-- A data frame is written. -/
  | writeToSocket
  /-- A control character is written. -/
  | sendControlChar (char : ControlChar)
  /-- The reader calls `readFromSocket`, and `read` answers so many bytes. -/
  | read (count : Nat) (fits : count ≤ frameSize)
  /-- The reader calls `readFromSocket`, and `read` answers none. -/
  | fail (wouldBlock : Bool)

/-- The bytes which were written. -/
def stream (connection : Connection) : List UInt8 := connection.written.flatMap (·.bytes.1)

/-- The contents of the frames which were written. -/
def sent (connection : Connection) : List Content := connection.written.map (·.content)

/-- The next bytes of the stream. -/
def chunk (connection : Connection) (count : Nat) : List UInt8 :=
  (connection.stream.drop connection.taken).take count

theorem chunk_fits (connection : Connection) {count : Nat} (fits : count ≤ frameSize) :
    (connection.chunk count).length ≤ frameSize :=
  Nat.le_trans (List.length_take_le _ _) fits

/-- The data of the reader with the next bytes of the stream laid over them. -/
def laid (connection : Connection) (count : Nat) (fits : count ≤ frameSize) : Sized frameSize :=
  connection.reader.data.overwrite (connection.chunk count) (connection.chunk_fits fits)

/-- A call of `readFromSocket`, and the frame which the reader shows if it returns true. -/
def receive (connection : Connection) (incoming : Incoming) (count : Nat) : Connection :=
  let (returned, reader) := connection.reader.readFromSocket incoming
  { connection with
    reader := reader
    taken := connection.taken + count
    delivered :=
      if returned then connection.delivered ++ reader.exposed.toList else connection.delivered }

/-- One step of one end. -/
def step (connection : Connection) : Event → Option Connection
  | .fill payload => some { connection with writer := connection.writer.fill payload }
  | .writeToSocket =>
      some { connection with
        writer := connection.writer.writeToSocket
        written := connection.written ++ [connection.writer.dataFrame] }
  | .sendControlChar char =>
      some { connection with
        writer := connection.writer.sendControlChar char
        written := connection.written ++ [connection.writer.controlFrame char] }
  | .read count fits =>
      if 0 < count ∧ connection.taken + count ≤ connection.stream.length then
        some (connection.receive (.bytes (connection.chunk count) (connection.chunk_fits fits)) count)
      else none
  | .fail wouldBlock => some (connection.receive (.failed wouldBlock) 0)

/-- A connection as a machine. -/
def machine : Machine Connection Event := ⟨step⟩

/-- A connection which has just been opened. -/
def start : Connection := ⟨.new, .new, [], 0, []⟩

/-! ### Invariants -/

/-- The number of frames of which a byte was read. -/
def begun (connection : Connection) : Nat := (connection.taken + (frameSize - 1)) / frameSize

/-- What was delivered are some of the frames of which a byte was read, in order. -/
def Inv (connection : Connection) : Prop :=
  connection.delivered.Sublist ((connection.written.take connection.begun).map (·.content))

variable {connection : Connection}

/-- More frames and more bytes keep the invariant while nothing is delivered. -/
theorem Inv.of_grows {later : Connection} (holds : connection.Inv) {frames : List Frame}
    (written : later.written = connection.written ++ frames)
    (taken : connection.taken ≤ later.taken) (same : later.delivered = connection.delivered) :
    later.Inv := by
  have begun : connection.begun ≤ later.begun := Nat.div_le_div_right (by omega)
  have grows : (connection.written.take connection.begun).Sublist
      (later.written.take later.begun) := by
    rw [written, List.take_append]
    exact (List.take_sublist_take_left begun).trans (List.sublist_append_left _ _)
  unfold Inv at holds ⊢
  rw [same]
  exact holds.trans (grows.map _)

/-- A failed read delivers nothing. -/
theorem receive_failed {wouldBlock : Bool} {count : Nat} :
    (connection.receive (.failed wouldBlock) count).delivered = connection.delivered := by
  have fails : (connection.reader.readFromSocket (.failed wouldBlock)).1 = false := by
    cases wouldBlock <;> rfl
  simp [receive, fails]

section Read

variable {count : Nat} {fits : count ≤ frameSize}

/-- A read whose bytes do not pass the checks delivers nothing. -/
theorem receive_refused (refused : SocketHandler.checks (connection.laid count fits) ≠ .none) :
    (connection.receive (.bytes (connection.chunk count) (connection.chunk_fits fits))
      count).delivered = connection.delivered := by
  have fails : (connection.reader.readFromSocket
      (.bytes (connection.chunk count) (connection.chunk_fits fits))).1 = false := by
    rw [← Bool.not_eq_true, SocketHandler.readFromSocket_bytes]
    exact refused
  simp [receive, fails]

/-- A read which passes the checks delivers what its bytes carry over the old ones. -/
theorem receive_accepted {content : Content}
    (passes : SocketHandler.checks (connection.laid count fits) = .none)
    (carries : Carries (connection.laid count fits) content) :
    (connection.receive (.bytes (connection.chunk count) (connection.chunk_fits fits))
      count).delivered = connection.delivered ++ [content] := by
  have succeeds := SocketHandler.readFromSocket_bytes.mpr passes
  have data := SocketHandler.readFromSocket_data succeeds
  have shows : (connection.reader.readFromSocket
      (.bytes (connection.chunk count) (connection.chunk_fits fits))).2.exposed = some content := by
    apply SocketHandler.exposed_of_carries
    rw [data]
    exact carries
  simp [receive, succeeds, shows]

/-- A read which begins with a frame lays bytes of that frame over the old ones. -/
theorem laid_of_aligned (positive : 0 < count)
    (inside : connection.taken + count ≤ connection.stream.length)
    (aligned : connection.taken % frameSize = 0) :
    ∃ frame, connection.written[connection.taken / frameSize]? = some frame ∧
      ∀ index < count, (connection.laid count fits).byteAt index = frame.bytes.byteAt index := by
  have start : frameSize * (connection.taken / frameSize) = connection.taken := by
    have := Nat.div_add_mod connection.taken frameSize
    omega
  obtain ⟨frame, found, bytes⟩ := @take_drop_of_blocks Frame (·.bytes.1) frameSize
    (fun frame => frame.bytes.2) connection.written (connection.taken / frameSize) count positive
    fits (by rw [start]; exact inside)
  rw [start] at bytes
  refine ⟨frame, found, fun index early => ?_⟩
  have chunk : connection.chunk count = frame.bytes.1.take count := bytes
  have enough : index < (connection.chunk count).length := by
    rw [chunk, List.length_take, frame.bytes.2]
    omega
  rw [laid, Sized.byteAt_overwrite enough, chunk]
  simp [Sized.byteAt, List.getD_eq_getElem?_getD, early]

end Read

end Connection

/-- A step of a connection. -/
abbrev ConnectionStep := Transition Connection Connection.Event

namespace ConnectionStep

/-- A read which passes the checks took, from the first byte of a frame on, at least the bytes
that it shows. -/
def WithinFrame (taken : ConnectionStep) : Prop :=
  match taken.event with
  | .read count fits =>
      SocketHandler.checks (taken.before.laid count fits) = .none →
        taken.before.taken % frameSize = 0 ∧
          SocketHandler.shownSize (taken.before.laid count fits) ≤ count
  | _ => True

instance (taken : ConnectionStep) : Decidable taken.WithinFrame := by
  unfold WithinFrame
  split <;> infer_instance

/-- A step within a frame keeps the invariant. -/
theorem inv_preserved {taken : ConnectionStep}
    (stepped : Connection.machine.step taken.before taken.event = some taken.after)
    (within : taken.WithinFrame) (holds : taken.before.Inv) : taken.after.Inv := by
  obtain ⟨before, event, after⟩ := taken
  change before.step event = some after at stepped
  cases event with
  | fill payload =>
      cases stepped
      exact holds
  | writeToSocket =>
      cases stepped
      exact holds.of_grows rfl (Nat.le_refl _) rfl
  | sendControlChar char =>
      cases stepped
      exact holds.of_grows rfl (Nat.le_refl _) rfl
  | fail wouldBlock =>
      cases stepped
      exact holds.of_grows (List.append_nil _).symm (Nat.le_refl _) Connection.receive_failed
  | read count fits =>
      simp only [Connection.step, Option.ite_none_right_eq_some, Option.some.injEq] at stepped
      obtain ⟨⟨positive, inside⟩, rfl⟩ := stepped
      by_cases passes : SocketHandler.checks (before.laid count fits) = .none
      · obtain ⟨aligned, shown⟩ := within passes
        obtain ⟨frame, found, same⟩ := @Connection.laid_of_aligned before count fits positive
          inside aligned
        have carries := SocketHandler.carries_of_prefix same shown
        have start : before.taken % 259 = 0 := aligned
        have small : count ≤ 259 := fits
        have begunBefore : before.begun = before.taken / frameSize := by
          change (before.taken + 258) / 259 = before.taken / 259
          omega
        have begunAfter : (before.taken + count + (frameSize - 1)) / frameSize =
            before.taken / frameSize + 1 := by
          change (before.taken + count + 258) / 259 = before.taken / 259 + 1
          omega
        unfold Connection.Inv at holds ⊢
        rw [Connection.receive_accepted passes carries]
        simp only [Connection.begun, Connection.receive]
        rw [begunAfter, List.take_add_one, found, List.map_append]
        rw [begunBefore] at holds
        exact holds.append (List.Sublist.refl _)
      · exact holds.of_grows (List.append_nil _).symm (Nat.le_add_right _ _)
          (Connection.receive_refused passes)

end ConnectionStep

/-- In a run whose reads all stay within a frame where they pass the checks, every content
delivered was sent, each at most once and in the order sent. -/
theorem frames_delivered_in_order {events : List Connection.Event}
    (within : ∀ taken ∈ Connection.machine.run .start events, ConnectionStep.WithinFrame taken) :
    ∀ taken ∈ Connection.machine.run .start events,
      taken.after.delivered.Sublist taken.after.sent := by
  intro taken member
  have initial : Connection.start.Inv := List.Sublist.refl _
  have holds := (Machine.run_invariant Connection.Inv
    (fun _ stepped => ConnectionStep.inv_preserved stepped) initial within taken member).2
  exact holds.trans ((List.take_sublist _ _).map _)

/-! ### Reads of whole frames, and a read of one byte -/

namespace Connection

variable {connection : Connection}

/-- Whole frames were read, and all of them were delivered. -/
def Whole (connection : Connection) : Prop :=
  ∃ count ≤ connection.written.length, connection.taken = frameSize * count ∧
    connection.delivered = (connection.written.take count).map (·.content)

/-- A frame which is written later changes nothing of what was read. -/
theorem Whole.of_written {later : Connection} {frame : Frame} (whole : connection.Whole)
    (written : later.written = connection.written ++ [frame])
    (taken : later.taken = connection.taken) (same : later.delivered = connection.delivered) :
    later.Whole := by
  obtain ⟨count, inside, read, delivered⟩ := whole
  refine ⟨count, ?_, by rw [taken, read], ?_⟩
  · rw [written, List.length_append]
    omega
  · rw [same, delivered, written, List.take_append_of_le_length inside]

/-- A read of a whole frame delivers it. -/
theorem Whole.of_read {later : Connection} {fits : frameSize ≤ frameSize} (whole : connection.Whole)
    (stepped : connection.step (.read frameSize fits) = some later) : later.Whole := by
  obtain ⟨count, inside, read, delivered⟩ := whole
  simp only [step, Option.ite_none_right_eq_some, Option.some.injEq] at stepped
  obtain ⟨⟨positive, enough⟩, rfl⟩ := stepped
  have quotient : connection.taken / frameSize = count := by
    rw [read]
    exact Nat.mul_div_cancel_left count positive
  obtain ⟨frame, found, same⟩ := @laid_of_aligned connection frameSize fits positive enough
    (by rw [read]; exact Nat.mul_mod_right frameSize count)
  rw [quotient] at found
  have laid : connection.laid frameSize fits = frame.bytes := by
    apply Sized.ext
    apply List.ext_getElem (by simp)
    intro index inLaid inFrame
    have early : index < frameSize := by simpa using inLaid
    simpa [Sized.byteAt, List.getD_eq_getElem?_getD, early] using same index early
  have accepted := @receive_accepted connection frameSize fits frame.content
    (by rw [laid]; exact frame.passes) (by rw [laid]; exact frame.carries)
  refine ⟨count + 1, ?_, ?_, ?_⟩
  · have early : count < connection.written.length := (List.getElem?_eq_some_iff.mp found).1
    exact early
  · change connection.taken + frameSize = frameSize * (count + 1)
    rw [read, Nat.mul_succ]
  · rw [accepted, delivered]
    change _ = (connection.written.take (count + 1)).map (·.content)
    simp [List.take_add_one, found]

/-- The event reads a whole frame if it reads at all. -/
def Event.Whole : Event → Prop
  | .read count _ => count = frameSize
  | _ => True

/-- Where every read takes a whole frame, every frame read is delivered. -/
theorem whole_frames_delivered {events : List Event} (whole : ∀ event ∈ events, event.Whole)
    (executed : machine.exec .start events = some connection) : connection.Whole := by
  have initial : start.Whole := ⟨0, Nat.le_refl _, rfl, rfl⟩
  refine Machine.exec_invariant Whole ?_ initial whole executed
  intro before event after stepped allowed holds
  change before.step event = some after at stepped
  cases event with
  | fill payload =>
      cases stepped
      exact holds
  | writeToSocket =>
      cases stepped
      exact holds.of_written rfl rfl rfl
  | sendControlChar char =>
      cases stepped
      exact holds.of_written rfl rfl rfl
  | fail wouldBlock =>
      cases stepped
      obtain ⟨count, inside, read, delivered⟩ := holds
      exact ⟨count, inside, read, receive_failed.trans delivered⟩
  | read count fits =>
      obtain rfl : count = frameSize := allowed
      exact holds.of_read stepped

/-- While the reader holds a data frame, a read of nothing but the head of the next one delivers
the old data again. -/
theorem stx_redelivers (head : connection.reader.data.byteAt 0 = ControlChar.stx.byte)
    (passes : SocketHandler.checks connection.reader.data = .none)
    (next : connection.chunk 1 = [ControlChar.stx.byte]) :
    ∃ later, connection.step (.read 1 (by decide)) = some later ∧
      later.delivered = connection.delivered ++ [.data (payload connection.reader.data)] := by
  have laid : connection.laid 1 (by decide) = connection.reader.data := by
    apply Sized.ext
    apply List.ext_getElem (by simp)
    intro index inLaid inData
    cases index with
    | zero =>
        have old : connection.reader.data.1[0] = ControlChar.stx.byte := by
          rw [← head, Sized.byteAt, List.getD_eq_getElem?_getD, List.getElem?_eq_getElem inData,
            Option.getD_some]
        simp [laid, Sized.overwrite, next, old]
    | succ index => simp [laid, Sized.overwrite, next]
  have inside : connection.taken + 1 ≤ connection.stream.length := by
    have size : (connection.chunk 1).length = 1 := by rw [next]; rfl
    simp only [chunk, List.length_take, List.length_drop] at size
    omega
  refine ⟨_, if_pos ⟨by decide, inside⟩, ?_⟩
  exact receive_accepted (by rw [laid]; exact passes) (by rw [laid]; exact ⟨head, rfl⟩)

/-- Two data frames, which are read in these pieces. -/
def twoFrames (pieces : List Event) : List Event :=
  [.fill (Sized.fill bufferSize 1), .writeToSocket, .fill (Sized.fill bufferSize 2),
    .writeToSocket] ++ pieces

end Connection

/-- Two frames are read one after the other, and both are delivered. -/
theorem two_frames_delivered :
    (∃ taken ∈ Connection.machine.run .start
        (Connection.twoFrames [.read frameSize (by decide), .read frameSize (by decide)]),
      taken.after.delivered.length = 2) ∧
      ∀ taken ∈ Connection.machine.run .start
          (Connection.twoFrames [.read frameSize (by decide), .read frameSize (by decide)]),
        taken.after.delivered.Sublist taken.after.sent :=
  ⟨by decide +kernel, frames_delivered_in_order (by decide +kernel)⟩

/-- The second frame is cut after its first byte, and the first is delivered twice. -/
theorem first_frame_delivered_twice :
    ¬ ∀ taken ∈ Connection.machine.run .start
        (Connection.twoFrames [.read frameSize (by decide), .read 1 (by decide)]),
      taken.after.delivered.Sublist taken.after.sent := by
  decide +kernel

end EasyCab
