import EasyCab.Central.System
import EasyCab.Socket.SocketHandler

/-!
# The conversation with a taxi

`attendPetition` reads frames from one connection and answers them: an `ENQ` with a
control character, data with a data frame, which holds `ACK` or `NACK` and then the
session. The session is copied whichever of the two it is, and it stays in the buffer
under the control characters which are sent later, so `rejected_taxi_learns_nothing_iff` says that
a connection on which an identifier was proposed tells two sessions apart.
-/

namespace EasyCab

open Library

namespace AuthServer

/-- The database as one query of a thread finds it. -/
structure Occasion where
  now : Timestamp
  outages : List Bool
  db : Db

/-- `checkId(author, id, reconnect) && addTaxi(author, id, reconnect)`, with the occasions of the
two queries. -/
def admits (check add : Occasion) (taxiId : TaxiId) : Bool :=
  match checkId check.now taxiId check.outages check.db with
  | none => false
  | some reconnect =>
      (DbConnectionHandler.query add.now [addTaxiStatement taxiId reconnect] add.outages
        add.db).value.isOk

/-- A taxi which passes `checkId` is admitted exactly when `addTaxi` announces it. -/
theorem admits_eq_isSome {check add : Occasion} {taxiId : TaxiId} {reconnect : Bool}
    (session : Uuid) (passes : checkId check.now taxiId check.outages check.db = some reconnect) :
    admits check add taxiId =
      (addTaxi add.now session taxiId reconnect add.outages add.db).value.isSome := by
  simp only [admits, passes, addTaxi]
  cases (DbConnectionHandler.query add.now [addTaxiStatement taxiId reconnect] add.outages
    add.db).value <;> rfl

/-- What one pass through the loop of `attendPetition` meets: what `read` answers, whether the
database can be reached, and the occasions of the two queries. -/
structure Round where
  incoming : Incoming
  connected : Bool
  check : Occasion
  add : Occasion

/-- `memcpy(&id, getData().data(), sizeof(short))`. -/
def idOfData (bytes : Sized bufferSize) : TaxiId :=
  (UInt16.ofNat (ofLittleEndian (bytes.1.take 2))).toInt16

/-- What one pass through the loop did. -/
structure Pass where
  client : SocketHandler
  /-- The frame which was written. -/
  frame? : Option Frame
  /-- The identifier which was proposed, with its answer. -/
  proposal? : Option (TaxiId × ControlChar)
  goesOn : Bool

/-- The bytes which were sent. -/
def Pass.bytes (pass : Pass) : List UInt8 := pass.frame?.toList.flatMap (·.bytes.1)

section Attend

variable {size : Nat} (session : Sized size) (fits : 1 + size ≤ bufferSize)

/-- `getBuffer()[0] = …` and `memcpy(getBuffer().data() + 1, session.data(), session.size())`. -/
def putAnswer (client : SocketHandler) (answer : ControlChar) : SocketHandler :=
  client.fill ((payload client.buffer).overwrite (answer.byte :: session.1) (by simp; omega))

/-- What the loop does with what it read. -/
def reply (client : SocketHandler) (round : Round) : Pass :=
  if client.hasData then
    let id := idOfData client.getData
    let answer := if admits round.check round.add id then ControlChar.ack else .nack
    let client := putAnswer session fits client answer
    ⟨client.writeToSocket, some client.dataFrame, some (id, answer), true⟩
  else
    match client.getControlChar with
    | some .enq =>
        let char := if round.connected then ControlChar.ack else .nack
        ⟨client.sendControlChar char, some (client.controlFrame char), none, true⟩
    | some .eot => ⟨client, none, none, false⟩
    | _ => ⟨client, none, none, true⟩

/-- One pass through the loop of `attendPetition`. -/
def attend (client : SocketHandler) (round : Round) : Pass :=
  let (returned, client) := client.readFromSocket round.incoming
  if returned then reply session fits client round else ⟨client, none, none, false⟩

end Attend

/-! ### A whole conversation -/

/-- A thread of `attendPetition` with the bytes it has sent and the identifiers which were proposed
to it, with their answers. -/
structure Attendance where
  client : SocketHandler
  sent : List UInt8
  proposals : List (TaxiId × ControlChar)
  closed : Bool

/-- A thread whose connection was just accepted. -/
def Attendance.start : Attendance := ⟨.new, [], [], false⟩

/-- The thread has gone through its loop once more. -/
def Attendance.add (attendance : Attendance) (pass : Pass) : Attendance where
  client := pass.client
  sent := attendance.sent ++ pass.bytes
  proposals := attendance.proposals ++ pass.proposal?.toList
  closed := !pass.goesOn

section Serve

variable {size : Nat} (session : Sized size) (fits : 1 + size ≤ bufferSize)

/-- One more round, which finds the thread in its loop unless it has returned. -/
def Attendance.hear (attendance : Attendance) (round : Round) : Attendance :=
  if attendance.closed then attendance
  else attendance.add (attend session fits attendance.client round)

/-- The thread after some rounds. -/
def serve (rounds : List Round) : Attendance :=
  rounds.foldl (Attendance.hear session fits) .start

end Serve

/-- The client proposes an identifier: after frames which neither close the connection nor carry
data, it sends data. -/
def proposes (reader : SocketHandler) : List Round → Bool
  | [] => false
  | round :: rounds =>
      let (returned, reader) := reader.readFromSocket round.incoming
      returned && (reader.hasData ||
        (reader.getControlChar ≠ some .eot && proposes reader rounds))

/-! ### What a read depends on -/

section Read

variable {left right : SocketHandler}

/-- Reading leaves the bytes to be written alone. -/
theorem readFromSocket_buffer {handler : SocketHandler} {incoming : Incoming} :
    (handler.readFromSocket incoming).2.buffer = handler.buffer := by
  unfold SocketHandler.readFromSocket
  cases incoming <;> dsimp only <;> split <;> rfl

/-- What a read returns and leaves in the data depends on the data only. -/
theorem readFromSocket_congr (data : left.data = right.data) (incoming : Incoming) :
    (left.readFromSocket incoming).1 = (right.readFromSocket incoming).1 ∧
      (left.readFromSocket incoming).2.data = (right.readFromSocket incoming).2.data := by
  cases incoming with
  | bytes chunk fits =>
      by_cases passes : SocketHandler.checks (right.data.overwrite chunk fits) = .none <;>
        simp [SocketHandler.readFromSocket, SocketHandler.readFromSocketInternal, data, passes]
  | failed wouldBlock =>
      cases wouldBlock <;>
        simp [SocketHandler.readFromSocket, SocketHandler.readFromSocketInternal, data]

theorem hasData_congr (data : left.data = right.data) : left.hasData = right.hasData := by
  simp only [SocketHandler.hasData, data]

theorem getData_congr (data : left.data = right.data) : left.getData = right.getData := by
  unfold SocketHandler.getData SocketHandler.hasData
  rw [data]

theorem getControlChar_congr (data : left.data = right.data) :
    left.getControlChar = right.getControlChar := by
  unfold SocketHandler.getControlChar SocketHandler.hasControlChar
  rw [data]

/-- What is written for a control character depends on the bytes to be written only. -/
theorem sendControlChar_congr (buffer : left.buffer = right.buffer) (char : ControlChar) :
    (left.sendControlChar char).buffer = (right.sendControlChar char).buffer := by
  simp only [SocketHandler.sendControlChar, SocketHandler.writeToSocketInternal, buffer]

/-- Whether the client proposes an identifier depends on the data only. -/
theorem proposes_congr (data : left.data = right.data) (rounds : List Round) :
    proposes left rounds = proposes right rounds := by
  induction rounds generalizing left right with
  | nil => rfl
  | cons round rounds inductionHypothesis =>
      obtain ⟨returned, same⟩ := readFromSocket_congr data round.incoming
      simp only [proposes, returned, hasData_congr same, getControlChar_congr same,
        inductionHypothesis same]

end Read

/-! ### Two sessions -/

section Twin

variable {size : Nat} {session other : Sized size} {fits : 1 + size ≤ bufferSize}

/-- The frame of an answer tells sessions apart. -/
theorem session_of_putAnswer {left right : SocketHandler} {answer : ControlChar}
    (equal : (putAnswer session fits left answer).dataFrame.bytes =
      (putAnswer other fits right answer).dataFrame.bytes) : session = other := by
  have payloads : payload (putAnswer session fits left answer).writeToSocket.buffer =
      payload (putAnswer other fits right answer).writeToSocket.buffer := congrArg payload equal
  rw [SocketHandler.writeToSocket_payload, SocketHandler.writeToSocket_payload, putAnswer, putAnswer,
    SocketHandler.payload_fill, SocketHandler.payload_fill] at payloads
  have bytes := congrArg Subtype.val payloads
  simp only [Sized.overwrite, List.cons_append, List.cons.injEq, true_and] at bytes
  exact Sized.ext (List.append_inj_left bytes (by simp))

/-- Two passes of threads of Centrals with different sessions. -/
structure TwinPass (session other : Sized size) (left right : Pass) : Prop where
  goesOn : left.goesOn = right.goesOn
  proposal : left.proposal? = right.proposal?
  data : left.client.data = right.client.data
  length : left.bytes.length = right.bytes.length
  /-- Proposed identifiers tell the sessions apart. -/
  apart : left.proposal? ≠ none → left.bytes = right.bytes → session = other

/-- Two passes which leave and send the same bytes. -/
def SameBytes (left right : Pass) : Prop :=
  left.client.buffer = right.client.buffer ∧ left.bytes = right.bytes

/-- Threads which hold the same data do the same with them, and where no identifier is proposed
they do not look at the session. -/
theorem reply_twin {left right : SocketHandler} (data : left.data = right.data) (round : Round) :
    TwinPass session other (reply session fits left round) (reply other fits right round) ∧
      ((reply session fits left round).proposal? = none → left.buffer = right.buffer →
        SameBytes (reply session fits left round) (reply other fits right round)) := by
  unfold reply
  rw [hasData_congr data, getData_congr data, getControlChar_congr data]
  split
  · refine ⟨⟨rfl, rfl, data, by simp [Pass.bytes], fun _ equal => ?_⟩, nofun⟩
    apply session_of_putAnswer
    apply Sized.ext
    simpa [Pass.bytes] using equal
  · split
    · refine ⟨⟨rfl, rfl, data, by simp [Pass.bytes], by simp⟩, fun _ buffer => ?_⟩
      have written := sendControlChar_congr buffer
      exact ⟨written _, by simp [Pass.bytes, SocketHandler.controlFrame, written]⟩
    · exact ⟨⟨rfl, rfl, data, rfl, by simp⟩, fun _ buffer => ⟨buffer, rfl⟩⟩
    · exact ⟨⟨rfl, rfl, data, rfl, by simp⟩, fun _ buffer => ⟨buffer, rfl⟩⟩

/-- Threads which hold the same data pass through the loop alike. -/
theorem attend_twin {left right : SocketHandler} (data : left.data = right.data) (round : Round) :
    TwinPass session other (attend session fits left round) (attend other fits right round) ∧
      ((attend session fits left round).proposal? = none → left.buffer = right.buffer →
        SameBytes (attend session fits left round) (attend other fits right round)) := by
  obtain ⟨returned, same⟩ := readFromSocket_congr data round.incoming
  have leftBuffer : (left.readFromSocket round.incoming).2.buffer = left.buffer :=
    readFromSocket_buffer
  have rightBuffer : (right.readFromSocket round.incoming).2.buffer = right.buffer :=
    readFromSocket_buffer
  have replies := @reply_twin size session other fits _ _ same round
  unfold attend
  dsimp only
  rw [returned]
  split
  · rwa [leftBuffer, rightBuffer] at replies
  · exact ⟨⟨rfl, rfl, same, rfl, by simp⟩, fun _ buffer =>
      ⟨leftBuffer.trans (buffer.trans rightBuffer.symm), rfl⟩⟩

/-- Two threads of Centrals with different sessions, after the same rounds. -/
structure Twin (session other : Sized size) (left right : Attendance) : Prop where
  closed : left.closed = right.closed
  proposals : left.proposals = right.proposals
  data : left.client.data = right.client.data
  length : left.sent.length = right.sent.length
  /-- Before an identifier is proposed nothing tells the sessions apart. -/
  same : left.proposals = [] →
    left.client.buffer = right.client.buffer ∧ left.sent = right.sent
  /-- Afterwards something always does. -/
  apart : left.proposals ≠ [] → left.sent = right.sent → session = other

/-- One more round keeps two threads together. -/
theorem Twin.hear {left right : Attendance} (twin : Twin session other left right)
    (round : Round) :
    Twin session other (left.hear session fits round) (right.hear other fits round) := by
  unfold Attendance.hear
  rw [← twin.closed]
  split
  · exact twin
  · obtain ⟨pass, same⟩ := @attend_twin size session other fits _ _ twin.data round
    refine ⟨by simp [Attendance.add, pass.goesOn],
      by simp [Attendance.add, twin.proposals, pass.proposal], pass.data,
      by simp [Attendance.add, twin.length, pass.length], fun none => ?_, fun some equal => ?_⟩
    · simp only [Attendance.add, List.append_eq_nil_iff, Option.toList_eq_nil_iff] at none
      obtain ⟨buffer, sent⟩ := twin.same none.1
      obtain ⟨buffer, bytes⟩ := same none.2 buffer
      exact ⟨buffer, congrArg₂ (· ++ ·) sent bytes⟩
    · obtain ⟨sent, bytes⟩ := List.append_inj equal twin.length
      by_cases earlier : left.proposals = []
      · apply pass.apart _ bytes
        simpa [Attendance.add, earlier] using some
      · exact twin.apart earlier sent

/-- Two threads stay together for any rounds. -/
theorem serve_twin (rounds : List Round) :
    Twin session other (serve session fits rounds) (serve other fits rounds) := by
  have start : Twin session other .start .start :=
    ⟨rfl, rfl, rfl, rfl, fun _ => ⟨rfl, rfl⟩, by simp [Attendance.start]⟩
  exact List.foldl_rel start fun round _ _ _ twin => twin.hear round

/-! ### Who proposes an identifier -/

section Pass

variable {client : SocketHandler} {round : Round}

/-- The data after a pass are those which were read. -/
theorem attend_data : (attend session fits client round).client.data =
    (client.readFromSocket round.incoming).2.data := by
  unfold attend reply
  dsimp only
  split
  · split
    · rfl
    · split <;> rfl
  · rfl

/-- An identifier is proposed when data are read. -/
theorem attend_proposal : (attend session fits client round).proposal? = none ↔
    ¬ ((client.readFromSocket round.incoming).1 = true ∧
      (client.readFromSocket round.incoming).2.hasData = true) := by
  unfold attend reply
  dsimp only
  split
  · split
    · simp [*]
    · split <;> simp [*]
  · simp [*]

/-- The thread returns when a read fails and at `EOT`. -/
theorem attend_goesOn : (attend session fits client round).goesOn = true ↔
    (client.readFromSocket round.incoming).1 = true ∧
      ((client.readFromSocket round.incoming).2.hasData = true ∨
        (client.readFromSocket round.incoming).2.getControlChar ≠ some .eot) := by
  unfold attend reply
  dsimp only
  split
  · split
    · simp [*]
    · split
      · simp [*]
      · simp [*]
      · rename_i notEot
        exact ⟨fun _ => ⟨‹_›, .inr notEot⟩, fun _ => rfl⟩
  · simp [*]

end Pass

/-- The identifiers which were proposed to a thread stay. -/
theorem proposals_ne_nil {attendance : Attendance} (rounds : List Round)
    (some : attendance.proposals ≠ []) :
    (rounds.foldl (Attendance.hear session fits) attendance).proposals ≠ [] := by
  induction rounds generalizing attendance with
  | nil => exact some
  | cons round rounds inductionHypothesis =>
      apply inductionHypothesis
      unfold Attendance.hear
      split
      · exact some
      · simp [Attendance.add, some]

/-- A thread which returned hears nothing. -/
theorem foldl_hear_of_closed {attendance : Attendance} (rounds : List Round)
    (closed : attendance.closed = true) :
    rounds.foldl (Attendance.hear session fits) attendance = attendance := by
  induction rounds with
  | nil => rfl
  | cons round rounds inductionHypothesis =>
      rw [List.foldl_cons, Attendance.hear, if_pos closed, inductionHypothesis]

/-- A thread to which nothing was proposed is asked for an identifier if the client proposes one. -/
theorem proposals_foldl_hear {attendance : Attendance} (rounds : List Round)
    (fresh : attendance.proposals = []) (isOpen : attendance.closed = false) :
    (rounds.foldl (Attendance.hear session fits) attendance).proposals = [] ↔
      proposes attendance.client rounds = false := by
  induction rounds generalizing attendance with
  | nil => simp [proposes, fresh]
  | cons round rounds inductionHypothesis =>
      have proposal := @attend_proposal size session fits attendance.client round
      have goesOn := @attend_goesOn size session fits attendance.client round
      have heard : attendance.hear session fits round =
          attendance.add (attend session fits attendance.client round) := by
        rw [Attendance.hear, isOpen]
        rfl
      rw [List.foldl_cons, heard]
      by_cases asked : (attend session fits attendance.client round).proposal? = none
      · have absent := proposal.mp asked
        by_cases loops : (attend session fits attendance.client round).goesOn = true
        · rw [inductionHypothesis (by simp [Attendance.add, fresh, asked])
            (by simp [Attendance.add, loops])]
          change proposes (attend session fits attendance.client round).client rounds = false ↔ _
          rw [proposes_congr attend_data]
          obtain ⟨returned, present | control⟩ := goesOn.mp loops
          · exact absurd ⟨returned, present⟩ absent
          · have empty : ¬ (attendance.client.readFromSocket round.incoming).2.hasData = true :=
              fun present => absent ⟨returned, present⟩
            simp [proposes, returned, empty, control]
        · rw [foldl_hear_of_closed rounds (by simp [Attendance.add, loops])]
          have ended : proposes attendance.client (round :: rounds) = false := by
            rw [← Bool.not_eq_true]
            intro proposed
            simp only [proposes, Bool.and_eq_true, Bool.or_eq_true, decide_eq_true_eq] at proposed
            exact loops (goesOn.mpr ⟨proposed.1, proposed.2.imp_right And.left⟩)
          simp [Attendance.add, fresh, asked, ended]
      · have kept := @proposals_ne_nil size session fits
          (attendance.add (attend session fits attendance.client round)) rounds
          (by simp [Attendance.add, asked])
        rw [proposal, not_not] at asked
        simp [proposes, asked, kept]

end Twin

/-- Two sessions are told apart by the bytes sent exactly when the client proposes an identifier,
whatever the answer. -/
theorem serve_sent_eq_iff {size : Nat} {session other : Sized size} {fits : 1 + size ≤ bufferSize}
    {rounds : List Round} :
    (serve session fits rounds).sent = (serve other fits rounds).sent ↔
      session = other ∨ proposes .new rounds = false := by
  have twin := @serve_twin size session other fits rounds
  have fresh := @proposals_foldl_hear size session fits .start rounds rfl rfl
  constructor
  · intro equal
    by_cases asked : (serve session fits rounds).proposals = []
    · exact .inr (fresh.mp asked)
    · exact .inl (twin.apart asked equal)
  · rintro (rfl | silent)
    · rfl
    · exact (twin.same (fresh.mpr silent)).2

end AuthServer

/-- The server sends the same bytes for two sessions while every identifier proposed on the
connection is rejected, exactly if then they are the same session or none is proposed. -/
theorem rejected_taxi_learns_nothing_iff {size : Nat} (session other : Sized size)
    (fits : 1 + size ≤ bufferSize) (rounds : List AuthServer.Round) :
    ((∀ proposal ∈ (AuthServer.serve session fits rounds).proposals, proposal.2 = .nack) →
        (AuthServer.serve session fits rounds).sent = (AuthServer.serve other fits rounds).sent) ↔
      ((∀ proposal ∈ (AuthServer.serve session fits rounds).proposals, proposal.2 = .nack) →
        session = other ∨ AuthServer.proposes .new rounds = false) :=
  imp_congr_right fun _ => AuthServer.serve_sent_eq_iff

/-! ### A taxi whose identifier is taken -/

namespace AuthServer

/-- The queries find taxi 1 connected. -/
def occupied : Occasion where
  now := 0
  outages := []
  db := (addTaxi 0 Town.session 1 false [] (Db.initial .empty)).db

/-- The client sends this frame. -/
def sends (frame : Frame) : Round where
  incoming := .bytes frame.bytes.1 (Nat.le_of_eq frame.bytes.2)
  connected := true
  check := occupied
  add := occupied

/-- The client sends `ENQ` and then the identifier 1, which is taken. -/
def usurper : List Round :=
  [sends (SocketHandler.new.controlFrame .enq),
    sends ((SocketHandler.new.fill ((Sized.fill bufferSize 0).set 0 1)).dataFrame)]

/-- Another session. -/
def otherSession : Uuid := Sized.fill 36 49

end AuthServer

/-- A taxi whose identifier is taken is rejected, and what it is sent depends on the session; had it
stopped after `ENQ`, nothing would. -/
theorem usurper_rejected :
    (AuthServer.serve Town.session (by decide) AuthServer.usurper).proposals = [(1, .nack)] ∧
      (AuthServer.serve Town.session (by decide) AuthServer.usurper).sent ≠
        (AuthServer.serve AuthServer.otherSession (by decide) AuthServer.usurper).sent ∧
      (AuthServer.serve Town.session (by decide) (AuthServer.usurper.take 1)).sent =
        (AuthServer.serve AuthServer.otherSession (by decide) (AuthServer.usurper.take 1)).sent := by
  have rejected :
      (AuthServer.serve Town.session (by decide) AuthServer.usurper).proposals = [(1, .nack)] := by
    decide +kernel
  refine ⟨rejected, fun same => ?_, ?_⟩
  · rcases (rejected_taxi_learns_nothing_iff Town.session AuthServer.otherSession (by decide)
      AuthServer.usurper).mp (fun _ => same) (by simp [rejected]) with sessions | proposes
    · revert sessions
      decide
    · revert proposes
      decide +kernel
  · have quiet : AuthServer.proposes .new (AuthServer.usurper.take 1) = false := by decide +kernel
    exact (rejected_taxi_learns_nothing_iff Town.session AuthServer.otherSession (by decide)
      (AuthServer.usurper.take 1)).mpr (fun _ => .inr quiet) (by decide +kernel)

/-- The session follows the `NACK`. -/
theorem usurper_learns_session :
    ¬ ((∀ proposal ∈ (AuthServer.serve Town.session (by decide) AuthServer.usurper).proposals,
        proposal.2 = .nack) →
      (AuthServer.serve Town.session (by decide) AuthServer.usurper).sent =
        (AuthServer.serve AuthServer.otherSession (by decide) AuthServer.usurper).sent) := by
  decide +kernel

end EasyCab
