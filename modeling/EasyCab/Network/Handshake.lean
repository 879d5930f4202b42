import EasyCab.Central.AttendPetition
import EasyCab.De.Authenticate

/-!
# The handshake

`authenticate` of a taxi against `attendPetition`, over a connection which delivers
whole frames in order, as late as it likes, so that any read may time out before a
frame comes. Replies are not numbered. `handshake_agrees` says that taxi and server agree
where no `ENQ` and no reply to one is on its way when the taxi sends its identifier.
-/

namespace EasyCab

open Library

/-- The two ends of a connection, and the frames on their way, oldest first. -/
structure Handshake where
  taxi : Authenticate
  server : AuthServer.Attendance
  toServer : List Frame
  toTaxi : List Frame

/-- A control character. -/
def Content.IsControl : Content → Prop
  | .data _ => False
  | .control _ => True

/-- The data with which the server gives this answer, followed by its session. -/
def Content.Answers (session : Uuid) (answer : ControlChar) : Content → Prop
  | .data payload => payload.byteAt 0 = answer.byte ∧
      payload.slice 1 uuidLength session_fits = session
  | .control _ => False

namespace SocketHandler

variable {handler : SocketHandler} {frame : Frame}

/-- After a control character was read there are no data. -/
theorem readFrame_of_control {char : ControlChar} (control : frame.content = .control char) :
    (handler.readFrame frame).2.hasData = false ∧
      (handler.readFrame frame).2.hasControlChar = true ∧
      (handler.readFrame frame).2.getControlChar = some char := by
  obtain ⟨_, present, shown⟩ := control ▸ @readFrame_shows handler frame
  have heads : ControlChar.stc.byte ≠ ControlChar.stx.byte := by decide
  have head : (handler.readFrame frame).2.data.byteAt 0 = ControlChar.stc.byte := by
    simpa [hasControlChar] using present
  exact ⟨by simp [hasData, head, heads], present, shown⟩

/-- After data were read there is no control character. -/
theorem readFrame_of_data {payload : Sized bufferSize} (data : frame.content = .data payload) :
    (handler.readFrame frame).2.hasData = true ∧
      (handler.readFrame frame).2.hasControlChar = false ∧
      (handler.readFrame frame).2.getData = payload := by
  obtain ⟨_, present, shown⟩ := data ▸ @readFrame_shows handler frame
  have heads : ControlChar.stx.byte ≠ ControlChar.stc.byte := by decide
  have head : (handler.readFrame frame).2.data.byteAt 0 = ControlChar.stx.byte := by
    simpa [hasData] using present
  exact ⟨present, by simp [hasControlChar, head, heads], shown⟩

end SocketHandler

/-- An answer with the session behind it answers with that session. -/
theorem answers_overwrite {session : Uuid} {answer : ControlChar} {payload : Sized bufferSize}
    {fits : (answer.byte :: session.1).length ≤ bufferSize} :
    (Content.data (payload.overwrite (answer.byte :: session.1) fits)).Answers session answer := by
  refine ⟨rfl, Sized.ext ?_⟩
  simp [Sized.slice, Sized.overwrite, List.take_left' session.2]

namespace AuthServer

variable {session : Uuid} {client : SocketHandler} {frame : Frame} {connected : Bool}
  {check add : Occasion}

/-- One pass through the loop in which the frame is read. -/
def attendFrame (session : Uuid) (client : SocketHandler) (frame : Frame) (connected : Bool)
    (check add : Occasion) : Pass :=
  attend session session_fits client ⟨frame.incoming, connected, check, add⟩

/-- An answer with the session behind it fits in the buffer. -/
theorem answer_fits (answer : ControlChar) (session : Uuid) :
    (answer.byte :: session.1).length ≤ bufferSize := by
  rw [List.length_cons, session.2]
  decide

/-- The frame of an answer carries the answer. -/
theorem putAnswer_content {answer : ControlChar} {fits : 1 + uuidLength ≤ bufferSize} :
    (putAnswer session fits client answer).dataFrame.content =
      .data ((payload client.buffer).overwrite (answer.byte :: session.1)
        (answer_fits answer session)) :=
  congrArg Content.data SocketHandler.payload_fill

/-- The frame is read, and then the loop does something with it. -/
theorem attendFrame_eq : attendFrame session client frame connected check add =
    reply session session_fits (client.readFrame frame).2 ⟨frame.incoming, connected, check, add⟩ := by
  have returned : (client.readFrame frame).1 = true := SocketHandler.readFrame_returns
  exact if_pos returned

/-- The server answers a control character with one, if at all. -/
theorem attendFrame_control (control : frame.content.IsControl) :
    (attendFrame session client frame connected check add).proposal? = none ∧
      ∀ reply ∈ (attendFrame session client frame connected check add).frame?,
        reply.content.IsControl := by
  rw [attendFrame_eq]
  cases content : frame.content with
  | data payload => simp [content, Content.IsControl] at control
  | control char =>
      obtain ⟨empty, _, shown⟩ := @SocketHandler.readFrame_of_control client frame char content
      simp only [reply, empty, shown, Bool.false_eq_true, if_false]
      split
      · simp [SocketHandler.controlFrame, Content.IsControl]
      · simp
      · simp

/-- The server answers data with data, its answer to the identifier. -/
theorem attendFrame_data (data : ¬ frame.content.IsControl) :
    ∃ id answer reply,
      (attendFrame session client frame connected check add).proposal? = some (id, answer) ∧
        (attendFrame session client frame connected check add).frame? = some reply ∧
        reply.content.Answers session answer := by
  rw [attendFrame_eq]
  cases content : frame.content with
  | control char => simp [content, Content.IsControl] at data
  | data payload =>
      obtain ⟨present, _, shown⟩ := @SocketHandler.readFrame_of_data client frame payload content
      simp only [reply, present, if_true]
      refine ⟨_, _, _, rfl, rfl, ?_⟩
      rw [putAnswer_content]
      exact answers_overwrite

end AuthServer

namespace Authenticate

variable {id : TaxiId} {round : Nat} {returned : Bool} {handler : SocketHandler}

/-- After a read of the loop the taxi ends, sends its identifier or asks again. -/
theorem asked_cases :
    asked id round returned handler = sendControlChar handler .eot .exited ∨
      (handler.hasControlChar = true ∧ handler.getControlChar = some .ack ∧
        asked id round returned handler =
          (⟨(putId handler id).writeToSocket, .proposed⟩, [(putId handler id).dataFrame])) ∨
      asked id round returned handler = sendControlChar handler .enq (.asking (round + 1)) := by
  unfold asked
  split
  · exact .inl rfl
  · split
    · next control => exact .inr (.inl ⟨control.1, control.2, rfl⟩)
    · split
      · exact .inl rfl
      · exact .inr (.inr rfl)

/-- After the read of the answer the taxi ends or is authenticated. -/
theorem answered_cases :
    answered returned handler = sendControlChar handler .eot .exited ∨
      (returned = true ∧
        (handler.hasData = true → handler.getData.byteAt 0 ≠ ControlChar.ack.byte) ∧
        answered returned handler = sendControlChar handler .eot .refused) ∨
      (handler.hasData = true ∧
        answered returned handler = sendControlChar handler .eot
          (.authenticated (handler.getData.slice 1 uuidLength session_fits))) := by
  unfold answered
  split
  · exact .inl rfl
  · split
    · next refused =>
        cases returned with
        | false => exact .inl rfl
        | true =>
            refine .inr (.inl ⟨rfl, fun present => ?_, rfl⟩)
            simpa [present] using refused
    · next accepted =>
        rw [not_or, not_not] at accepted
        exact .inr (.inr ⟨accepted.1, rfl⟩)

/-- A read which fails leaves neither data nor a control character. -/
theorem readFromSocket_failed {wouldBlock : Bool} :
    (handler.readFromSocket (.failed wouldBlock)).2.hasData = false ∧
      (handler.readFromSocket (.failed wouldBlock)).2.hasControlChar = false := by
  have head : (handler.readFromSocket (.failed wouldBlock)).2.data.byteAt 0 =
      ControlChar.none.byte := by
    cases wouldBlock <;> exact Sized.byteAt_set (by decide)
  have heads : ControlChar.none.byte ≠ ControlChar.stx.byte ∧
      ControlChar.none.byte ≠ ControlChar.stc.byte := by decide
  simp [SocketHandler.hasData, SocketHandler.hasControlChar, head, heads]

end Authenticate

namespace Handshake

/-- What can happen next. -/
inductive Event where
  /-- The server reads the next frame. -/
  | serve (connected : Bool) (check add : AuthServer.Occasion)
  /-- A read of the server fails, and its thread ends. -/
  | serverFails
  /-- The taxi reads the next frame. -/
  | deliver
  /-- A read of the taxi fails. -/
  | taxiFails (wouldBlock : Bool)

/-- The taxi goes on to its next read. -/
def turn (id : TaxiId) (handshake : Handshake) (incoming : Incoming) (toTaxi : List Frame) :
    Option Handshake :=
  (handshake.taxi.turn id incoming).map fun (taxi, frames) =>
    { handshake with taxi := taxi, toServer := handshake.toServer ++ frames, toTaxi := toTaxi }

/-- One step of one end. -/
def step (session : Uuid) (id : TaxiId) (handshake : Handshake) : Event → Option Handshake
  | .serve connected check add =>
      match handshake.server.closed, handshake.toServer with
      | false, frame :: frames =>
          let pass := AuthServer.attendFrame session handshake.server.client frame connected check add
          some { handshake with
            server := handshake.server.add pass
            toServer := frames
            toTaxi := handshake.toTaxi ++ pass.frame?.toList }
      | _, _ => none
  | .serverFails =>
      if handshake.server.closed then none
      else some { handshake with server := { handshake.server with closed := true } }
  | .deliver =>
      match handshake.toTaxi with
      | [] => none
      | frame :: frames => handshake.turn id frame.incoming frames
  | .taxiFails wouldBlock => handshake.turn id (.failed wouldBlock) handshake.toTaxi

/-- A handshake as a machine. -/
def machine (session : Uuid) (id : TaxiId) : Machine Handshake Event := ⟨step session id⟩

/-- The taxi has connected and sent its first `ENQ`. -/
def start : Handshake := ⟨Authenticate.start.1, .start, Authenticate.start.2, []⟩

/-- A taxi which refuses the frame it takes for its answer was not accepted, and one which goes on
has the session of the server. -/
def Agrees (session : Uuid) (handshake : Handshake) : Prop :=
  (handshake.taxi.phase = .refused →
      ∀ proposal ∈ handshake.server.proposals, proposal.2 ≠ .ack) ∧
    ∀ own, handshake.taxi.phase = .authenticated own → own = session

/-- The only frame on its way carries the identifier, or the answer to it. -/
inductive Asked (session : Uuid) (handshake : Handshake) : Prop where
  | unserved (frame : Frame) (data : ¬ frame.content.IsControl)
      (toServer : handshake.toServer = [frame]) (toTaxi : handshake.toTaxi = [])
      (fresh : handshake.server.proposals = [])
  | served (id : TaxiId) (answer : ControlChar) (frame : Frame)
      (toServer : handshake.toServer = []) (toTaxi : handshake.toTaxi = [frame])
      (answers : frame.content.Answers session answer)
      (proposals : handshake.server.proposals = [(id, answer)])

/-- The frame on its way to a taxi which has sent its identifier is the answer. -/
theorem Asked.answer {session : Uuid} {handshake : Handshake} {frame : Frame}
    {frames : List Frame} (asked : handshake.Asked session)
    (queued : handshake.toTaxi = frame :: frames) :
    ∃ answer, frame.content.Answers session answer ∧ handshake.toServer = [] ∧
      ∃ id, handshake.server.proposals = [(id, answer)] := by
  cases asked with
  | unserved _ _ _ toTaxi => simp [queued] at toTaxi
  | served id answer reply toServer toTaxi answers proposals =>
      rw [queued, List.cons.injEq] at toTaxi
      rw [toTaxi.1]
      exact ⟨answer, answers, toServer, id, proposals⟩

/-- What is on its way, and what the server was asked, in each phase of the taxi. -/
def Inv (session : Uuid) (handshake : Handshake) : Prop :=
  match handshake.taxi.phase with
  | .asking _ =>
      handshake.server.proposals = [] ∧ (∀ frame ∈ handshake.toServer, frame.content.IsControl) ∧
        ∀ frame ∈ handshake.toTaxi, frame.content.IsControl
  | .proposed => handshake.Asked session
  | .exited => True
  | .refused =>
      (∀ proposal ∈ handshake.server.proposals, proposal.2 ≠ .ack) ∧
        ∀ frame ∈ handshake.toServer, frame.content.IsControl
  | .authenticated own => own = session

/-- Taxi and server agree where the invariant holds. -/
theorem Inv.agrees {session : Uuid} {handshake : Handshake} (holds : handshake.Inv session) :
    handshake.Agrees session := by
  unfold Inv at holds
  constructor
  · intro phase
    simp only [phase] at holds
    exact holds.1
  · intro own phase
    simpa only [phase] using holds

end Handshake

/-- A step of a handshake. -/
abbrev HandshakeStep := Transition Handshake Handshake.Event

namespace HandshakeStep

/-- Where the taxi reads an `ACK` in its loop, so that it sends its identifier, no other `ENQ` and
no other reply to one is on its way. -/
def AsksAlone (taken : HandshakeStep) : Prop :=
  match taken.event, taken.before.taxi.phase, taken.before.toTaxi with
  | .deliver, .asking _, frame :: frames =>
      frame.content = .control .ack → frames = [] ∧ taken.before.toServer = []
  | _, _, _ => True

instance (taken : HandshakeStep) : Decidable taken.AsksAlone := by
  unfold AsksAlone
  split <;> infer_instance

variable {session : Uuid} {id : TaxiId} {before after : Handshake}

/-- What the server does keeps the invariant. -/
theorem inv_serve {connected : Bool} {check add : AuthServer.Occasion}
    (stepped : before.step session id (.serve connected check add) = some after)
    (holds : before.Inv session) : after.Inv session := by
  simp only [Handshake.step] at stepped
  split at stepped
  · next frame frames isOpen queued =>
      cases stepped
      have control := @AuthServer.attendFrame_control session before.server.client frame connected
        check add
      have data := @AuthServer.attendFrame_data session before.server.client frame connected
        check add
      unfold Handshake.Inv at holds ⊢
      dsimp only
      cases phase : before.taxi.phase with
      | asking round =>
          simp only [phase, queued, List.forall_mem_cons] at holds ⊢
          obtain ⟨fresh, ⟨head, later⟩, replies⟩ := holds
          obtain ⟨unasked, replied⟩ := control head
          refine ⟨by simp [AuthServer.Attendance.add, fresh, unasked], later, ?_⟩
          simpa [or_imp, forall_and] using ⟨replies, replied⟩
      | proposed =>
          simp only [phase] at holds ⊢
          cases holds with
          | unserved sent isData toServer toTaxi fresh =>
              rw [queued, List.cons.injEq] at toServer
              obtain ⟨rfl, rfl⟩ := toServer
              obtain ⟨id, answer, reply, proposal, replied, answers⟩ := data isData
              refine .served id answer reply rfl ?_ answers ?_
              · simp [toTaxi, replied]
              · simp [AuthServer.Attendance.add, fresh, proposal]
          | served _ _ _ toServer => simp [queued] at toServer
      | exited => trivial
      | refused =>
          simp only [phase, queued, List.forall_mem_cons] at holds ⊢
          obtain ⟨rejected, head, later⟩ := holds
          obtain ⟨unasked, _⟩ := control head
          exact ⟨by simpa [AuthServer.Attendance.add, unasked] using rejected, later⟩
      | authenticated own => simpa only [phase] using holds
  · cases stepped

/-- Where the taxi goes on to its next read, it does so from one of two phases. -/
theorem turn_cases {incoming : Incoming} {toTaxi : List Frame}
    (turned : before.turn id incoming toTaxi = some after) :
    ∃ next : Authenticate × List Frame,
      ((∃ round, before.taxi.phase = .asking round ∧
          next = Authenticate.asked id round (before.taxi.handler.readFromSocket incoming).1
            (before.taxi.handler.readFromSocket incoming).2) ∨
        (before.taxi.phase = .proposed ∧
          next = Authenticate.answered (before.taxi.handler.readFromSocket incoming).1
            (before.taxi.handler.readFromSocket incoming).2)) ∧
      after = { before with
        taxi := next.1, toServer := before.toServer ++ next.2, toTaxi := toTaxi } := by
  obtain ⟨next, went, rfl⟩ := Option.map_eq_some_iff.mp turned
  refine ⟨next, ?_, rfl⟩
  simp only [Authenticate.turn] at went
  split at went
  · next round phase => exact .inl ⟨round, phase, (Option.some.inj went).symm⟩
  · next phase => exact .inr ⟨phase, (Option.some.inj went).symm⟩
  · cases went

/-- A control character sent by a taxi which asks again, or ends without an answer, keeps the
invariant. -/
theorem inv_asking {handler : SocketHandler} {char : ControlChar} {round next : Nat}
    {toTaxi : List Frame} (phase : before.taxi.phase = .asking round)
    (fewer : ∀ frame ∈ toTaxi, frame ∈ before.toTaxi) (holds : before.Inv session) :
    { before with
      taxi := (Authenticate.sendControlChar handler char (.asking next)).1
      toServer := before.toServer ++ (Authenticate.sendControlChar handler char (.asking next)).2
      toTaxi := toTaxi : Handshake }.Inv session := by
  simp only [Handshake.Inv, phase, Authenticate.sendControlChar] at holds ⊢
  obtain ⟨fresh, questions, replies⟩ := holds
  refine ⟨fresh, ?_, fun frame member => replies frame (fewer frame member)⟩
  rw [List.forall_mem_append]
  exact ⟨questions, by simp [SocketHandler.controlFrame, Content.IsControl]⟩

/-- A read of the taxi which fails keeps the invariant. -/
theorem inv_taxiFails {wouldBlock : Bool}
    (stepped : before.step session id (.taxiFails wouldBlock) = some after)
    (holds : before.Inv session) : after.Inv session := by
  obtain ⟨empty, silent⟩ := @Authenticate.readFromSocket_failed before.taxi.handler wouldBlock
  obtain ⟨_, ⟨round, phase, rfl⟩ | ⟨phase, rfl⟩, rfl⟩ := turn_cases stepped
  · obtain exited | ⟨control, _, _⟩ | again := @Authenticate.asked_cases id round
      (before.taxi.handler.readFromSocket (.failed wouldBlock)).1
      (before.taxi.handler.readFromSocket (.failed wouldBlock)).2
    · rw [exited]
      trivial
    · simp [silent] at control
    · rw [again]
      exact inv_asking phase (fun _ member => member) holds
  · obtain exited | ⟨returned, _, _⟩ | ⟨present, _⟩ := @Authenticate.answered_cases
      (before.taxi.handler.readFromSocket (.failed wouldBlock)).1
      (before.taxi.handler.readFromSocket (.failed wouldBlock)).2
    · rw [exited]
      trivial
    · cases wouldBlock <;> cases returned
    · simp [empty] at present

/-- The taxi is shown the answer it reads. -/
theorem shows_answer {handler : SocketHandler} {frame : Frame} {answer : ControlChar}
    (answers : frame.content.Answers session answer) :
    (handler.readFrame frame).2.hasData = true ∧
      (handler.readFrame frame).2.getData.byteAt 0 = answer.byte ∧
      (handler.readFrame frame).2.getData.slice 1 uuidLength session_fits = session := by
  cases content : frame.content with
  | control char => simp [content, Content.Answers] at answers
  | data payload =>
      obtain ⟨present, _, shown⟩ := @SocketHandler.readFrame_of_data handler _ _ content
      rw [content] at answers
      rw [shown]
      exact ⟨present, answers⟩

/-- A frame which the taxi reads keeps the invariant. -/
theorem inv_deliver {frame : Frame} {frames : List Frame}
    (turned : before.turn id frame.incoming frames = some after)
    (queued : before.toTaxi = frame :: frames)
    (alone : ∀ round, before.taxi.phase = .asking round → frame.content = .control .ack →
      frames = [] ∧ before.toServer = [])
    (holds : before.Inv session) : after.Inv session := by
  obtain ⟨_, ⟨round, phase, rfl⟩ | ⟨phase, rfl⟩, rfl⟩ := turn_cases turned
  · obtain exited | ⟨control, acked, proposed⟩ | again := @Authenticate.asked_cases id round
      (before.taxi.handler.readFrame frame).1 (before.taxi.handler.readFrame frame).2
    · rw [← SocketHandler.readFrame, exited]
      trivial
    · rw [← SocketHandler.readFrame, proposed]
      have content : frame.content = .control .ack := by
        cases content : frame.content with
        | data payload =>
            have silent := (@SocketHandler.readFrame_of_data before.taxi.handler _ _ content).2.1
            simp [silent] at control
        | control char =>
            have shown := (@SocketHandler.readFrame_of_control before.taxi.handler _ _ content).2.2
            rw [acked, Option.some.injEq] at shown
            rw [shown]
      obtain ⟨noReply, noQuestion⟩ := alone round phase content
      simp only [Handshake.Inv, phase] at holds ⊢
      refine .unserved (Authenticate.putId (before.taxi.handler.readFrame frame).2 id).dataFrame
        not_false ?_ noReply holds.1
      rw [noQuestion]
      rfl
    · rw [← SocketHandler.readFrame, again]
      exact inv_asking phase (fun _ member => queued ▸ List.mem_cons_of_mem _ member) holds
  · obtain exited | ⟨_, refused, ended⟩ | ⟨present, entered⟩ := @Authenticate.answered_cases
      (before.taxi.handler.readFrame frame).1 (before.taxi.handler.readFrame frame).2
    · rw [← SocketHandler.readFrame, exited]
      trivial
    · rw [← SocketHandler.readFrame, ended]
      simp only [Handshake.Inv, phase] at holds ⊢
      obtain ⟨answer, answers, served, _, proposals⟩ := holds.answer queued
      obtain ⟨present, shown⟩ := shows_answer answers
      have rejected : answer ≠ .ack := by
        rintro rfl
        exact refused present shown.1
      constructor
      · simpa [proposals] using rejected
      · simp [served, Authenticate.sendControlChar, SocketHandler.controlFrame, Content.IsControl]
    · rw [← SocketHandler.readFrame, entered]
      simp only [Handshake.Inv, phase] at holds ⊢
      obtain ⟨answer, answers, _, _⟩ := holds.answer queued
      exact (shows_answer answers).2.2

/-- A step which asks alone keeps the invariant. -/
theorem inv_preserved {taken : HandshakeStep}
    (stepped : (Handshake.machine session id).step taken.before taken.event = some taken.after)
    (alone : taken.AsksAlone) (holds : taken.before.Inv session) : taken.after.Inv session := by
  obtain ⟨before, event, after⟩ := taken
  change before.step session id event = some after at stepped
  cases event with
  | serve connected check add => exact inv_serve stepped holds
  | serverFails =>
      simp only [Handshake.step, Option.ite_none_left_eq_some, Option.some.injEq] at stepped
      obtain ⟨_, rfl⟩ := stepped
      unfold Handshake.Inv at holds ⊢
      cases phase : before.taxi.phase with
      | proposed =>
          simp only [phase] at holds ⊢
          cases holds with
          | unserved frame data toServer toTaxi fresh =>
              exact .unserved frame data toServer toTaxi fresh
          | served id answer frame toServer toTaxi answers proposals =>
              exact .served id answer frame toServer toTaxi answers proposals
      | asking round => simpa only [phase] using holds
      | exited => simp only
      | refused => simpa only [phase] using holds
      | authenticated own => simpa only [phase] using holds
  | deliver =>
      simp only [Handshake.step] at stepped
      split at stepped
      · cases stepped
      · next frame frames queued =>
          refine inv_deliver stepped queued (fun round phase content => ?_) holds
          simp only [AsksAlone, phase, queued] at alone
          exact alone content
  | taxiFails wouldBlock => exact inv_taxiFails stepped holds

end HandshakeStep

/-- In a run in which the taxi, where it sends its identifier, has no other `ENQ` and no other reply
on its way, taxi and server agree all the time: a taxi which refuses a frame was not accepted, and
one which goes on has the session of the server. -/
theorem handshake_agrees {session : Uuid} {id : TaxiId} {events : List Handshake.Event}
    (alone : ∀ taken ∈ (Handshake.machine session id).run .start events,
      HandshakeStep.AsksAlone taken) :
    ∀ taken ∈ (Handshake.machine session id).run .start events, taken.after.Agrees session := by
  intro taken member
  have initial : Handshake.start.Inv session := by
    refine ⟨rfl, ?_, by simp [Handshake.start]⟩
    simp [Handshake.start, Authenticate.start, Authenticate.sendControlChar,
      SocketHandler.controlFrame, Content.IsControl]
  have holds := (Machine.run_invariant (Handshake.Inv session)
    (fun _ stepped => HandshakeStep.inv_preserved stepped) initial alone taken member).2
  exact holds.agrees

/-! ### An answer which comes too late -/

namespace Handshake

/-- A server which has no taxi yet. -/
def serveNew : Event :=
  .serve true ⟨0, [], Db.initial .empty⟩ ⟨0, [], Db.initial .empty⟩

/-- Each `ENQ` is answered before the taxi reads. -/
def prompt : List Event := [serveNew, .deliver, serveNew, .deliver, serveNew]

/-- The first read of the taxi times out, and it asks again. Both questions are answered. -/
def late : List Event :=
  [.taxiFails true, serveNew, serveNew, .deliver, serveNew, .deliver]

end Handshake

/-- A taxi which is answered in time is registered, and has the session. -/
theorem prompt_taxi_authenticated :
    ((Handshake.machine Town.session 1).run .start Handshake.prompt).length = 5 ∧
      ∀ taken ∈ (Handshake.machine Town.session 1).run .start Handshake.prompt,
        taken.after.Agrees Town.session :=
  ⟨by decide +kernel, handshake_agrees (by decide +kernel)⟩

/-- The second `ACK` is read in place of the answer: the taxi ends and is registered. -/
theorem late_reply_refused :
    ¬ ∀ taken ∈ (Handshake.machine Town.session 1).run .start Handshake.late,
      taken.after.Agrees Town.session := by
  intro agrees
  have refused : ∃ taken ∈ (Handshake.machine Town.session 1).run .start Handshake.late,
      taken.after.taxi.phase = .refused ∧
        ∃ proposal ∈ taken.after.server.proposals, proposal.2 = .ack := by
    decide +kernel
  obtain ⟨taken, member, phase, proposal, proposed, accepted⟩ := refused
  exact (agrees taken member).1 phase proposal proposed accepted

end EasyCab
