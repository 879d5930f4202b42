import EasyCab.Network.Handshake

/-!
# How a handshake ends

`authenticate` against `attendPetition` over a connection on which every read comes in time. The two
ends take turns, so that one frame is on its way at a time, and after nine reads at most both have
ended. How they have ended depends on what the server meets: the taxi gives up after three `ENQ`
which were not acknowledged, and else it has the session exactly where the server has admitted it.
-/

namespace EasyCab

open Library

/-- The identifier is read back from the frame which carries it. -/
theorem AuthServer.idOfData_putId {handler : SocketHandler} {id : TaxiId} :
    idOfData (payload (Authenticate.putId handler id).buffer) = id := by
  have small : id.toUInt16.toNat < 256 ^ 2 := id.toUInt16.toNat_lt
  rw [Authenticate.putId, SocketHandler.payload_fill, idOfData, ofLittleEndian_take_overwrite small]
  simp

namespace Handshake

/-- What the server meets in one pass through its loop. -/
structure Meeting where
  connected : Bool
  check : AuthServer.Occasion
  add : AuthServer.Occasion

/-- The event is a read which finds a frame. -/
def Event.Reads : Event → Prop
  | .serve .. | .deliver => True
  | .serverFails | .taxiFails _ => False

/-- What the server meets, where it reads. -/
def Event.meeting? : Event → Option Meeting
  | .serve connected check add => some ⟨connected, check, add⟩
  | _ => none

/-- Where the taxi has ended, and what the server was asked. -/
structure Conclusion where
  phase : AuthenticatePhase
  proposals : List (TaxiId × ControlChar)
deriving DecidableEq

/-- The taxi gives up. -/
def Conclusion.exited : Conclusion := ⟨.exited, []⟩

/-- The server has answered the identifier. -/
def Conclusion.answered (session : Uuid) (id : TaxiId) (admitted : Bool) : Conclusion :=
  if admitted then ⟨.authenticated session, [(id, .ack)]⟩ else ⟨.refused, [(id, .nack)]⟩

/-- What comes of an identifier, by what the server meets from then on. -/
def judged (session : Uuid) (id : TaxiId) : List Meeting → Conclusion
  | [] => .exited
  | meeting :: _ => .answered session id (AuthServer.admits meeting.check meeting.add id)

/-- What comes of so many `ENQ`, by what the server meets from then on. -/
def concluded (session : Uuid) (id : TaxiId) : Nat → List Meeting → Conclusion
  | 0, _ | _, [] => .exited
  | asks + 1, meeting :: later =>
      if meeting.connected then judged session id later else concluded session id asks later

/-- Which frame is on its way. -/
inductive Stage where
  | asked (round : Nat)
  | told (round : Nat) (connected : Bool)
  | proposed
  | answered (admitted : Bool)
  | leaving (conclusion : Conclusion)
  | done (conclusion : Conclusion)

/-- How many reads are left. -/
def Stage.left : Stage → Nat
  | .asked round => 9 - 2 * round
  | .told round _ => 8 - 2 * round
  | .proposed => 3
  | .answered _ => 2
  | .leaving _ => 1
  | .done _ => 0

/-- What comes of a handshake at a stage, by what the server meets from then on. -/
def Stage.ends (session : Uuid) (id : TaxiId) : Stage → List Meeting → Conclusion
  | .asked round, meetings => concluded session id (3 - round) meetings
  | .told round connected, meetings =>
      if connected then judged session id meetings
      else concluded session id (2 - round) meetings
  | .proposed, meetings => judged session id meetings
  | .answered admitted, _ => .answered session id admitted
  | .leaving conclusion, _ | .done conclusion, _ => conclusion

/-- The answer to a question. -/
def verdict (admitted : Bool) : ControlChar := if admitted then .ack else .nack

/-- The frame is the only one on its way, and is for the server, which listens. -/
structure ToServer (handshake : Handshake) (proposals : List (TaxiId × ControlChar))
    (content : Content → Prop) : Prop where
  isOpen : handshake.server.closed = false
  proposals : handshake.server.proposals = proposals
  waiting : ∃ frame, handshake.toServer = [frame] ∧ content frame.content
  toTaxi : handshake.toTaxi = []

/-- The frame is the only one on its way, and is for the taxi, and the server listens. -/
structure ToTaxi (handshake : Handshake) (proposals : List (TaxiId × ControlChar))
    (content : Content → Prop) : Prop where
  isOpen : handshake.server.closed = false
  proposals : handshake.server.proposals = proposals
  toServer : handshake.toServer = []
  waiting : ∃ frame, handshake.toTaxi = [frame] ∧ content frame.content

/-- The data are an identifier. -/
def Proposes (id : TaxiId) (content : Content) : Prop :=
  ∃ payload, content = .data payload ∧ AuthServer.idOfData payload = id

/-- The handshake is at a stage. -/
def At (session : Uuid) (id : TaxiId) : Stage → Handshake → Prop
  | .asked round, handshake =>
      round ≤ 2 ∧ handshake.taxi.phase = .asking round ∧
        handshake.ToServer [] (· = .control .enq)
  | .told round connected, handshake =>
      round ≤ 2 ∧ handshake.taxi.phase = .asking round ∧
        handshake.ToTaxi [] (· = .control (verdict connected))
  | .proposed, handshake =>
      handshake.taxi.phase = .proposed ∧ handshake.ToServer [] (Proposes id)
  | .answered admitted, handshake =>
      handshake.taxi.phase = .proposed ∧
        handshake.ToTaxi [(id, verdict admitted)] (·.Answers session (verdict admitted))
  | .leaving conclusion, handshake =>
      handshake.taxi.phase = conclusion.phase ∧
        handshake.ToServer conclusion.proposals (· = .control .eot)
  | .done conclusion, handshake =>
      handshake.taxi.phase = conclusion.phase ∧ handshake.server.proposals = conclusion.proposals ∧
        handshake.server.closed = true ∧ handshake.toServer = [] ∧ handshake.toTaxi = []

variable {session : Uuid} {id : TaxiId} {before after : Handshake}

/-! ### What the server does -/

/-- An `ENQ` is acknowledged, or not. -/
theorem attendFrame_enq {client : SocketHandler} {frame : Frame} {meeting : Meeting}
    (content : frame.content = .control .enq) :
    ∃ next reply, AuthServer.attendFrame session client frame meeting.connected meeting.check
        meeting.add = ⟨next, some reply, none, true⟩ ∧
      reply.content = .control (verdict meeting.connected) := by
  obtain ⟨empty, _, shown⟩ := @SocketHandler.readFrame_of_control client frame _ content
  rw [AuthServer.attendFrame_eq]
  simp only [AuthServer.reply, empty, shown, Bool.false_eq_true, if_false]
  exact ⟨_, _, rfl, rfl⟩

/-- An `EOT` ends the thread. -/
theorem attendFrame_eot {client : SocketHandler} {frame : Frame} {meeting : Meeting}
    (content : frame.content = .control .eot) :
    ∃ next, AuthServer.attendFrame session client frame meeting.connected meeting.check
        meeting.add = ⟨next, none, none, false⟩ := by
  obtain ⟨empty, _, shown⟩ := @SocketHandler.readFrame_of_control client frame _ content
  rw [AuthServer.attendFrame_eq]
  simp only [AuthServer.reply, empty, shown, Bool.false_eq_true, if_false]
  exact ⟨_, rfl⟩

/-- An identifier is answered, and the session is behind the answer. -/
theorem attendFrame_proposes {client : SocketHandler} {frame : Frame} {meeting : Meeting}
    (proposes : Proposes id frame.content) :
    ∃ next reply, AuthServer.attendFrame session client frame meeting.connected meeting.check
        meeting.add = ⟨next, some reply,
          some (id, verdict (AuthServer.admits meeting.check meeting.add id)), true⟩ ∧
      reply.content.Answers session (verdict (AuthServer.admits meeting.check meeting.add id)) := by
  obtain ⟨payload, content, rfl⟩ := proposes
  obtain ⟨present, _, shown⟩ := @SocketHandler.readFrame_of_data client frame _ content
  rw [AuthServer.attendFrame_eq]
  simp only [AuthServer.reply, present, shown, if_true]
  refine ⟨_, _, rfl, ?_⟩
  rw [AuthServer.putAnswer_content]
  exact answers_overwrite

/-- The frame for the server is read. -/
theorem ToServer.served {proposals : List (TaxiId × ControlChar)} {content : Content → Prop}
    (toServer : before.ToServer proposals content) {event : Event} (reads : event.Reads)
    (stepped : before.step session id event = some after) :
    ∃ meeting frame, event.meeting? = some meeting ∧ content frame.content ∧
      after = { before with
        server := before.server.add (AuthServer.attendFrame session before.server.client frame
          meeting.connected meeting.check meeting.add)
        toServer := []
        toTaxi := (AuthServer.attendFrame session before.server.client frame meeting.connected
          meeting.check meeting.add).frame?.toList } := by
  obtain ⟨isOpen, _, ⟨frame, waiting, carries⟩, toTaxi⟩ := toServer
  cases event with
  | serve connected check add =>
      simp only [step, isOpen, waiting, toTaxi, List.nil_append, Option.some.injEq] at stepped
      exact ⟨⟨connected, check, add⟩, frame, rfl, carries, stepped.symm⟩
  | deliver => simp [step, toTaxi] at stepped
  | serverFails | taxiFails => exact reads.elim

/-- The frame for the taxi is read. -/
theorem ToTaxi.delivered {proposals : List (TaxiId × ControlChar)} {content : Content → Prop}
    (toTaxi : before.ToTaxi proposals content) {event : Event} (reads : event.Reads)
    (stepped : before.step session id event = some after) :
    ∃ frame : Frame, event.meeting? = none ∧ content frame.content ∧
      before.turn id frame.incoming [] = some after := by
  obtain ⟨isOpen, _, toServer, frame, waiting, carries⟩ := toTaxi
  cases event with
  | serve => simp [step, isOpen, toServer] at stepped
  | deliver =>
      simp only [step, waiting] at stepped
      exact ⟨frame, rfl, carries, stepped⟩
  | serverFails | taxiFails => exact reads.elim

/-! ### What the taxi does -/

/-- The taxi has read its frame and sent a control character. -/
theorem ToTaxi.sent {proposals : List (TaxiId × ControlChar)} {content : Content → Prop}
    (toTaxi : before.ToTaxi proposals content) {handler : SocketHandler} {char : ControlChar}
    {phase : AuthenticatePhase} :
    ToServer { before with
      taxi := (Authenticate.sendControlChar handler char phase).1
      toServer := before.toServer ++ (Authenticate.sendControlChar handler char phase).2
      toTaxi := [] } proposals (· = .control char) where
  isOpen := toTaxi.isOpen
  proposals := toTaxi.proposals
  waiting := ⟨handler.controlFrame char, by
    simp [toTaxi.toServer, Authenticate.sendControlChar], rfl⟩
  toTaxi := rfl

/-- The taxi reads the answer to an `ENQ`. -/
theorem turn_told {round : Nat} {connected : Bool} {frame : Frame} (within : round ≤ 2)
    (phase : before.taxi.phase = .asking round)
    (toTaxi : before.ToTaxi [] (· = .control (verdict connected)))
    (content : frame.content = .control (verdict connected))
    (turned : before.turn id frame.incoming [] = some after) :
    ∃ later : Stage, At session id later after ∧ later.left < (Stage.told round connected).left ∧
      ∀ meetings, (Stage.told round connected).ends session id meetings =
        later.ends session id meetings := by
  obtain ⟨next, went, rfl⟩ := Option.map_eq_some_iff.mp turned
  obtain ⟨_, control, shown⟩ :=
    @SocketHandler.readFrame_of_control before.taxi.handler frame _ content
  have returned : (before.taxi.handler.readFrame frame).1 = true := SocketHandler.readFrame_returns
  simp only [Authenticate.turn, phase, Option.some.injEq] at went
  rw [← SocketHandler.readFrame, returned] at went
  cases connected with
  | true =>
      simp only [Authenticate.asked, control, shown, verdict, not_true_eq_false, false_and, and_self,
        if_true, if_false] at went
      subst went
      refine ⟨.proposed, ⟨rfl, toTaxi.isOpen, toTaxi.proposals,
        ⟨(Authenticate.putId (before.taxi.handler.readFrame frame).2 id).dataFrame, ?_, _, rfl,
          AuthServer.idOfData_putId⟩, rfl⟩, ?_, fun _ => rfl⟩
      · simp [toTaxi.toServer]
      · simp only [Stage.left]
        omega
  | false =>
      have other : ControlChar.nack ≠ .ack := by decide
      simp only [Authenticate.asked, control, shown, verdict, not_true_eq_false, false_and,
        Option.some.injEq, other, and_false, if_false, Bool.false_eq_true] at went
      by_cases last : round = 2
      · rw [if_pos last] at went
        subst went
        refine ⟨.leaving .exited, ⟨rfl, toTaxi.sent⟩, ?_, ?_⟩
        · simp [Stage.left, last]
        · intro meetings
          simp [Stage.ends, last, concluded]
      · rw [if_neg last] at went
        subst went
        refine ⟨.asked (round + 1), ⟨by omega, rfl, toTaxi.sent⟩, ?_, ?_⟩
        · simp only [Stage.left]
          omega
        · intro meetings
          have fewer : 3 - (round + 1) = 2 - round := by omega
          simp [Stage.ends, fewer]

/-- The taxi reads the answer to its identifier. -/
theorem turn_answered {admitted : Bool} {frame : Frame}
    (phase : before.taxi.phase = .proposed)
    (toTaxi : before.ToTaxi [(id, verdict admitted)] (·.Answers session (verdict admitted)))
    (answers : frame.content.Answers session (verdict admitted))
    (turned : before.turn id frame.incoming [] = some after) :
    At session id (.leaving (.answered session id admitted)) after := by
  obtain ⟨next, went, rfl⟩ := Option.map_eq_some_iff.mp turned
  obtain ⟨present, front, behind⟩ :=
    @HandshakeStep.shows_answer _ before.taxi.handler _ _ answers
  have returned : (before.taxi.handler.readFrame frame).1 = true := SocketHandler.readFrame_returns
  simp only [Authenticate.turn, phase, Option.some.injEq] at went
  rw [← SocketHandler.readFrame, returned] at went
  cases admitted with
  | true =>
      simp only [Authenticate.answered, present, front, behind, verdict, not_true_eq_false,
        false_and, ne_eq, or_self, if_true, if_false] at went
      subst went
      exact ⟨rfl, toTaxi.sent⟩
  | false =>
      have other : ControlChar.nack.byte ≠ ControlChar.ack.byte := by decide
      simp only [Authenticate.answered, present, front, verdict, not_true_eq_false, false_and,
        ne_eq, other, not_false_eq_true, or_true, Bool.false_eq_true, if_true, if_false] at went
      subst went
      exact ⟨rfl, toTaxi.sent⟩

/-! ### One read after the other -/

/-- A read which finds a frame leads on, and to what had to come of it. -/
theorem advances {stage : Stage} (here : At session id stage before) {event : Event}
    (reads : event.Reads) (stepped : before.step session id event = some after) :
    ∃ later : Stage, At session id later after ∧ later.left < stage.left ∧
      ∀ meetings, stage.ends session id (event.meeting?.toList ++ meetings) =
        later.ends session id meetings := by
  cases stage with
  | asked round =>
      obtain ⟨within, phase, toServer⟩ := here
      obtain ⟨meeting, frame, met, content, rfl⟩ := toServer.served reads stepped
      obtain ⟨next, reply, passed, told⟩ :=
        @attendFrame_enq session before.server.client frame meeting content
      rw [passed]
      refine ⟨.told round meeting.connected, ⟨within, phase, rfl, ?_, rfl, reply, rfl, told⟩, ?_,
        ?_⟩
      · simp [AuthServer.Attendance.add, toServer.proposals]
      · simp only [Stage.left]
        omega
      · intro meetings
        have asks : 3 - round = (2 - round) + 1 := by omega
        simp [Stage.ends, met, asks, concluded]
  | told round connected =>
      obtain ⟨within, phase, toTaxi⟩ := here
      obtain ⟨frame, unmet, content, turned⟩ := toTaxi.delivered reads stepped
      rw [unmet]
      exact turn_told within phase toTaxi content turned
  | proposed =>
      obtain ⟨phase, toServer⟩ := here
      obtain ⟨meeting, frame, met, proposes, rfl⟩ := toServer.served reads stepped
      obtain ⟨next, reply, passed, answers⟩ :=
        @attendFrame_proposes session id before.server.client frame meeting proposes
      rw [passed]
      refine ⟨.answered (AuthServer.admits meeting.check meeting.add id),
        ⟨phase, rfl, ?_, rfl, reply, rfl, answers⟩, by simp [Stage.left], ?_⟩
      · simp [AuthServer.Attendance.add, toServer.proposals]
      · intro meetings
        simp [Stage.ends, met, judged]
  | answered admitted =>
      obtain ⟨phase, toTaxi⟩ := here
      obtain ⟨frame, unmet, answers, turned⟩ := toTaxi.delivered reads stepped
      rw [unmet]
      exact ⟨_, turn_answered phase toTaxi answers turned, by simp [Stage.left], fun _ => rfl⟩
  | leaving conclusion =>
      obtain ⟨phase, toServer⟩ := here
      obtain ⟨meeting, frame, met, content, rfl⟩ := toServer.served reads stepped
      obtain ⟨next, passed⟩ := @attendFrame_eot session before.server.client frame meeting content
      rw [passed]
      refine ⟨.done conclusion, ⟨phase, ?_, rfl, rfl, rfl⟩, by simp [Stage.left], fun _ => rfl⟩
      simp [AuthServer.Attendance.add, toServer.proposals]
  | done conclusion =>
      obtain ⟨_, _, closed, toServer, toTaxi⟩ := here
      cases event with
      | serve => simp [step, closed] at stepped
      | deliver => simp [step, toTaxi] at stepped
      | serverFails | taxiFails => exact reads.elim

/-- A handshake of which nothing can be read any more is at its end. -/
theorem reads_on {stage : Stage} (here : At session id stage before)
    (stuck : ∀ event : Event, event.Reads → before.step session id event = none) :
    ∃ conclusion, stage = .done conclusion := by
  have served {proposals : List (TaxiId × ControlChar)} {content : Content → Prop}
      (toServer : before.ToServer proposals content) : False := by
    obtain ⟨isOpen, _, ⟨frame, waiting, _⟩, _⟩ := toServer
    have refused := stuck (.serve true ⟨0, [], .initial .empty⟩ ⟨0, [], .initial .empty⟩) trivial
    simp [step, isOpen, waiting] at refused
  have delivered {proposals : List (TaxiId × ControlChar)} {content : Content → Prop}
      (turns : ∀ incoming, (before.taxi.turn id incoming).isSome)
      (toTaxi : before.ToTaxi proposals content) : False := by
    obtain ⟨_, _, _, frame, waiting, _⟩ := toTaxi
    have refused := stuck .deliver trivial
    simp only [step, waiting, turn, Option.map_eq_none_iff] at refused
    have goesOn := turns frame.incoming
    rw [refused] at goesOn
    cases goesOn
  cases stage with
  | asked => exact (served here.2.2).elim
  | told =>
      refine (delivered (fun incoming => ?_) here.2.2).elim
      simp [Authenticate.turn, here.2.1]
  | proposed => exact (served here.2).elim
  | answered =>
      refine (delivered (fun incoming => ?_) here.2).elim
      simp [Authenticate.turn, here.1]
  | leaving => exact (served here.2).elim
  | done conclusion => exact ⟨conclusion, rfl⟩

/-- A run of reads which find their frames leads on as often as it reads, to what had to come of
it. -/
theorem advances_exec {stage : Stage} {events : List Event} (here : At session id stage before)
    (reads : ∀ event ∈ events, event.Reads)
    (ran : (machine session id).exec before events = some after) :
    ∃ later : Stage, At session id later after ∧ events.length + later.left ≤ stage.left ∧
      ∀ meetings, stage.ends session id (events.filterMap Event.meeting? ++ meetings) =
        later.ends session id meetings := by
  induction events generalizing before stage with
  | nil =>
      cases ran
      exact ⟨stage, here, by simp, fun _ => rfl⟩
  | cons event events inductionHypothesis =>
      rw [List.forall_mem_cons] at reads
      cases stepped : (machine session id).step before event with
      | none => simp [Machine.exec, stepped] at ran
      | some next =>
          simp only [Machine.exec, stepped] at ran
          obtain ⟨middle, there, fewer, same⟩ := advances here reads.1 stepped
          obtain ⟨later, atLast, fewerStill, sameStill⟩ := inductionHypothesis there reads.2 ran
          refine ⟨later, atLast, ?_, fun meetings => ?_⟩
          · rw [List.length_cons]
            omega
          · rw [← sameStill, ← same]
            cases met : event.meeting? <;> simp [met]

/-- The first `ENQ` is on its way. -/
theorem at_start : At session id (.asked 0) .start :=
  ⟨Nat.zero_le _, rfl, rfl, rfl, ⟨_, rfl, rfl⟩, rfl⟩

end Handshake

/-- Every handshake in which all reads find their frames ends within nine reads. Then nothing is on
its way and the thread of the server has returned, and what the server met says how it has ended:
the taxi has the session of the server if it was admitted under its own identifier, has ended as
refused if it was not, and has ended unheard if the server could not reach the database three
times. -/
theorem handshake_concludes (session : Uuid) (id : TaxiId) (events : List Handshake.Event)
    (last : Handshake) (reads : ∀ event ∈ events, event.Reads)
    (ran : (Handshake.machine session id).exec .start events = some last) :
    events.length ≤ 9 ∧
      ((∀ event : Handshake.Event, event.Reads → last.step session id event = none) →
        last.toServer = [] ∧ last.toTaxi = [] ∧ last.server.closed = true ∧
          ⟨last.taxi.phase, last.server.proposals⟩ =
            Handshake.concluded session id 3 (events.filterMap Handshake.Event.meeting?)) := by
  obtain ⟨later, here, fewer, same⟩ := Handshake.advances_exec Handshake.at_start reads ran
  have bound : (Handshake.Stage.asked 0).left = 9 := rfl
  refine ⟨by omega, fun stuck => ?_⟩
  obtain ⟨conclusion, rfl⟩ := Handshake.reads_on here stuck
  obtain ⟨phase, proposals, closed, toServer, toTaxi⟩ := here
  have concludes := same []
  rw [List.append_nil] at concludes
  change Handshake.concluded session id 3 _ = conclusion at concludes
  exact ⟨toServer, toTaxi, closed, by rw [concludes, phase, proposals]⟩

/-- A new taxi whose frames are answered at once is admitted after five reads. -/
theorem prompt_handshake_concludes :
    ∃ last, (Handshake.machine Town.session 1).exec .start Handshake.prompt = some last ∧
      last.toServer = [] ∧ last.toTaxi = [] ∧ last.server.closed = true ∧
        (⟨last.taxi.phase, last.server.proposals⟩ : Handshake.Conclusion) =
          ⟨.authenticated Town.session, [(1, .ack)]⟩ := by
  have ends : ∃ last ∈ (Handshake.machine Town.session 1).exec .start Handshake.prompt,
      last.server.closed = true ∧ last.toTaxi = [] := by
    decide +kernel
  obtain ⟨last, ran, closed, nothing⟩ := ends
  obtain ⟨_, quiet⟩ := handshake_concludes Town.session 1 Handshake.prompt last
    (by simp [Handshake.prompt, Handshake.serveNew, Handshake.Event.Reads]) ran
  obtain ⟨toServer, toTaxi, returned, concluded⟩ := quiet fun event reads => by
    cases event with
    | serve => simp [Handshake.step, closed]
    | deliver => simp [Handshake.step, nothing]
    | serverFails | taxiFails => exact reads.elim
  exact ⟨last, ran, toServer, toTaxi, returned, concluded.trans (by decide +kernel)⟩

end EasyCab
