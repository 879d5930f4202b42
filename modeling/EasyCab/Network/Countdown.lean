import EasyCab.Central.WaitTime
import EasyCab.Network.Link
import EasyCab.Se.EcSe

/-!
# One connection of a sensor

`EC_SE`, the thread of `EC_DE` which attends it, and Central, from the moment when the taxi accepts
the connection. The sensor counts down, the taxi reports one less than it receives, and Central
stores the report and derives from it whether the taxi is ready.

A read of one of the two sockets answers a whole frame or fails. Requests are consumed in the order
in which they were put on `requests`. The other components may put messages there at any time, but
only the taxi settles how long it waits, and the messages of its earlier connections are consumed.
-/

namespace EasyCab

open Library

/-- The three components and what is between them. -/
structure Countdown where
  sensor : EcSe
  /-- What the taxi has written to the connection and the sensor has not read. -/
  answers : List Frame
  /-- What the sensor has written to it and the taxi has not read. -/
  counts : List Frame
  /-- The socket of `attend`. -/
  socket : SocketHandler
  /-- `attend` has answered, so it reads before its next pass. -/
  answered : Bool
  taxi : EcDe
  /-- What Central has still to consume. -/
  requests : List Message
  central : System
  /-- What was noted of the counter, oldest first, for the statements only. -/
  notes : List EcSe.Note
  /-- The waiting times which the taxi has received, oldest first. -/
  received : List Int32

/-- The handler after the answer of `attend` was written to its buffer. -/
def SocketHandler.putMoving (handler : SocketHandler) (moving : Bool) : SocketHandler :=
  handler.fill ((payload handler.buffer).set 0 (if moving then 1 else 0))

/-- What the sensor is told, if the act tells it something. -/
def EcDe.Act.answer? : EcDe.Act → Option Bool
  | .answer moving => some moving
  | .produce _ => none

namespace Countdown

/-- What can happen next. -/
inductive Event where
  /-- The sensor reads the next answer of the taxi. -/
  | hear
  /-- Something else happens to the sensor. -/
  | sensor (event : EcSe.Event)
  /-- One pass through the loop of `attend`, with the read before it. -/
  | exchange (again : Bool)
  /-- Something else happens to the taxi, which accepts no other sensor. -/
  | taxi (event : EcDe.Event)
  /-- Another component puts a message on `requests`. -/
  | post (message : Message)
  /-- The authentication server runs the query of `addTaxi`. -/
  | register (now : Timestamp) (taxiId : TaxiId) (reconnect : Bool) (outages : List Bool)
  /-- The Kafka server consumes the next request. -/
  | request (now : Timestamp) (outages : List Bool) (beyond : Beyond)

/-- The sensor took a turn. -/
def sensed (countdown : Countdown) (next : EcSe) (acts : List EcSe.Act) : Countdown :=
  { countdown with
    sensor := next
    counts := countdown.counts ++ acts.filterMap EcSe.Act.frame?
    notes := countdown.notes ++ acts.filterMap EcSe.Act.note? }

/-- The taxi took a turn. -/
def turned (countdown : Countdown) (next : EcDe) (acts : List EcDe.Act) : Countdown :=
  { countdown with
    taxi := next
    requests := countdown.requests ++ (Network.requestsOf acts).map (·.1) }

/-- `attend` writes its answer. -/
def answer (countdown : Countdown) (moving : Bool) : Countdown :=
  let filled := countdown.socket.putMoving moving
  { countdown with
    socket := filled.writeToSocket
    answers := countdown.answers ++ [filled.dataFrame]
    answered := true }

/-- The read before a pass through the loop of `attend`. There is none before the first pass, which
finds the data of a new socket. -/
def receive (countdown : Countdown) : Option Countdown :=
  if countdown.answered then
    match countdown.counts with
    | [] => none
    | frame :: counts =>
        let (_, socket) := countdown.socket.readFrame frame
        some { countdown with
          socket := socket
          counts := counts
          received := countdown.received ++ [intOf socket.getData] }
  else some countdown

/-- One step. The request of which Central dies ends the run. -/
def step (session : Uuid) (countdown : Countdown) : Event → Option Countdown
  | .hear =>
      match countdown.answers with
      | [] => none
      | frame :: answers => do
          let (next, acts) ← countdown.sensor.turn (.read frame)
          return { countdown with answers := answers }.sensed next acts
  | .sensor event =>
      match event with
      | .read _ => none
      | event => do
          let (next, acts) ← countdown.sensor.turn event
          return countdown.sensed next acts
  | .exchange again => do
      let heard ← countdown.receive
      let (next, acts) ← heard.taxi.turn (.tick (intOf heard.socket.getData) again)
      let moving ← acts.findSome? EcDe.Act.answer?
      return (heard.turned next acts).answer moving
  | .taxi event =>
      match event with
      | .tick .. => none
      | .connect => none
      | event => do
          let (next, acts) ← countdown.taxi.turn event
          return countdown.turned next acts
  | .post message =>
      if message.settles countdown.taxi.id then none
      else some { countdown with requests := countdown.requests ++ [message] }
  | .register now taxiId reconnect outages => do
      let central ← countdown.central.step session (.addTaxi now taxiId reconnect outages)
      return { countdown with
        central := central
        requests := countdown.requests ++
          (AuthServer.addTaxi now session taxiId reconnect outages
            countdown.central.db).value.toList }
  | .request now outages beyond =>
      match countdown.requests with
      | [] => none
      | message :: requests => do
          let central ← countdown.central.step session
            (.request now (message.read beyond).1 outages)
          return { countdown with central := central, requests := requests }

/-- The connection as a machine. -/
def machine (session : Uuid) : Machine Countdown Event := ⟨step session⟩

/-- The taxi accepts the connection of a sensor, while Central has still to consume some
requests. -/
def connect (taxi : EcDe) (requests : List Message) (central : System) : Option Countdown := do
  let (next, acts) ← taxi.turn .connect
  return {
    sensor := .start
    answers := []
    counts := []
    socket := .new
    answered := false
    taxi := next
    requests := requests ++ (Network.requestsOf acts).map (·.1)
    central := central
    notes := []
    received := [] }

/-! ### Its steps -/

/-- What the read before a pass makes of the connection. -/
inductive Received (countdown : Countdown) : Countdown → Prop where
  | first (unanswered : countdown.answered = false) : Received countdown countdown
  | read {frame : Frame} {counts : List Frame} (answered : countdown.answered = true)
      (waiting : countdown.counts = frame :: counts) :
      Received countdown { countdown with
        socket := (countdown.socket.readFrame frame).2
        counts := counts
        received := countdown.received ++ [intOf (countdown.socket.readFrame frame).2.getData] }

/-- What a step does, event by event. -/
inductive Stepped (session : Uuid) (countdown : Countdown) : Event → Countdown → Prop where
  | hear {frame : Frame} {answers : List Frame} {next : EcSe} {acts : List EcSe.Act}
      (waiting : countdown.answers = frame :: answers)
      (turned : countdown.sensor.turn (.read frame) = some (next, acts)) :
      Stepped session countdown .hear ({ countdown with answers := answers }.sensed next acts)
  | sensor {event : EcSe.Event} {next : EcSe} {acts : List EcSe.Act}
      (turned : countdown.sensor.turn event = some (next, acts)) :
      Stepped session countdown (.sensor event) (countdown.sensed next acts)
  | exchange {again moving : Bool} {heard : Countdown} {next : EcDe} {acts : List EcDe.Act}
      (received : countdown.Received heard)
      (turned : heard.taxi.turn (.tick (intOf heard.socket.getData) again) = some (next, acts)) :
      Stepped session countdown (.exchange again) ((heard.turned next acts).answer moving)
  | taxi {event : EcDe.Event} {next : EcDe} {acts : List EcDe.Act}
      (unticked : ∀ waitTime again, event ≠ .tick waitTime again) (unconnected : event ≠ .connect)
      (turned : countdown.taxi.turn event = some (next, acts)) :
      Stepped session countdown (.taxi event) (countdown.turned next acts)
  | post {message : Message} (other : message.settles countdown.taxi.id = false) :
      Stepped session countdown (.post message)
        { countdown with requests := countdown.requests ++ [message] }
  | register {now : Timestamp} {taxiId : TaxiId} {reconnect : Bool} {outages : List Bool}
      {central : System}
      (stepped : countdown.central.step session (.addTaxi now taxiId reconnect outages) =
        some central) :
      Stepped session countdown (.register now taxiId reconnect outages)
        { countdown with
          central := central
          requests := countdown.requests ++
            (AuthServer.addTaxi now session taxiId reconnect outages
              countdown.central.db).value.toList }
  | request {now : Timestamp} {outages : List Bool} {beyond : Beyond} {message : Message}
      {requests : List Message} {central : System}
      (waiting : countdown.requests = message :: requests)
      (stepped : countdown.central.step session (.request now (message.read beyond).1 outages) =
        some central) :
      Stepped session countdown (.request now outages beyond)
        { countdown with central := central, requests := requests }

variable {session : Uuid} {countdown next : Countdown} {event : Event}

/-- The read takes one of its ways. -/
theorem received_of_receive {heard : Countdown} (received : countdown.receive = some heard) :
    countdown.Received heard := by
  unfold receive at received
  split at received
  · next answered =>
    split at received
    · cases received
    · next frame counts waiting =>
      cases received
      exact .read answered waiting
  · next unanswered =>
    cases received
    exact .first (by simpa using unanswered)

/-- A step of the machine is one of those listed. -/
theorem stepped_of_step (stepped : countdown.step session event = some next) :
    Stepped session countdown event next := by
  cases event with
  | hear =>
      simp only [step] at stepped
      split at stepped
      · cases stepped
      · next frame answers waiting =>
        simp only [Option.bind_eq_bind, Option.bind_eq_some_iff, Option.pure_def,
          Option.some.injEq] at stepped
        obtain ⟨⟨sensor, acts⟩, turned, rfl⟩ := stepped
        exact .hear waiting turned
  | sensor event =>
      simp only [step] at stepped
      split at stepped
      · cases stepped
      · simp only [Option.bind_eq_bind, Option.bind_eq_some_iff, Option.pure_def,
          Option.some.injEq] at stepped
        obtain ⟨⟨sensor, acts⟩, turned, rfl⟩ := stepped
        exact .sensor turned
  | exchange again =>
      simp only [step, Option.bind_eq_bind, Option.bind_eq_some_iff, Option.pure_def,
        Option.some.injEq] at stepped
      obtain ⟨heard, received, ⟨taxi, acts⟩, turned, moving, _, rfl⟩ := stepped
      exact .exchange (received_of_receive received) turned
  | taxi event =>
      simp only [step] at stepped
      split at stepped
      · cases stepped
      · cases stepped
      · next unticked unconnected =>
        simp only [Option.bind_eq_bind, Option.bind_eq_some_iff, Option.pure_def,
          Option.some.injEq] at stepped
        obtain ⟨⟨taxi, acts⟩, turned, rfl⟩ := stepped
        exact .taxi unticked unconnected turned
  | post message =>
      simp only [step, Option.ite_none_left_eq_some, Option.some.injEq] at stepped
      obtain ⟨other, rfl⟩ := stepped
      exact .post (by simpa using other)
  | register now taxiId reconnect outages =>
      simp only [step, Option.bind_eq_bind, Option.bind_eq_some_iff, Option.pure_def,
        Option.some.injEq] at stepped
      obtain ⟨central, stepped, rfl⟩ := stepped
      exact .register stepped
  | request now outages beyond =>
      simp only [step] at stepped
      split at stepped
      · cases stepped
      · next message requests waiting =>
        simp only [Option.bind_eq_bind, Option.bind_eq_some_iff, Option.pure_def,
          Option.some.injEq] at stepped
        obtain ⟨central, stepped, rfl⟩ := stepped
        exact .request waiting stepped

/-! ### What the sensor counts -/

/-- What is foretold of the sensor comes true, and the taxi receives what was counted, each value
once and in order. -/
structure Counting (countdown : Countdown) : Prop where
  natural : countdown.sensor.Natural
  foretold : countdown.sensor.Foretold countdown.notes
  regular : EcSe.Regular countdown.notes
  inOrder : countdown.received ++ countdown.counts.map Frame.count <+: EcSe.counted countdown.notes
  complete : countdown.sensor.thread ≠ .ended →
    countdown.received ++ countdown.counts.map Frame.count ++ countdown.sensor.held =
      EcSe.counted countdown.notes

/-- A turn of the sensor keeps what is counted and received. -/
theorem Counting.sensed (counting : countdown.Counting) {event : EcSe.Event} {next : EcSe}
    {acts : List EcSe.Act} (turned : countdown.sensor.turn event = some (next, acts)) :
    (countdown.sensed next acts).Counting := by
  have turned := EcSe.turned_of_turn turned
  obtain ⟨natural, foretold, regular, inOrder, complete⟩ := counting
  have whole (runs : next.thread ≠ .ended) :
      countdown.received ++ (countdown.counts ++ acts.filterMap EcSe.Act.frame?).map Frame.count ++
        next.held = EcSe.counted (countdown.notes ++ acts.filterMap EcSe.Act.note?) := by
    have before := complete fun ended => runs (turned.stays_ended ended)
    have moved := turned.conserves runs
    calc
      _ = countdown.received ++ countdown.counts.map Frame.count ++
          ((acts.filterMap EcSe.Act.frame?).map Frame.count ++ next.held) := by simp
      _ = countdown.received ++ countdown.counts.map Frame.count ++ countdown.sensor.held ++
          EcSe.counted (acts.filterMap EcSe.Act.note?) := by rw [← moved]; simp only [List.append_assoc]
      _ = EcSe.counted countdown.notes ++ EcSe.counted (acts.filterMap EcSe.Act.note?) := by
          rw [before]
      _ = _ := List.filterMap_append.symm
  refine ⟨natural.turned turned, foretold.turned natural turned, regular.turned foretold turned,
    ?_, whole⟩
  by_cases ended : next.thread = .ended
  · have silent := turned.silent ended
    simp only [Countdown.sensed, silent, List.append_nil, EcSe.counted, List.filterMap_append]
    exact inOrder.trans (List.prefix_append _ _)
  · exact ⟨next.held, whole ended⟩

/-- A read of the taxi keeps what is counted and received. -/
theorem Counting.received (counting : countdown.Counting) {heard : Countdown}
    (received : countdown.Received heard) : heard.Counting := by
  obtain ⟨natural, foretold, regular, inOrder, complete⟩ := counting
  cases received with
  | first unanswered => exact ⟨natural, foretold, regular, inOrder, complete⟩
  | @read frame counts answered waiting =>
      have same : countdown.received ++ countdown.counts.map Frame.count =
          countdown.received ++ [intOf (countdown.socket.readFrame frame).2.getData] ++
            counts.map Frame.count := by
        simp [waiting, intOf_readFrame]
      rw [same] at inOrder complete
      exact ⟨natural, foretold, regular, inOrder, complete⟩

/-- Every step keeps what is counted and received. -/
theorem Counting.step (counting : countdown.Counting)
    (stepped : Stepped session countdown event next) : next.Counting := by
  cases stepped with
  | @hear frame answers _ _ waiting turned =>
      obtain ⟨natural, foretold, regular, inOrder, complete⟩ := counting
      have heard : Counting { countdown with answers := answers } :=
        ⟨natural, foretold, regular, inOrder, complete⟩
      exact heard.sensed turned
  | sensor turned => exact counting.sensed turned
  | exchange received turned =>
      obtain ⟨natural, foretold, regular, inOrder, complete⟩ := counting.received received
      exact ⟨natural, foretold, regular, inOrder, complete⟩
  | taxi | post | register | request =>
      obtain ⟨natural, foretold, regular, inOrder, complete⟩ := counting
      exact ⟨natural, foretold, regular, inOrder, complete⟩

/-- Of two waiting times which the taxi received one after the other, the second is one less than
the first, down to zero, unless the operator set the counter after the first was read and before
the second was. -/
def Drops (countdown : Countdown) : Prop :=
  ∀ earlier value next later, countdown.received = earlier ++ value :: next :: later →
    ∃ before between after,
      countdown.notes = before ++ .counted value :: (between ++ .counted next :: after) ∧
        EcSe.counted before = earlier ∧ (∀ note ∈ between, ∃ set, note = .selected set) ∧
        (between = [] → next.toInt = max (value.toInt - 1) 0)

theorem Counting.drops (counting : countdown.Counting) : countdown.Drops := by
  intro earlier value next later received
  obtain ⟨more, counted⟩ := counting.inOrder
  have split : EcSe.counted countdown.notes =
      earlier ++ value :: next :: (later ++ countdown.counts.map Frame.count ++ more) := by
    rw [← counted, received]
    simp
  exact counting.regular.neighbours split

end Countdown

end EasyCab
