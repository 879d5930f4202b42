import EasyCab.De.ShortestPath
import EasyCab.Library.Progress
import EasyCab.Network.Waiting

/-!
# A taxi with a sensor arrives

Between a sensor and its taxi one frame at a time is on its way. The sensor counts down in each
round and sends zero when it has come to the end, and for each zero the taxi makes a move. So a
taxi which is not ordered to stop arrives, however often the operator has set the counter before.
-/

namespace EasyCab

open Library

namespace EcSe

/-- The thread is between a write and the next read. -/
def Thread.Rests : Thread → Prop
  | .sleeping | .decrementing | .reading => True
  | _ => False

/-- How many steps the thread of the sensor makes before it reads again. -/
def Thread.left (counter : Nat) : Thread → Nat
  | .sleeping => if counter = 0 then 1 else 2
  | .decrementing => 1
  | _ => 0

/-- What the counter is when the thread of the sensor comes to its next read. -/
def Thread.after (counter : Nat) : Thread → Nat
  | .sleeping | .decrementing => counter - 1
  | _ => counter

/-- How many steps are left until the sensor has read an answer, and has counted down to zero. -/
def Thread.round (counter : Nat) (thread : Thread) : Nat :=
  thread.left counter + 6 + 7 * thread.after counter

theorem Thread.round_sleeping {counter : Nat} (left : 0 < counter) :
    Thread.sleeping.round counter = 1 + 7 * counter := by
  have nonzero : counter ≠ 0 := by omega
  simp only [round, Thread.left, after, if_neg nonzero]
  omega

variable {sensor : EcSe}

/-- Between a write and the next read the thread comes nearer to the read with each step. -/
theorem turn_rests (natural : sensor.Natural) (rests : sensor.thread.Rests)
    (busy : sensor.thread ≠ .reading) :
    ∃ next, sensor.turn .work = some (next, []) ∧ next.thread.Rests ∧
      next.stop = sensor.stop ∧ next.main = sensor.main ∧
      next.thread.left next.counter.toInt.toNat < sensor.thread.left sensor.counter.toInt.toNat ∧
      next.thread.after next.counter.toInt.toNat =
        sensor.thread.after sensor.counter.toInt.toNat := by
  obtain ⟨counter, left⟩ := natural
  cases thread : sensor.thread with
  | sleeping =>
      by_cases zero : sensor.counter = 0
      · refine ⟨{ sensor with thread := .reading }, ?_, trivial, rfl, rfl, ?_, ?_⟩
        · simp [turn, communicateWithDE, thread, zero]
        · simp [Thread.left, zero]
        · simp [Thread.after, zero]
      · have some_ : sensor.counter.toInt ≠ 0 := fun none => zero (Int32.toInt_inj.mp none)
        refine ⟨{ sensor with thread := .decrementing }, ?_, trivial, rfl, rfl, ?_, rfl⟩
        · simp [turn, communicateWithDE, thread, zero]
        · have more : sensor.counter.toInt.toNat ≠ 0 := by omega
          simp only [Thread.left, if_neg more]
          omega
  | decrementing =>
      have positive := left thread
      refine ⟨{ sensor with counter := sensor.counter - 1, thread := .reading }, ?_, trivial, rfl,
        rfl, by simp [Thread.left], ?_⟩
      · simp [turn, communicateWithDE, thread]
      · simp only [Thread.after, toInt_sub_one positive]
        omega
  | reading => exact absurd thread busy
  | moving | counting | writing | stopping | ended =>
      rw [thread] at rests
      exact rests.elim

end EcSe

namespace EcDe

variable {taxi next : EcDe} {event : Event} {acts : List Act} {taxiId : TaxiId} {session : Uuid}

/-- Which orders a taxi hears depends on its identifier. -/
theorem order?_of_id (id : next.id = taxi.id) : next.order? = taxi.order? := by
  funext message
  simp [order?, id]

/-- Where the taxi gets to its destination it says so. -/
theorem arrival_reported (signs : taxi.Signs taxiId session)
    (turned : taxi.turn event = some (next, acts)) (away : taxi.pos ≠ taxi.dest)
    (there : next.pos = taxi.dest) :
    ∃ sent, Network.requestsOf acts = [sent] ∧
      sent.1.subject = .request .taxiDestinationReached ∧ sent.1.coord = taxi.dest ∧
        sent.1.Signed taxiId session := by
  have signed := (signs.turn turned).2
  cases turned_of_turn turned with
  | ticked attending drove =>
      rw [requestsOf_attend] at signed ⊢
      cases drove with
      | moves rolls apart allowed move =>
          obtain rfl : move = taxi.dest := there
          exact ⟨_, rfl, by simp, rfl, signed _ (List.mem_singleton_self _)⟩
      | waits | rests => exact absurd there away
  | heard ordered obeyed => cases obeyed <;> exact absurd there away
  | _ => exact absurd there away

/-- No event stops the taxi which brings no order to stop. -/
theorem still_allowed (allowed : taxi.orderedToStop = false)
    (calm : ∀ message, event = .consume message → .taxiStop ∉ message.bind taxi.order?)
    (turned : taxi.turn event = some (next, acts)) : next.orderedToStop = false := by
  cases turned_of_turn turned with
  | ticked attending drove => cases drove <;> exact allowed
  | heard ordered obeyed =>
      cases obeyed with
      | stopped => exact absurd ordered (calm _ rfl)
      | continued => rfl
      | _ => exact allowed
  | _ => exact allowed

end EcDe

namespace Countdown

/-- Where the frame is. -/
inductive Place where
  /-- The taxi has not written the first one. -/
  | fresh
  | count (value : Int32)
  | answer
  /-- The sensor has read the answer and has not written the next count. -/
  | sensor

/-- The frame is there, and the thread of the sensor is where it is then. -/
inductive Placed (countdown : Countdown) : Place → Prop where
  | fresh (first : countdown.answered = false) (counts : countdown.counts = [])
      (answers : countdown.answers = []) (reading : countdown.sensor.thread = .reading)
      (unread : intOf countdown.socket.getData = 0) : Placed countdown .fresh
  | count {frame : Frame} {value : Int32} (answered : countdown.answered = true)
      (counts : countdown.counts = [frame]) (answers : countdown.answers = [])
      (carries : frame.count = value) (rests : countdown.sensor.thread.Rests) :
      Placed countdown (.count value)
  | answer {frame : Frame} {payload : Sized bufferSize} (answered : countdown.answered = true)
      (counts : countdown.counts = []) (answers : countdown.answers = [frame])
      (carries : frame.content = .data payload) (rests : countdown.sensor.thread.Rests) :
      Placed countdown .answer
  | sensor (answered : countdown.answered = true) (counts : countdown.counts = [])
      (answers : countdown.answers = [])
      (works : countdown.sensor.thread = .moving ∨ countdown.sensor.thread = .counting ∨
        ∃ value, countdown.sensor.thread = .writing value) :
      Placed countdown .sensor

/-- The taxi is underway to where it was sent first, the sensor goes on, and the frame is
somewhere. -/
structure Connected (countdown : Countdown) (first : EcDe) (place : Place) : Prop where
  natural : countdown.sensor.Natural
  runs : countdown.sensor.stop = false
  stays : countdown.sensor.main ≠ .choosing .exit
  underway : countdown.taxi.Underway
  signs : countdown.taxi.Signs first.id first.session
  dest : countdown.taxi.dest = first.dest
  placed : countdown.Placed place

/-- How far the taxi has to go, and how far the sensor has counted. -/
structure Stage where
  toGo : Nat
  place : Place
  thread : EcSe.Thread
  counter : Nat

/-- The stage with the frame at this place. -/
def stage (countdown : Countdown) (place : Place) : Stage where
  toGo := countdown.taxi.toGo
  place := place
  thread := countdown.sensor.thread
  counter := countdown.sensor.counter.toInt.toNat

/-- How many steps are left until the taxi makes a move. -/
def Stage.work (stage : Stage) : Nat :=
  match stage.place with
  | .fresh => 0
  | .count value =>
      1 + if 0 < value then stage.thread.round stage.counter else stage.thread.left stage.counter
  | .answer => stage.thread.round stage.counter
  | .sensor =>
      match stage.thread with
      | .moving => 5 + 7 * stage.counter
      | .counting => 4 + 7 * stage.counter
      | .writing value =>
          2 + if 0 < value then EcSe.Thread.sleeping.round stage.counter
            else EcSe.Thread.sleeping.left stage.counter
      | _ => 0

/-- How much is left to do. -/
def Stage.rank (stage : Stage) : Nat ×ₗ Nat := toLex (stage.toGo, stage.work)

/-- What may happen. Nobody leaves, no read fails, and the taxi is given no other destination. -/
def Allows (first : EcDe) : Event → Prop
  | .sensor (.press key) => key ≠ .quit ∧ key ≠ .choose .exit
  | .exchange again => again = true
  | .taxi event => first.Steady event ∨ event = .ping
  | .sensor .work | .sensor .choose | .hear | .post _ | .register .. | .request .. => True
  | .sensor _ => False

/-- The operator does not set the counter, and the taxi is not ordered to stop. -/
def Calm (first : EcDe) : Event → Prop
  | .sensor .choose => False
  | .taxi (.consume message) => .taxiStop ∉ message.bind first.order?
  | _ => True

/-- What brings the taxi nearer to its next move. -/
def Helps (stage : Stage) : Event → Prop
  | .exchange _ =>
      match stage.place with
      | .fresh | .count _ => True
      | _ => False
  | .hear =>
      match stage.place with
      | .answer => stage.thread = .reading
      | _ => False
  | .sensor .work =>
      match stage.place with
      | .sensor => True
      | .answer => stage.thread ≠ .reading
      | _ => False
  | _ => False

/-- What an event leads to. In a calm one a taxi which may go on goes on, where it arrives it says
so, and there it stays. -/
structure Goes (countdown : Countdown) (first : EcDe) (place : Place) (event : Event)
    (after : Countdown) (next : Place) : Prop where
  connected : after.Connected first next
  later : countdown.taxi.orderedToStop = false → countdown.taxi.pos ≠ countdown.taxi.dest →
    Calm first event → after.taxi.orderedToStop = false ∧
      ((after.stage next).rank < (countdown.stage place).rank ∨
        after.stage next = countdown.stage place ∧ ¬ Helps (countdown.stage place) event)
  reports : countdown.taxi.pos ≠ first.dest → after.taxi.pos = first.dest →
    ∃ message, after.requests = countdown.requests ++ [message] ∧
      message.subject = .request .taxiDestinationReached ∧ message.coord = first.dest ∧
        message.Signed first.id first.session
  stays : countdown.taxi.pos = first.dest → after.taxi.pos = first.dest

variable {countdown after : Countdown} {first : EcDe} {place next : Place} {event : Event}
  {session : Uuid}

/-! ### What leaves the taxi alone -/

theorem rank_lt_of_work {stage later : Stage} (same : later.toGo = stage.toGo)
    (less : later.work < stage.work) : later.rank < stage.rank := by
  simp [Stage.rank, Prod.Lex.toLex_lt_toLex, same, less]

/-- What keeps the taxi and the connection leads on, if it lowers the rank or helps with nothing. -/
theorem goes_of_kept (taxi : after.taxi = countdown.taxi) (connected : after.Connected first next)
    (later : Calm first event → (after.stage next).rank < (countdown.stage place).rank ∨
      after.stage next = countdown.stage place ∧ ¬ Helps (countdown.stage place) event) :
    countdown.Goes first place event after next where
  connected := connected
  later := fun goesOn _ calm => ⟨taxi ▸ goesOn, later calm⟩
  reports := fun away there => absurd (taxi ▸ there) away
  stays := fun there => taxi ▸ there

/-- What is refused helps with nothing. -/
theorem goes_of_refused (connected : countdown.Connected first place)
    (refused : (machine session).step countdown event = none)
    (idle : ¬ Helps (countdown.stage place) event) :
    countdown.Goes first place event ((machine session).offer countdown event) place := by
  rw [Machine.offer_of_refused refused]
  exact goes_of_kept rfl connected fun _ => .inr ⟨rfl, idle⟩

/-- A turn of the sensor which is no read is what the machine does. -/
theorem offer_sensor {event : EcSe.Event} {sensor : EcSe} {acts : List EcSe.Act}
    (deaf : ∀ frame, event ≠ .read frame)
    (turned : countdown.sensor.turn event = some (sensor, acts)) :
    (machine session).offer countdown (.sensor event) = countdown.sensed sensor acts := by
  apply Machine.offer_of_step
  change step session countdown (.sensor event) = _
  simp only [step]
  simp [turned]

/-- A turn of the sensor leaves the connection. -/
theorem Connected.sensed (connected : countdown.Connected first place) {event : EcSe.Event}
    {sensor : EcSe} {acts : List EcSe.Act}
    (turned : countdown.sensor.turn event = some (sensor, acts))
    (runs : sensor.stop = false) (stays : sensor.main ≠ .choosing .exit)
    (placed : (countdown.sensed sensor acts).Placed next) :
    (countdown.sensed sensor acts).Connected first next where
  natural := connected.natural.turned (EcSe.turned_of_turn turned)
  runs := runs
  stays := stays
  underway := connected.underway
  signs := connected.signs
  dest := connected.dest
  placed := placed

/-- While the taxi has the frame, or its answer waits, the sensor goes on to its next read. -/
theorem goes_rests (connected : countdown.Connected first place)
    (rests : countdown.sensor.thread.Rests) (busy : countdown.sensor.thread ≠ .reading)
    (placed : ∀ sensor : EcSe, sensor.thread.Rests → (countdown.sensed sensor []).Placed place)
    (less : ∀ sensor : EcSe, sensor.thread.left sensor.counter.toInt.toNat <
        countdown.sensor.thread.left countdown.sensor.counter.toInt.toNat →
      sensor.thread.after sensor.counter.toInt.toNat =
        countdown.sensor.thread.after countdown.sensor.counter.toInt.toNat →
      ((countdown.sensed sensor []).stage place).work < (countdown.stage place).work) :
    countdown.Goes first place (.sensor .work)
      ((machine session).offer countdown (.sensor .work)) place := by
  obtain ⟨sensor, turned, restsNext, stop, main, fewer, same⟩ :=
    EcSe.turn_rests connected.natural rests busy
  rw [offer_sensor (by simp) turned]
  refine goes_of_kept rfl (connected.sensed turned (stop.trans connected.runs)
    (main ▸ connected.stays) (placed sensor restsNext)) fun _ => .inl ?_
  exact rank_lt_of_work rfl (less sensor fewer same)

/-- Where the sensor waits for a frame it does not work. -/
theorem work_refused (reading : countdown.sensor.thread = .reading) :
    (machine session).step countdown (.sensor .work) = none := by
  change step session countdown (.sensor .work) = none
  simp [step, EcSe.turn, EcSe.communicateWithDE, reading]

theorem goes_work (connected : countdown.Connected first place) :
    ∃ next, countdown.Goes first place (.sensor .work)
      ((machine session).offer countdown (.sensor .work)) next := by
  cases connected.placed with
  | fresh _ _ _ reading _ => exact ⟨_, goes_of_refused connected (work_refused reading) id⟩
  | @count frame value answered counts answers carries rests =>
      by_cases reading : countdown.sensor.thread = .reading
      · exact ⟨_, goes_of_refused connected (work_refused reading) id⟩
      · refine ⟨_, goes_rests connected rests reading (fun sensor rests => ?_)
          fun sensor fewer same => ?_⟩
        · exact .count answered (by simp [sensed, counts]) answers carries rests
        · simp only [Stage.work, stage, sensed, EcSe.Thread.round, same]
          split <;> omega
  | @answer frame payload answered counts answers carries rests =>
      by_cases reading : countdown.sensor.thread = .reading
      · exact ⟨_, goes_of_refused connected (work_refused reading) fun busy => busy reading⟩
      · refine ⟨_, goes_rests connected rests reading (fun sensor rests => ?_)
          fun sensor fewer same => ?_⟩
        · exact .answer answered (by simp [sensed, counts]) answers carries rests
        · simp only [Stage.work, stage, sensed, EcSe.Thread.round, same]
          omega
  | sensor answered counts answers works =>
      rcases works with moving | counting | ⟨value, writing⟩
      · have turned : countdown.sensor.turn .work =
            some ({ countdown.sensor with
              moving := countdown.sensor.socket.getData.byteAt 0 ≠ 0
              thread := .counting }, []) := by
          simp [EcSe.turn, EcSe.communicateWithDE, moving]
        rw [offer_sensor (by simp) turned]
        refine ⟨.sensor, goes_of_kept rfl (connected.sensed turned connected.runs connected.stays
          (.sensor answered (by simp [sensed, counts]) answers (.inr (.inl rfl)))) fun _ => .inl ?_⟩
        exact rank_lt_of_work rfl (by simp [Stage.work, stage, sensed, moving])
      · have turned : countdown.sensor.turn .work =
            some ({ countdown.sensor with thread := .writing countdown.sensor.counter },
              [.noted (.counted countdown.sensor.counter)]) := by
          simp [EcSe.turn, EcSe.communicateWithDE, counting]
        rw [offer_sensor (by simp) turned]
        refine ⟨.sensor, goes_of_kept rfl (connected.sensed turned connected.runs connected.stays
          (.sensor answered (by simp [sensed, counts, EcSe.Act.frame?]) answers
            (.inr (.inr ⟨_, rfl⟩)))) fun _ => .inl ?_⟩
        refine rank_lt_of_work rfl ?_
        have natural := connected.natural.counter
        have zero : (0 : Int32).toInt = 0 := by decide
        simp only [Stage.work, stage, sensed, counting, Int32.lt_iff_toInt_lt, zero]
        by_cases elapsed : countdown.sensor.counter.toInt = 0
        · simp [elapsed, EcSe.Thread.left]
        · have left : 0 < countdown.sensor.counter.toInt.toNat := by omega
          rw [if_pos (by omega), EcSe.Thread.round_sleeping left]
          omega
      · have turned : countdown.sensor.turn .work =
            some ({ countdown.sensor with
              socket := (countdown.sensor.socket.putInt value).writeToSocket, thread := .sleeping },
              [.wrote (countdown.sensor.socket.putInt value).dataFrame]) := by
          simp [EcSe.turn, EcSe.communicateWithDE, writing]
        rw [offer_sensor (by simp) turned]
        refine ⟨.count value, goes_of_kept rfl (connected.sensed turned connected.runs
          connected.stays (.count answered (by simp [sensed, counts, EcSe.Act.frame?]; rfl) answers
            (Frame.count_putInt _ _) trivial)) fun _ => .inl ?_⟩
        exact rank_lt_of_work rfl (by simp [Stage.work, stage, sensed, writing])

/-- Every answer of the taxi which is read is data, and the sensor goes on. -/
theorem goes_hear (connected : countdown.Connected first place) :
    ∃ next, countdown.Goes first place .hear ((machine session).offer countdown .hear) next := by
  cases connected.placed with
  | fresh _ _ answers | count _ _ answers | sensor _ _ answers =>
      have refused : (machine session).step countdown .hear = none := by
        change step session countdown .hear = none
        simp [step, answers]
      exact ⟨_, goes_of_refused connected refused id⟩
  | @answer frame payload answered counts answers carries rests =>
      by_cases reading : countdown.sensor.thread = .reading
      · have returned : (countdown.sensor.socket.readFrame frame).1 = true :=
          SocketHandler.readFrame_returns
        have present : (countdown.sensor.socket.readFrame frame).2.hasData = true := by
          have shows := @SocketHandler.readFrame_shows countdown.sensor.socket frame
          rw [carries] at shows
          exact shows.2.1
        have turned : countdown.sensor.turn (.read frame) =
            some ({ countdown.sensor with
              socket := (countdown.sensor.socket.readFrame frame).2, thread := .moving }, []) := by
          simp [EcSe.turn, reading, returned, present]
        have stepped : (machine session).step countdown .hear =
            some ({ countdown with answers := [] }.sensed { countdown.sensor with
              socket := (countdown.sensor.socket.readFrame frame).2, thread := .moving } []) := by
          change step session countdown .hear = _
          simp [step, answers, turned]
        rw [Machine.offer_of_step stepped]
        refine ⟨.sensor, goes_of_kept rfl ⟨connected.natural.turned (EcSe.turned_of_turn turned),
          connected.runs, connected.stays, connected.underway, connected.signs, connected.dest,
          .sensor answered (by simp [sensed, counts]) rfl (.inl rfl)⟩ fun _ => .inl ?_⟩
        refine rank_lt_of_work rfl ?_
        simp only [Stage.work, stage, sensed, reading, EcSe.Thread.round, EcSe.Thread.left,
          EcSe.Thread.after]
        omega
      · have refused : (machine session).step countdown .hear = none := by
          change step session countdown .hear = none
          cases thread : countdown.sensor.thread with
          | reading => exact absurd thread reading
          | _ => simp [step, answers, EcSe.turn, thread]
        exact ⟨_, goes_of_refused connected refused reading⟩

/-- What the operator does moves no frame. -/
theorem Placed.sensed (placed : countdown.Placed place) {sensor : EcSe} {acts : List EcSe.Act}
    (thread : sensor.thread = countdown.sensor.thread)
    (silent : acts.filterMap EcSe.Act.frame? = []) :
    (countdown.sensed sensor acts).Placed place := by
  cases placed with
  | fresh first counts answers reading unread =>
      exact .fresh first (by simp [Countdown.sensed, counts, silent]) answers
        (thread.trans reading) unread
  | count answered counts answers carries rests =>
      exact .count answered (by simp [Countdown.sensed, counts, silent]) answers carries
        (thread.symm ▸ rests)
  | answer answered counts answers carries rests =>
      exact .answer answered (by simp [Countdown.sensed, counts, silent]) answers carries
        (thread.symm ▸ rests)
  | sensor answered counts answers works =>
      exact .sensor answered (by simp [Countdown.sensed, counts, silent]) answers
        (thread.symm ▸ works)

/-- A key which neither ends the program nor chooses to. -/
theorem goes_press (connected : countdown.Connected first place) {key : Key} (stays : key ≠ .quit)
    (goesOn : key ≠ .choose .exit) :
    ∃ next, countdown.Goes first place (.sensor (.press key))
      ((machine session).offer countdown (.sensor (.press key))) next := by
  by_cases looping : countdown.sensor.main = .looping
  · have turned : countdown.sensor.turn (.press key) = some (countdown.sensor.press key, []) := by
      simp [EcSe.turn, looping]
    have pressed : ∃ main, countdown.sensor.press key = { countdown.sensor with main := main } ∧
        main ≠ .choosing .exit := by
      have runs : ¬ countdown.sensor.stop = true := by simp [connected.runs]
      unfold EcSe.press
      rw [if_neg runs]
      cases key with
      | quit => exact absurd rfl stays
      | other => exact ⟨_, rfl, connected.stays⟩
      | choose option =>
          by_cases moving : countdown.sensor.moving = true
          · refine ⟨.choosing option, if_pos moving, ?_⟩
            rintro ⟨⟩
            exact goesOn rfl
          · exact ⟨_, if_neg moving, connected.stays⟩
    obtain ⟨main, pressed, stays⟩ := pressed
    rw [pressed] at turned
    rw [offer_sensor (by simp) turned]
    exact ⟨place, goes_of_kept rfl (connected.sensed turned connected.runs stays
      (connected.placed.sensed rfl rfl)) fun _ => .inr ⟨rfl, id⟩⟩
  · have refused : (machine session).step countdown (.sensor (.press key)) = none := by
      change step session countdown (.sensor (.press key)) = none
      cases main : countdown.sensor.main with
      | looping => exact absurd main looping
      | _ => simp [step, EcSe.turn, main]
    exact ⟨_, goes_of_refused connected refused id⟩

/-- Setting the counter leads on, as it is not calm. -/
theorem goes_choose (connected : countdown.Connected first place) :
    ∃ next, countdown.Goes first place (.sensor .choose)
      ((machine session).offer countdown (.sensor .choose)) next := by
  cases main : countdown.sensor.main with
  | looping | returned =>
      have refused : (machine session).step countdown (.sensor .choose) = none := by
        change step session countdown (.sensor .choose) = none
        simp [step, EcSe.turn, main]
      exact ⟨_, goes_of_refused connected refused id⟩
  | choosing option =>
      cases sets : option.counter? with
      | none =>
          cases option with
          | exit => exact absurd main connected.stays
          | _ => cases sets
      | some value =>
          have turned : countdown.sensor.turn .choose =
              some ({ countdown.sensor with counter := value, main := .looping },
                [.noted (.selected value)]) := by
            simp [EcSe.turn, main, EcSe.choose, sets]
          rw [offer_sensor (by simp) turned]
          exact ⟨place, goes_of_kept rfl (connected.sensed turned connected.runs (by simp)
            (connected.placed.sensed rfl rfl)) fun calm => calm.elim⟩

/-! ### What the taxi does -/

/-- A taxi which is there stays there. -/
theorem stays_there {next : EcDe} {rolled : Bool} {acts : List EcDe.Act}
    (inMap : countdown.taxi.InMap) (advances : EcDe.Advances countdown.taxi rolled next acts)
    (dest : countdown.taxi.dest = first.dest) (there : countdown.taxi.pos = first.dest) :
    next.pos = first.dest := by
  have arrived : countdown.taxi.toGo = 0 := (EcDe.toGo_eq_zero_iff inMap).mpr (there.trans dest.symm)
  have still : next.toGo = 0 := by
    rw [advances.toGo, arrived]
    simp
  exact ((EcDe.toGo_eq_zero_iff advances.inMap).mp still).trans (advances.dest.trans dest)

/-- A taxi which gets there puts the message on `requests`, and nothing else. -/
theorem arrives (connected : countdown.Connected first place) {event : EcDe.Event} {next : EcDe}
    {acts : List EcDe.Act} (turned : countdown.taxi.turn event = some (next, acts))
    (sends : after.requests = countdown.requests ++ (Network.requestsOf acts).map (·.1))
    (away : countdown.taxi.pos ≠ first.dest) (there : next.pos = first.dest) :
    ∃ message, after.requests = countdown.requests ++ [message] ∧
      message.subject = .request .taxiDestinationReached ∧ message.coord = first.dest ∧
        message.Signed first.id first.session := by
  rw [← connected.dest] at away there ⊢
  obtain ⟨sent, only, told⟩ := EcDe.arrival_reported connected.signs turned away there
  rw [only] at sends
  exact ⟨sent.1, sends, told⟩

/-- A read of the taxi takes nothing from `requests` and puts nothing there. -/
theorem receive_requests {heard : Countdown} (received : countdown.receive = some heard) :
    heard.requests = countdown.requests := by
  unfold receive at received
  split at received
  · split at received
    · cases received
    · cases received
      rfl
  · cases received
    rfl

/-- The taxi has read its waiting time. Where it is zero the taxi makes a move. -/
theorem goes_exchanged (connected : countdown.Connected first place) {heard : Countdown}
    (received : countdown.receive = some heard) (taxi : heard.taxi = countdown.taxi)
    (sensor : heard.sensor = countdown.sensor) (counts : heard.counts = [])
    (answers : heard.answers = []) (rests : countdown.sensor.thread.Rests)
    (waits : 0 < intOf heard.socket.getData → countdown.sensor.thread.round
      countdown.sensor.counter.toInt.toNat < (countdown.stage place).work) :
    countdown.Goes first place (.exchange true)
      ((machine session).offer countdown (.exchange true)) .answer := by
  have steady : countdown.taxi.Steady (.tick (intOf heard.socket.getData) true) := rfl
  obtain ⟨⟨next, acts⟩, turned⟩ :=
    Option.isSome_iff_exists.mp (EcDe.turn_taken connected.underway steady)
  have advances := EcDe.turn_advances connected.underway.inMap
    (EcDe.undirected_of_steady steady) turned
  obtain ⟨moving, told⟩ : ∃ moving, acts.findSome? EcDe.Act.answer? = some moving := by
    cases EcDe.turned_of_turn turned with
    | @ticked message _ _ driven sent => cases sent <;> exact ⟨_, rfl⟩
  have sends : ((heard.turned next acts).answer moving).requests =
      countdown.requests ++ (Network.requestsOf acts).map (·.1) := by
    rw [← receive_requests received]
    rfl
  have stepped : (machine session).step countdown (.exchange true) =
      some ((heard.turned next acts).answer moving) := by
    change step session countdown (.exchange true) = _
    simp only [step, received, taxi, turned, told, Option.bind_eq_bind, Option.bind_some,
      Option.pure_def]
  have written : ((heard.turned next acts).answer moving).answers =
      [(heard.socket.putMoving moving).dataFrame] := by
    simp [answer, Countdown.turned, answers]
  have placed : ((heard.turned next acts).answer moving).Placed .answer :=
    .answer rfl counts written rfl (sensor ▸ rests)
  rw [Machine.offer_of_step stepped]
  refine ⟨⟨sensor ▸ connected.natural, sensor ▸ connected.runs, sensor ▸ connected.stays,
    EcDe.underway_of_turn connected.underway steady turned, (connected.signs.turn turned).1,
    advances.dest.trans connected.dest, placed⟩,
    fun allowed apart _ => ⟨EcDe.still_allowed allowed (by simp) turned, .inl ?_⟩,
    arrives connected turned sends, stays_there connected.underway.inMap advances connected.dest⟩
  · by_cases waiting : 0 < intOf heard.socket.getData
    · refine rank_lt_of_work (advances.toGo.trans ?_) ?_
      · simp [EcDe.Rolls, waiting, stage]
      · simpa [Stage.work, stage, answer, Countdown.turned, sensor] using waits waiting
    · have far : countdown.taxi.toGo ≠ 0 := fun none =>
        apart ((EcDe.toGo_eq_zero_iff connected.underway.inMap).mp none)
      have nearer : next.toGo = countdown.taxi.toGo - 1 := by
        rw [advances.toGo]
        simp [EcDe.Rolls, waiting, allowed]
      refine Prod.Lex.toLex_lt_toLex.mpr (.inl ?_)
      change next.toGo < countdown.taxi.toGo
      omega

/-- The pass before which there is no frame to be read is refused. -/
theorem exchange_refused {again : Bool} (answered : countdown.answered = true)
    (counts : countdown.counts = []) : (machine session).step countdown (.exchange again) = none := by
  change step session countdown (.exchange again) = none
  simp [step, receive, answered, counts]

theorem goes_exchange (connected : countdown.Connected first place) :
    ∃ next, countdown.Goes first place (.exchange true)
      ((machine session).offer countdown (.exchange true)) next := by
  cases connected.placed with
  | fresh unanswered counts answers reading unread =>
      have received : countdown.receive = some countdown := by simp [receive, unanswered]
      refine ⟨_, goes_exchanged connected received rfl rfl counts answers
        (by rw [reading]; trivial) fun waiting => ?_⟩
      rw [unread] at waiting
      exact absurd waiting (by decide)
  | @count frame value answered counts answers carries rests =>
      have received : countdown.receive = some { countdown with
          socket := (countdown.socket.readFrame frame).2
          counts := []
          received :=
            countdown.received ++ [intOf (countdown.socket.readFrame frame).2.getData] } := by
        simp [receive, answered, counts]
      refine ⟨_, goes_exchanged connected received rfl rfl rfl answers rests fun waiting => ?_⟩
      simp only [intOf_readFrame, carries] at waiting
      simp only [Stage.work, stage, if_pos waiting]
      omega
  | answer answered counts =>
      exact ⟨_, goes_of_refused connected (exchange_refused answered counts) id⟩
  | sensor answered counts =>
      exact ⟨_, goes_of_refused connected (exchange_refused answered counts) id⟩

/-- Where the frame is depends on the sensor and the connection only. -/
theorem Placed.kept (placed : countdown.Placed place) (answered : after.answered = countdown.answered)
    (counts : after.counts = countdown.counts) (answers : after.answers = countdown.answers)
    (socket : after.socket = countdown.socket) (sensor : after.sensor = countdown.sensor) :
    after.Placed place := by
  cases placed with
  | fresh first none waits reading unread =>
      exact .fresh (answered.trans first) (counts.trans none) (answers.trans waits)
        (sensor ▸ reading) (socket ▸ unread)
  | count first one waits carries rests =>
      exact .count (answered.trans first) (counts.trans one) (answers.trans waits) carries
        (sensor ▸ rests)
  | answer first none waits carries rests =>
      exact .answer (answered.trans first) (counts.trans none) (answers.trans waits) carries
        (sensor ▸ rests)
  | sensor first none waits works =>
      exact .sensor (answered.trans first) (counts.trans none) (answers.trans waits)
        (sensor ▸ works)

/-- A turn of the taxi in which it makes no pass through the loop of `attend`. -/
theorem goes_turned (connected : countdown.Connected first place) {event : EcDe.Event} {next : EcDe}
    {acts : List EcDe.Act} (unticked : ∀ waitTime again, event ≠ .tick waitTime again)
    (unconnected : event ≠ .connect) (undirected : countdown.taxi.Undirected event)
    (turned : countdown.taxi.turn event = some (next, acts)) (underway : next.Underway) :
    countdown.Goes first place (.taxi event)
      ((machine session).offer countdown (.taxi event)) place := by
  have stepped : (machine session).step countdown (.taxi event) =
      some (countdown.turned next acts) := by
    change step session countdown (.taxi event) = _
    cases event with
    | tick => exact absurd rfl (unticked _ _)
    | connect => exact absurd rfl unconnected
    | _ => simp only [step, turned, Option.bind_eq_bind, Option.bind_some, Option.pure_def]
  have advances := EcDe.turn_advances connected.underway.inMap undirected turned
  have still : decide (countdown.taxi.Rolls event) = false := by
    cases event with
    | tick => exact absurd rfl (unticked _ _)
    | _ => rfl
  rw [still] at advances
  have same : (countdown.turned next acts).stage place = countdown.stage place := by
    simp [stage, Countdown.turned, advances.toGo]
  rw [Machine.offer_of_step stepped]
  refine ⟨⟨connected.natural, connected.runs, connected.stays, underway,
    (connected.signs.turn turned).1, advances.dest.trans connected.dest,
    connected.placed.kept rfl rfl rfl rfl rfl⟩,
    fun allowed _ calm => ⟨EcDe.still_allowed allowed ?_ turned, .inr ⟨same, id⟩⟩,
    arrives connected turned rfl, stays_there connected.underway.inMap advances connected.dest⟩
  rintro message rfl
  rw [EcDe.order?_of_id connected.signs.named]
  exact calm

/-- A steady event of the taxi or a ping leads on. -/
theorem goes_taxi (connected : countdown.Connected first place) {event : EcDe.Event}
    (allows : Allows first (.taxi event)) :
    countdown.Goes first place (.taxi event)
      ((machine session).offer countdown (.taxi event)) place := by
  rcases allows with steady | rfl
  · have steady := EcDe.steady_of_id connected.signs.named steady
    cases event with
    | tick => exact goes_of_refused connected rfl id
    | consume message =>
        obtain ⟨⟨next, acts⟩, turned⟩ :=
          Option.isSome_iff_exists.mp (EcDe.turn_taken connected.underway steady)
        exact goes_turned connected (by simp) (by simp) (EcDe.undirected_of_steady steady) turned
          (EcDe.underway_of_turn connected.underway steady turned)
    | _ => exact steady.elim
  · have turned : countdown.taxi.turn .ping =
        some (countdown.taxi, [.produce (countdown.taxi.message .taxiPing)]) := by
      simp [EcDe.turn, connected.underway.running]
    exact goes_turned connected (by simp) (by simp) trivial turned connected.underway

/-- What Central or another component does leads on. -/
theorem goes_served (connected : countdown.Connected first place)
    (idle : ∀ stage, ¬ Helps stage event)
    (served : ∀ next, step session countdown event = some next →
      ∃ central requests, next = { countdown with central := central, requests := requests }) :
    countdown.Goes first place event ((machine session).offer countdown event) place := by
  cases stepped : (machine session).step countdown event with
  | none => exact goes_of_refused connected stepped (idle _)
  | some next =>
      obtain ⟨central, requests, rfl⟩ := served next stepped
      rw [Machine.offer_of_step stepped]
      exact goes_of_kept rfl ⟨connected.natural, connected.runs, connected.stays,
        connected.underway, connected.signs, connected.dest,
        connected.placed.kept rfl rfl rfl rfl rfl⟩ fun _ => .inr ⟨rfl, idle _⟩

/-- What may happen leads somewhere. -/
theorem goes (connected : countdown.Connected first place) (allows : Allows first event) :
    ∃ next, countdown.Goes first place event ((machine session).offer countdown event) next := by
  cases event with
  | hear => exact goes_hear connected
  | sensor event =>
      cases event with
      | work => exact goes_work connected
      | press key => exact goes_press connected allows.1 allows.2
      | choose => exact goes_choose connected
      | read | fail => exact allows.elim
  | exchange again =>
      obtain rfl : again = true := allows
      exact goes_exchange connected
  | taxi event => exact ⟨place, goes_taxi connected allows⟩
  | post | register | request =>
      refine ⟨place, goes_served connected (fun _ => id) fun next stepped => ?_⟩
      cases stepped_of_step stepped
      exact ⟨_, _, rfl⟩

/-! ### The way to the destination -/

/-- When the taxi accepts the connection it has not written a frame. -/
theorem connected_of_connect {taxi : EcDe} {requests : List Message} {central : System}
    {start : Countdown} (accepted : connect taxi requests central = some start)
    (listens : taxi.listening = true) (running : taxi.stop = false) (inMap : taxi.InMap) :
    start.Connected taxi .fresh := by
  obtain ⟨⟨next, acts⟩, turned, same⟩ := Option.bind_eq_some_iff.mp accepted
  cases same
  cases EcDe.turned_of_turn turned
  refine ⟨EcSe.start_natural, rfl, by simp [EcSe.start], ⟨⟨_, rfl⟩, listens, running,
    inMap.inGrid, inMap.destInGrid⟩, ⟨rfl, rfl, ?_⟩, rfl, .fresh rfl rfl rfl rfl intOf_new⟩
  rintro message ⟨⟩
  exact ⟨rfl, rfl⟩

/-- The sensor works and hears the taxi, and the taxi reads what the sensor counts, again and again;
and nothing else happens than what may. -/
structure Fair (first : EcDe) (schedule : Nat → Event) : Prop where
  allows : ∀ time, Allows first (schedule time)
  works : Recurs schedule fun event => event = .sensor .work
  hears : Recurs schedule fun event => event = .hear
  exchanges : Recurs schedule fun event => ∃ again, event = .exchange again

variable {schedule : Nat → Event} {start : Countdown}

/-- What helps at a stage happens again and again. -/
theorem Fair.helps (fair : Fair first schedule) (stage : Stage) : Recurs schedule (Helps stage) := by
  obtain ⟨toGo, place, thread, counter⟩ := stage
  intro time
  cases place with
  | fresh | count =>
      obtain ⟨later, passed, again, scheduled⟩ := fair.exchanges time
      exact ⟨later, passed, by rw [scheduled]; trivial⟩
  | sensor =>
      obtain ⟨later, passed, scheduled⟩ := fair.works time
      exact ⟨later, passed, by rw [scheduled]; trivial⟩
  | answer =>
      by_cases reading : thread = .reading
      · obtain ⟨later, passed, scheduled⟩ := fair.hears time
        exact ⟨later, passed, by rw [scheduled]; exact reading⟩
      · obtain ⟨later, passed, scheduled⟩ := fair.works time
        exact ⟨later, passed, by rw [scheduled]; exact reading⟩

/-- The taxi may go on and is not there yet, and the frame is somewhere. -/
structure At (first : EcDe) (stage : Stage) (countdown : Countdown) : Prop where
  connected : ∃ place, countdown.Connected first place ∧ countdown.stage place = stage
  allowed : countdown.taxi.orderedToStop = false
  apart : countdown.taxi.pos ≠ first.dest

/-- What happens when nothing is set and nobody is stopped takes nothing back. -/
theorem progresses (allows : Allows first event) (calm : Calm first event) :
    (machine session).Progresses (At first) (fun countdown => countdown.taxi.pos = first.dest)
      Stage.rank Helps countdown event := by
  rintro stage ⟨⟨place, connected, rfl⟩, allowed, apart⟩
  obtain ⟨next, goes⟩ := @goes countdown first place event session connected allows
  by_cases there : ((machine session).offer countdown event).taxi.pos = first.dest
  · exact .inl there
  · obtain ⟨still, later⟩ := goes.later allowed (connected.dest ▸ apart) calm
    exact .inr ⟨_, ⟨⟨next, goes.connected, rfl⟩, still, there⟩, later⟩

/-- The connection is there all the time. -/
theorem connected_always (fair : Fair first schedule) (connected : start.Connected first .fresh)
    (time : Nat) :
    ∃ place, ((machine session).under schedule start time).Connected first place := by
  refine @Machine.under_always _ _ _ schedule start
    (fun countdown => ∃ place, countdown.Connected first place) (fun time countdown here => ?_)
    ⟨_, connected⟩ time
  obtain ⟨place, here⟩ := here
  obtain ⟨next, goes⟩ := goes here (fair.allows time)
  exact ⟨next, goes.connected⟩

/-- Where the taxi has arrived it remains. -/
theorem remains (fair : Fair first schedule) (connected : start.Connected first .fresh)
    {time later : Nat} (passed : time ≤ later)
    (there : ((machine session).under schedule start time).taxi.pos = first.dest) :
    ((machine session).under schedule start later).taxi.pos = first.dest := by
  induction later, passed using Nat.le_induction with
  | base => exact there
  | succ later passed inductionHypothesis =>
      obtain ⟨place, here⟩ := @connected_always first session schedule start fair connected later
      obtain ⟨next, goes⟩ := goes here (fair.allows later)
      exact goes.stays inductionHypothesis

/-- At some time the taxi may go on, and from then on the operator does not set the counter and the
taxi is not ordered to stop. -/
def CalmsDown (session : Uuid) (first : EcDe) (schedule : Nat → Event) (start : Countdown) : Prop :=
  ∃ time, ((machine session).under schedule start time).taxi.orderedToStop = false ∧
    ∀ later, time ≤ later → Calm first (schedule later)

/-- Under a fair schedule which calms down the taxi arrives at some time. -/
theorem arrived_of_fair (fair : Fair first schedule) (connected : start.Connected first .fresh)
    (calmsDown : CalmsDown session first schedule start) :
    ∃ due, ((machine session).under schedule start due).taxi.pos = first.dest := by
  obtain ⟨time, allowed, calm⟩ := calmsDown
  obtain ⟨place, here⟩ := @connected_always first session schedule start fair connected time
  by_cases there : ((machine session).under schedule start time).taxi.pos = first.dest
  · exact ⟨time, there⟩
  · have progress (later : Nat) :=
      @progresses ((machine session).under (fun later => schedule (time + later))
        ((machine session).under schedule start time) later) first (schedule (time + later)) session
        (fair.allows _) (calm _ (Nat.le_add_right _ _))
    obtain ⟨due, arrived⟩ := @Machine.goal_reached _ _ (machine session) _ _ _ (At first)
      (fun countdown => countdown.taxi.pos = first.dest) Stage.rank Helps _ _ _ progress
      (fun stage => (fair.helps stage).later time) _ 0 ⟨⟨place, here, rfl⟩, allowed, there⟩
    refine ⟨time + due, ?_⟩
    rw [Machine.under_add]
    exact arrived

end Countdown

/-! ### An arrival in the town -/

namespace Town

/-- The taxi, the sensor and its answers have their turns one after the other. Early on the operator
selects a minor inconvenience. -/
def interrupted (time : Nat) : Countdown.Event :=
  if time = 10 then .sensor (.press (.choose .minorInconvenience))
  else if time = 11 then .sensor .choose
  else
    match time % 3 with
    | 0 => .exchange true
    | 1 => .hear
    | _ => .sensor .work

theorem interrupted_fair : Countdown.Fair driver interrupted where
  allows := by
    intro time
    unfold interrupted
    split
    · exact ⟨by simp, by simp⟩
    · split
      · trivial
      · split
        · rfl
        · trivial
        · trivial
  works := fun time => ⟨3 * (time + 4) + 2, by omega, by
    have late : 3 * (time + 4) + 2 ≠ 10 ∧ 3 * (time + 4) + 2 ≠ 11 := by omega
    rw [interrupted, if_neg late.1, if_neg late.2]
    simp [Nat.add_mod]⟩
  hears := fun time => ⟨3 * (time + 4) + 1, by omega, by
    have late : 3 * (time + 4) + 1 ≠ 10 ∧ 3 * (time + 4) + 1 ≠ 11 := by omega
    rw [interrupted, if_neg late.1, if_neg late.2]
    simp [Nat.add_mod]⟩
  exchanges := fun time => ⟨3 * (time + 4), by omega, true, by
    have late : 3 * (time + 4) ≠ 10 ∧ 3 * (time + 4) ≠ 11 := by omega
    rw [interrupted, if_neg late.1, if_neg late.2]
    simp⟩

end Town

/-- A taxi which is at one square of the map and is to go to another one, and which attends a sensor,
gets to its destination with some step and then stays there, and with that step it tells Central so,
if there is a time at which it is not ordered to stop and from which on the operator of the sensor
does not set the counter and the taxi is not ordered to stop. -/
theorem sensed_taxi_arrives (session : Uuid) (taxi : EcDe) (requests : List Message)
    (central : System) (start : Countdown) (schedule : Nat → Countdown.Event)
    (accepted : Countdown.connect taxi requests central = some start)
    (listens : taxi.listening = true) (running : taxi.stop = false) (inGrid : taxi.pos.InGrid)
    (destInGrid : taxi.dest.InGrid) (apart : taxi.pos ≠ taxi.dest)
    (fair : Countdown.Fair taxi schedule)
    (calmsDown : Countdown.CalmsDown session taxi schedule start) :
    ∃ due,
      (∀ time, due < time ↔
        ((Countdown.machine session).under schedule start time).taxi.pos = taxi.dest) ∧
      ∃ message, ((Countdown.machine session).under schedule start (due + 1)).requests =
          ((Countdown.machine session).under schedule start due).requests ++ [message] ∧
        message.subject = .request .taxiDestinationReached ∧ message.coord = taxi.dest ∧
          message.Signed taxi.id taxi.session := by
  have connected := Countdown.connected_of_connect accepted listens running ⟨inGrid, destInGrid⟩
  have away : ¬ start.taxi.pos = taxi.dest := by
    obtain ⟨⟨next, acts⟩, turned, same⟩ := Option.bind_eq_some_iff.mp accepted
    cases same
    cases EcDe.turned_of_turn turned
    exact apart
  obtain ⟨_, arrived⟩ := Countdown.arrived_of_fair fair connected calmsDown
  obtain ⟨due, still, there⟩ := @Machine.begins_to_hold _ _ (Countdown.machine session) schedule
    start (fun countdown => countdown.taxi.pos = taxi.dest) away _ arrived
  refine ⟨due, fun time => ⟨fun passed => Countdown.remains fair connected passed there,
    fun here => ?_⟩, ?_⟩
  · by_contra early
    exact still (Countdown.remains fair connected (Nat.le_of_not_lt early) here)
  · obtain ⟨place, before⟩ :=
      @Countdown.connected_always taxi session schedule start fair connected due
    obtain ⟨next, goes⟩ := Countdown.goes before (fair.allows due)
    exact goes.reports still there

/-- The taxi gets to (3, 4), although it had to wait on its way. -/
theorem sensed_taxi_arrives_interrupted :
    ∃ start, Countdown.connect Town.driver [] Town.attended = some start ∧
      ∃ due,
        (∀ time, due < time ↔ ((Countdown.machine Town.session).under Town.interrupted start
          time).taxi.pos = ⟨3, 4⟩) ∧
        ∃ message, ((Countdown.machine Town.session).under Town.interrupted start
              (due + 1)).requests =
            ((Countdown.machine Town.session).under Town.interrupted start due).requests ++
              [message] ∧
          message.subject = .request .taxiDestinationReached ∧ message.coord = ⟨3, 4⟩ ∧
            message.Signed 1 Town.session := by
  have found : (Countdown.connect Town.driver [] Town.attended).any (fun start =>
      !((Countdown.machine Town.session).under Town.interrupted start 12).taxi.orderedToStop) =
        true := by
    decide +kernel
  obtain ⟨start, accepted, allowed⟩ := (Option.any_eq_true _ _).mp found
  have calmsDown : Countdown.CalmsDown Town.session Town.driver Town.interrupted start := by
    refine ⟨12, by simpa using allowed, fun later passed => ?_⟩
    have late : later ≠ 10 ∧ later ≠ 11 := by omega
    simp only [Town.interrupted, if_neg late.1, if_neg late.2]
    split <;> trivial
  exact ⟨start, accepted, sensed_taxi_arrives Town.session Town.driver [] Town.attended start
    Town.interrupted accepted rfl rfl (by decide) (by decide) (by decide) Town.interrupted_fair
    calmsDown⟩

end EasyCab
