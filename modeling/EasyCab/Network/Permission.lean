import EasyCab.De.LatestOrder
import EasyCab.De.Turns
import EasyCab.Network.Countdown
import EasyCab.Network.Handshake

/-!
# The permission of the sensor

A taxi over any number of connections of its sensor. `attend` decodes a waiting time before it has
read anything from a new connection, and decodes zeros where a control character was read last, so
these passes drive the taxi although the sensor has allowed nothing. On every other pass the taxi is
driven only if the data which were received last say that it need not wait.
-/

namespace EasyCab

open Library

/-- The taxi, the socket of `attend`, and what was received on its connection since the last call of
`step`, oldest first, for the statements only. -/
structure SensedTaxi where
  taxi : EcDe
  socket : SocketHandler
  received : List Content

namespace EcDe

/-- A pass through the loop of `attend` with this waiting time calls `step`. -/
def CallsStep (taxi : EcDe) (waitTime : Int32) : Prop :=
  ¬ 0 < waitTime ∧ taxi.pos ≠ taxi.dest ∧ ¬ taxi.orderedToStop

instance (taxi : EcDe) (waitTime : Int32) : Decidable (taxi.CallsStep waitTime) := by
  unfold CallsStep
  infer_instance

/-- A pass moves the taxi only if it calls `step`, and as `step` does. -/
theorem drive_step {taxi driven : EcDe} {message : FullMessage} {waitTime : Int32}
    {sent : Option FullMessage} (drove : taxi.drive message waitTime = some (driven, sent)) :
    if taxi.CallsStep waitTime then taxi.step = some driven else driven = taxi := by
  unfold drive at drove
  by_cases waits : 0 < waitTime
  · simp only [if_pos waits, Option.some.injEq, Prod.mk.injEq] at drove
    rw [if_neg fun calls => calls.1 waits, drove.1]
  · rw [if_neg waits] at drove
    by_cases free : taxi.pos ≠ taxi.dest ∧ ¬ taxi.orderedToStop
    · rw [if_pos free] at drove
      obtain ⟨moved, stepped, same⟩ := Option.map_eq_some_iff.mp drove
      cases same
      rw [if_pos ⟨waits, free⟩, stepped]
    · simp only [if_neg free, Option.some.injEq, Prod.mk.injEq] at drove
      rw [if_neg fun calls => free calls.2, drove.1]

/-- Only an attended taxi ticks. -/
theorem attending_of_tick {taxi next : EcDe} {waitTime : Int32} {again : Bool} {acts : List Act}
    (turned : taxi.turn (.tick waitTime again) = some (next, acts)) :
    ∃ message, taxi.sensor = .attending message := by
  cases turned_of_turn turned with
  | ticked attending _ => exact ⟨_, attending⟩

end EcDe

namespace SensedTaxi

/-- What a call of `read` on the connection answers. -/
inductive Reply where
  | frame (frame : Frame)
  | failed (wouldBlock : Bool)

/-- What `read` answers. -/
def Reply.incoming : Reply → Incoming
  | .frame sent => sent.incoming
  | .failed wouldBlock => .failed wouldBlock

/-- What is received. -/
def Reply.content? : Reply → Option Content
  | .frame sent => some sent.content
  | .failed _ => none

/-- What can happen next. -/
inductive Event where
  /-- A sensor connects. -/
  | connect
  /-- One pass through the loop of `attend`: whether its answer can be written, and what is read
  then. -/
  | pass (written : Bool) (reply : Reply)
  /-- Something else happens to the taxi. -/
  | taxi (event : EcDe.Event)

/-- The waiting time which `attend` decodes. -/
def waitTime (sensed : SensedTaxi) : Int32 := intOf sensed.socket.getData

/-- One pass through the loop of `attend`. The answer is written to another array than the one
which is read, so it has no part in what the read returns. -/
def pass (sensed : SensedTaxi) (written : Bool) (reply : Reply) : Option SensedTaxi := do
  let reads := written && !sensed.taxi.stop
  let (returned, _) := sensed.socket.readFromSocket reply.incoming
  let (taxi, acts) ← sensed.taxi.turn (.tick sensed.waitTime (reads && returned))
  let moving ← acts.findSome? EcDe.Act.answer?
  let answered := (sensed.socket.putMoving moving).writeToSocket
  let since := if sensed.taxi.CallsStep sensed.waitTime then [] else sensed.received
  if reads then
    return ⟨taxi, (answered.readFromSocket reply.incoming).2, since ++ reply.content?.toList⟩
  else return ⟨taxi, answered, since⟩

/-- One step. -/
def step (sensed : SensedTaxi) : Event → Option SensedTaxi
  | .connect => do
      let (taxi, _) ← sensed.taxi.turn .connect
      return ⟨taxi, .new, []⟩
  | .pass written reply => sensed.pass written reply
  | .taxi event =>
      match event with
      | .tick .. => none
      | .connect => none
      | event => do
          let (taxi, _) ← sensed.taxi.turn event
          return { sensed with taxi := taxi }

/-- The taxi with its sensors as a machine. -/
def machine : Machine SensedTaxi Event := ⟨step⟩

/-- After `authenticate`. -/
def start (id : TaxiId) (session : Uuid) : SensedTaxi := ⟨.start id session, .new, []⟩

variable {sensed next : SensedTaxi} {written : Bool} {reply : Reply}

/-- Without data in the socket a waiting time of zero is decoded. -/
theorem waitTime_of_no_data (empty : sensed.socket.hasData = false) : sensed.waitTime = 0 := by
  have zeros : intOf (Sized.fill bufferSize 0) = 0 := by decide
  simp [waitTime, SocketHandler.getData, empty, zeros]

/-- A pass is a tick of the taxi. When it is attended again afterwards, a frame was read. -/
theorem passed_of_pass (passed : sensed.pass written reply = some next) :
    ∃ again acts, sensed.taxi.turn (.tick sensed.waitTime again) = some (next.taxi, acts) ∧
      (again = true → ∃ frame answered since, reply = .frame frame ∧
        next.socket = (SocketHandler.readFrame answered frame).2 ∧
        next.received = since ++ [frame.content]) := by
  simp only [pass, Option.bind_eq_bind, Option.bind_eq_some_iff] at passed
  obtain ⟨⟨taxi, acts⟩, turned, moving, _, rest⟩ := passed
  refine ⟨written && !sensed.taxi.stop && (sensed.socket.readFromSocket reply.incoming).1, acts, ?_,
    fun again => ?_⟩
  · rw [turned]
    split at rest <;> cases rest <;> rfl
  · simp only [Bool.and_eq_true] at again
    obtain ⟨⟨wrote, runs⟩, returned⟩ := again
    rw [if_pos (by simp [wrote, runs])] at rest
    cases rest
    cases reply with
    | failed wouldBlock =>
        cases wouldBlock <;>
          simp [Reply.incoming, SocketHandler.readFromSocket,
            SocketHandler.readFromSocketInternal] at returned
    | frame sent => exact ⟨sent, _, _, rfl, rfl, rfl⟩

/-- While a sensor is attended, the socket has data exactly if data were received last, and then
these. -/
def Mirrors (sensed : SensedTaxi) : Prop :=
  ∀ message, sensed.taxi.sensor = .attending message →
    ∀ payload, sensed.received.getLast? = some (.data payload) ↔
      sensed.socket.hasData = true ∧ sensed.socket.getData = payload

end SensedTaxi

/-- A step of the machine. -/
abbrev SensedStep := Transition SensedTaxi SensedTaxi.Event

namespace SensedStep

/-- If `step` is called, data were received for it, on the current connection and since it was
called last, and their waiting time is not positive. -/
def Permitted (taken : SensedStep) : Prop :=
  match taken.event with
  | .pass _ _ => taken.before.taxi.CallsStep taken.before.waitTime →
      ∃ payload, taken.before.received.getLast? = some (.data payload) ∧ ¬ 0 < intOf payload
  | _ => True

/-- A pass finds data in the socket, or has nowhere to go. -/
def Grounded (taken : SensedStep) : Prop :=
  match taken.event with
  | .pass _ _ => taken.before.socket.hasData = true ∨
      taken.before.taxi.pos = taken.before.taxi.dest ∨ taken.before.taxi.orderedToStop = true
  | _ => True

variable {taken : SensedStep}

/-- Under the invariant, exactly the passes which have ground are permitted. -/
theorem permitted_iff (mirrors : taken.before.Mirrors)
    (stepped : SensedTaxi.machine.step taken.before taken.event = some taken.after) :
    Permitted taken ↔ Grounded taken := by
  obtain ⟨before, event, after⟩ := taken
  cases event with
  | connect | taxi => exact Iff.rfl
  | pass written reply =>
      simp only [Permitted, Grounded]
      obtain ⟨again, acts, turned, _⟩ := SensedTaxi.passed_of_pass stepped
      obtain ⟨message, attending⟩ := EcDe.attending_of_tick turned
      have held := mirrors message attending
      constructor
      · intro permitted
        by_cases calls : before.taxi.CallsStep before.waitTime
        · obtain ⟨payload, last, _⟩ := permitted calls
          exact .inl ((held payload).mp last).1
        · by_contra groundless
          simp only [not_or, Bool.not_eq_true] at groundless
          obtain ⟨empty, apart, free⟩ := groundless
          refine calls ⟨?_, apart, by simp [free]⟩
          rw [SensedTaxi.waitTime_of_no_data empty]
          decide
      · rintro grounded ⟨still, apart, free⟩
        rcases grounded with data | there | stopped
        · exact ⟨before.socket.getData, (held _).mpr ⟨data, rfl⟩, still⟩
        · exact absurd there apart
        · exact absurd stopped free

/-- Every step keeps the invariant. -/
theorem mirrors_preserved (mirrors : taken.before.Mirrors)
    (stepped : SensedTaxi.machine.step taken.before taken.event = some taken.after) :
    taken.after.Mirrors := by
  obtain ⟨before, event, after⟩ := taken
  intro message attending payload
  cases event with
  | connect =>
      obtain ⟨⟨taxi, acts⟩, _, same⟩ := Option.bind_eq_some_iff.mp stepped
      cases same
      have empty : SocketHandler.new.hasData = false := by decide
      simp [empty]
  | pass written reply =>
      obtain ⟨again, acts, turned, read⟩ := SensedTaxi.passed_of_pass stepped
      cases again with
      | false =>
          generalize after.taxi = left at turned attending
          cases EcDe.turned_of_turn turned with
          | ticked _ _ => cases attending
      | true =>
          obtain ⟨frame, answered, since, _, socket, received⟩ := read rfl
          rw [received, socket, List.getLast?_concat, Option.some.injEq]
          cases content : frame.content with
          | data sent =>
              obtain ⟨has, _, got⟩ := @SocketHandler.readFrame_of_data answered frame sent content
              rw [has, got]
              simp
          | control char =>
              obtain ⟨none, _⟩ := @SocketHandler.readFrame_of_control answered frame char content
              simp [none]
  | taxi event =>
      simp only [SensedTaxi.machine, SensedTaxi.step] at stepped
      split at stepped
      · cases stepped
      · cases stepped
      · next unticked unconnected =>
        obtain ⟨⟨taxi, acts⟩, turned, same⟩ := Option.bind_eq_some_iff.mp stepped
        cases same
        suffices attended : before.taxi.sensor = .attending message from
          mirrors message attended payload
        cases EcDe.turned_of_turn turned with
        | ticked => exact absurd rfl (unticked _ _)
        | connected => exact absurd rfl unconnected
        | unheard | pinged | quit => exact attending
        | heard ordered obeyed => cases obeyed <;> exact attending
        | ended | accepting | left => cases attending

end SensedStep

/-- In a run over any sensor connections and received frames, every call of `step` has the
permission of the sensor exactly if every pass of `attend` finds data in its socket, or has nowhere
to go. -/
theorem steps_permitted_iff (id : TaxiId) (session : Uuid) (events : List SensedTaxi.Event) :
    (∀ taken ∈ SensedTaxi.machine.run (.start id session) events, SensedStep.Permitted taken) ↔
      ∀ taken ∈ SensedTaxi.machine.run (.start id session) events, SensedStep.Grounded taken := by
  apply Machine.run_exactly SensedTaxi.Mirrors
  · intro taken stepped mirrors
    exact SensedStep.permitted_iff mirrors stepped
  · intro taken stepped _ mirrors
    exact SensedStep.mirrors_preserved mirrors stepped
  · intro message attending
    cases attending

/-- Taxi 1 is sent away, and a sensor connects which sends nothing. -/
def silentSensor : List SensedTaxi.Event :=
  [.taxi (Journey.order ⟨3, 3⟩), .taxi .check, .connect, .pass true (.failed true)]

/-- The step calls `step` although nothing was received for it. -/
def SensedStep.Unheard (taken : SensedStep) : Prop :=
  match taken.event with
  | .pass _ _ => taken.before.taxi.CallsStep taken.before.waitTime ∧ taken.before.received = []
  | _ => False

instance (taken : SensedStep) : Decidable taken.Unheard := by
  unfold SensedStep.Unheard
  split <;> infer_instance

/-- The taxi moves before its sensor has sent anything. -/
theorem step_before_first_frame :
    ¬ ∀ taken ∈ SensedTaxi.machine.run (.start 1 Journey.session) silentSensor,
      SensedStep.Permitted taken := by
  intro claimed
  obtain ⟨taken, member, unheard⟩ :
      ∃ taken ∈ SensedTaxi.machine.run (.start 1 Journey.session) silentSensor,
        SensedStep.Unheard taken := by
    decide +kernel
  have permitted := claimed taken member
  unfold SensedStep.Unheard at unheard
  unfold SensedStep.Permitted at permitted
  split at unheard
  · next passes =>
    rw [passes] at permitted
    obtain ⟨payload, received, _⟩ := permitted unheard.1
    rw [unheard.2] at received
    cases received
  · exact unheard

end EasyCab
