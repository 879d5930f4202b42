import EasyCab.Central.System
import EasyCab.Central.TripSteps

/-!
# Steps and observers of a trace of Central

`CentralStep.Travels` is a step of Central as the trips see it. The observers say
what the trace tells about taxis and customers: which assignments of a taxi are
still open, where a taxi was last sent, which location a customer asked for last,
and whether a request of a customer is still pending. None of them looks at the
database.
-/

namespace EasyCab

open Library

namespace CentralStep

/-- A step in which every query succeeds, as the trips and the trace see it. -/
inductive Travels (session : Uuid) (taken : CentralStep) : Prop where
  /-- Nothing moves. -/
  | still (added : List Act) (unasked : taken.request? session = none)
      (trips : taken.after.db.trips = taken.before.db.trips)
      (trace : taken.after.trace = added ++ taken.before.trace)
      (quiet : ∀ act ∈ added, act.Quiet) (event : ∀ joined ∈ taken.added?, joined.2 = true)
  /-- A taxi gets its row. -/
  | registered (taxiId : TaxiId) (added : List Act) (unasked : taken.request? session = none)
      (trips : taken.after.db.trips = taken.before.db.trips.register taxiId)
      (free : taken.before.db.trips.taxiAt taxiId = none)
      (trace : taken.after.trace = added ++ taken.before.trace)
      (quiet : ∀ act ∈ added, act.Quiet) (event : taken.added? = some (taxiId, false))
  /-- A request is handled. -/
  | treated (message : Message) (subject : SubjRequest) (acts : List Act) (maps : List Map)
      (asked : taken.request? session = some (message, subject))
      (step : TripStep taken.before.db.trips message subject taken.after.db.trips acts)
      (due : ∀ taxi customer, .assign taxi customer ∈ acts →
        KafkaServer.assignment? taken.before.db.toTables message subject = some (taxi, customer))
      (trace : taken.after.trace = maps.map .publishMap ++
        (acts.reverse ++ .handled message :: taken.before.trace))

/-- Every step of the machine in which every query succeeds travels. -/
theorem travels_of_step {session : Uuid} {taken : CentralStep}
    (stepped : (System.machine session).step taken.before taken.event = some taken.after)
    (succeeds : taken.Succeeds) : Travels session taken := by
  cases taken_of_step stepped succeeds with
  | added now taxiId reconnect unasked tables response trace event =>
      cases reconnect with
      | true =>
          simp only [AuthServer.addedTables, if_true, Option.some.injEq] at tables
          have trips : (taken.before.db.setConnected now taxiId true).trips =
              taken.before.db.trips := Tables.trips_setConnected taxiId true
          rw [tables] at trips
          exact .still [_] unasked trips trace (by simp [Act.Quiet]) (by simp [event])
      | false =>
          simp only [AuthServer.addedTables, Bool.false_eq_true, if_false] at tables
          obtain ⟨trips, free⟩ := Tables.trips_insertTaxi tables
          exact .registered taxiId [_] unasked trips free trace (by simp [Act.Quiet]) event
  | dropped unasked unchanged event =>
      exact .still [] unasked (by rw [unchanged]) (by rw [unchanged, List.nil_append]) (by simp)
        (by simp [event])
  | treated now message subject outages handled acts maps asked treats db response trace =>
      have step := treats.tripStep (subject_of_asked asked)
      rw [← db] at step
      exact .treated message subject acts maps.reverse asked step
        (fun _ _ assigned => treats.due_of_assign assigned) trace

end CentralStep

namespace Trace

/-- The customers to whom `taxi` was assigned and whose service has not ended, unless the
taxi was disconnected or redirected since. -/
def busyNote (taxi : TaxiId) : Act → List Id → List Id
  | .assign other customer, busy => if other = taxi then customer :: busy else busy
  | .produce message, busy =>
      if message.endsService then busy.filter fun customer => customer ≠ message.id else busy
  | .handled request, busy => if request.freesTaxi ∧ request.taxiId = taxi then [] else busy
  | _, busy => busy

/-- See `busyNote`. -/
def busyWith (taxi : TaxiId) (trace : List Act) : List Id := observe (busyNote taxi) [] trace

/-- Where a taxi was last sent. -/
def goToNote (taxi : TaxiId) : Act → Option Coordinate → Option Coordinate
  | .produce message, last =>
      if message.subject = .response .taxiGoTo ∧ message.taxiId = taxi then some message.coord
      else last
  | _, last => last

/-- The coordinate of the last `TAXI_GO_TO` produced for a taxi. -/
def lastGoTo (taxi : TaxiId) (trace : List Act) : Option Coordinate :=
  observe (goToNote taxi) none trace

/-- Which location a customer asked for. -/
def requestNote (customer : Id) : Act → Option Id → Option Id
  | .handled request, last =>
      if request.subject = .request .customerServiceRequest ∧ request.id = customer then
        some request.charFromData
      else last
  | _, last => last

/-- The location named in the latest service request of a customer. -/
def lastRequested (customer : Id) (trace : List Act) : Option Id :=
  observe (requestNote customer) none trace

/-- Whether a service request of a customer waits for its service to end. -/
def pendingNote (customer : Id) : Act → Bool → Bool
  | .handled request, pending =>
      pending || (request.subject = .request .customerServiceRequest && request.id = customer)
  | .produce message, pending => pending && !(message.endsService && message.id = customer)
  | _, pending => pending

/-- See `pendingNote`. -/
def pending (customer : Id) (trace : List Act) : Bool := observe (pendingNote customer) false trace

section Maps

/-! ### Published maps are not observed -/

variable (taxi : TaxiId) (customer : Id) (maps : List Map) (trace : List Act)

@[simp] theorem busyWith_publishMap :
    busyWith taxi (maps.map .publishMap ++ trace) = busyWith taxi trace := by
  apply observe_append_ignored
  simp [busyNote]

@[simp] theorem lastGoTo_publishMap :
    lastGoTo taxi (maps.map .publishMap ++ trace) = lastGoTo taxi trace := by
  apply observe_append_ignored
  simp [goToNote]

@[simp] theorem lastRequested_publishMap :
    lastRequested customer (maps.map .publishMap ++ trace) = lastRequested customer trace := by
  apply observe_append_ignored
  simp [requestNote]

end Maps

section Entries

/-! ### One entry -/

variable {taxi other : TaxiId} {customer : Id} {message : Message} {trace : List Act}

@[simp] theorem busyWith_announce :
    busyWith taxi (.announce message :: trace) = busyWith taxi trace := rfl

theorem busyWith_assign : busyWith taxi (.assign other customer :: trace) =
    if other = taxi then customer :: busyWith taxi trace else busyWith taxi trace := rfl

theorem busyWith_handled : busyWith taxi (.handled message :: trace) =
    if message.freesTaxi ∧ message.taxiId = taxi then [] else busyWith taxi trace := rfl

/-- Entering a request opens no assignment. -/
theorem busyWith_handled_subset :
    busyWith taxi (.handled message :: trace) ⊆ busyWith taxi trace := by
  rw [busyWith_handled]
  split
  · exact List.nil_subset _
  · exact List.Subset.refl _

theorem busyWith_produce : busyWith taxi (.produce message :: trace) =
    if message.endsService then
      (busyWith taxi trace).filter fun customer => customer ≠ message.id
    else busyWith taxi trace := rfl

/-- Quiet acts are not observed. -/
theorem busyWith_quiet {acts : List Act} (quiet : ∀ act ∈ acts, act.Quiet) :
    busyWith taxi (acts ++ trace) = busyWith taxi trace := by
  refine observe_append_ignored fun act member before => ?_
  have calm := quiet act member
  cases act <;> simp_all [Act.Quiet, Message.Quiet, busyNote]

/-- Quiet acts send no taxi anywhere. -/
theorem lastGoTo_quiet {acts : List Act} (quiet : ∀ act ∈ acts, act.Quiet) :
    lastGoTo taxi (acts ++ trace) = lastGoTo taxi trace := by
  refine observe_append_ignored fun act member before => ?_
  have calm := quiet act member
  cases act <;> simp_all [Act.Quiet, Message.Quiet, goToNote]

/-- Quiet acts ask for nothing. -/
theorem lastRequested_quiet {acts : List Act} (quiet : ∀ act ∈ acts, act.Quiet) :
    lastRequested customer (acts ++ trace) = lastRequested customer trace := by
  refine observe_append_ignored fun act member before => ?_
  have calm := quiet act member
  cases act <;> first | rfl | exact absurd calm id

@[simp] theorem lastGoTo_handled :
    lastGoTo taxi (.handled message :: trace) = lastGoTo taxi trace := rfl

theorem lastRequested_handled : lastRequested customer (.handled message :: trace) =
    if message.subject = .request .customerServiceRequest ∧ message.id = customer then
      some message.charFromData
    else lastRequested customer trace := rfl

/-- The end of a service closes the assignments for its customer. -/
theorem busyWith_ended (ends : message.endsService) :
    busyWith taxi (.produce message :: trace) =
      (busyWith taxi trace).filter fun customer => customer ≠ message.id := by
  rw [busyWith_produce, if_pos ends]

/-- The end of a service sends no taxi anywhere. -/
theorem lastGoTo_ended (ends : message.endsService) :
    lastGoTo taxi (.produce message :: trace) = lastGoTo taxi trace := by
  have elsewhere : message.subject ≠ .response .taxiGoTo := by
    intro sent
    simp [Message.endsService, sent] at ends
  simp [lastGoTo, goToNote, elsewhere]

/-- Sending a taxi ends no service. -/
theorem busyWith_goTo (sent : message.subject = .response .taxiGoTo) :
    busyWith taxi (.produce message :: trace) = busyWith taxi trace := by
  rw [busyWith_produce, if_neg]
  simp [Message.endsService, sent]

/-- A taxi was last sent where it is sent now. -/
theorem lastGoTo_goTo (sent : message.subject = .response .taxiGoTo) :
    lastGoTo taxi (.produce message :: trace) =
      if message.taxiId = taxi then some message.coord else lastGoTo taxi trace := by
  simp [lastGoTo, goToNote, sent]

end Entries

section Dispatch

variable {taxi : TaxiId} {customer : Id} {coord : Coordinate} {acts trace : List Act}

/-- After a dispatch its taxi is busy with its customer as well. -/
theorem busyWith_dispatch (dispatch : Dispatch taxi customer coord acts) (other : TaxiId) :
    busyWith other (acts.reverse ++ trace) =
      if taxi = other then customer :: busyWith other trace else busyWith other trace := by
  obtain ⟨goTo, accepted, rfl, sent, _, _, quiet⟩ := dispatch.acts
  have told : busyWith other (.produce accepted :: .produce goTo :: .assign taxi customer :: trace) =
      busyWith other (.produce goTo :: .assign taxi customer :: trace) := by
    rw [busyWith_produce, if_neg (by simp [quiet.1])]
  apply told.trans
  rw [busyWith_goTo sent, busyWith_assign]

/-- A dispatch sends its taxi. -/
theorem lastGoTo_dispatch (dispatch : Dispatch taxi customer coord acts) (other : TaxiId) :
    lastGoTo other (acts.reverse ++ trace) =
      if taxi = other then some coord else lastGoTo other trace := by
  obtain ⟨goTo, accepted, rfl, sent, rfl, rfl, quiet⟩ := dispatch.acts
  have told := @lastGoTo_quiet other (.produce goTo :: .assign goTo.taxiId customer :: trace)
    [.produce accepted] (by simp [Act.Quiet, quiet])
  apply told.trans
  rw [lastGoTo_goTo sent]
  rfl

end Dispatch

end Trace

namespace CentralStep

/-- A taxi reports its arrival only where it was last sent. -/
def ArrivesWhereSent (session : Uuid) (taken : CentralStep) : Prop :=
  ∀ asked ∈ taken.request? session, asked.2 = .taxiDestinationReached →
    Trace.lastGoTo asked.1.taxiId taken.before.trace = some asked.1.coord

instance (session : Uuid) (taken : CentralStep) : Decidable (taken.ArrivesWhereSent session) := by
  unfold ArrivesWhereSent
  infer_instance

end CentralStep

end EasyCab
