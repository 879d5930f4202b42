import EasyCab.Central.Queue
import EasyCab.Central.Survival

/-!
# What a denial and a priority leave behind

Two requests whose answer promises more than the tables keep. A pick-up which is
denied has already taken its customer aboard: `setOnboard` runs before the handler
looks at the destination, and nothing takes it back. A customer who is given priority
loses its place: the handler clears `in_queue`, which is how the queue says that
somebody waits.
-/

namespace EasyCab

open Library

/-! ### Denied pick-ups -/

/-- A row without the position which its taxi reports, nor the time stamp that follows it. -/
def TaxiRow.unreported (row : TaxiRow) : TaxiRow := { row with x := 0, y := 0, lastUpdate := 0 }

/-- The tables are as before, but for the position which a taxi reported. -/
structure Tables.SameButReported (taxi : TaxiId) (before after : Tables) : Prop where
  locations : after.locations = before.locations
  customers : after.customers = before.customers
  reporting : (after.taxis.lookup taxi).map TaxiRow.unreported =
    (before.taxis.lookup taxi).map TaxiRow.unreported
  others : ∀ other, other ≠ taxi → after.taxis.lookup other = before.taxis.lookup other

/-- A denied pick-up leaves nothing half done. -/
structure Tables.DeniedCleanly (taxi : TaxiId) (customer : Id) (before after : Tables) : Prop where
  ashore : after.onboardOf customer ≠ some true
  notCarried : after.customerIdOf taxi ≠ some customer
  notServed : after.serviceOf taxi ≠ some customer
  same : before.SameButReported taxi after

/-- The customer is aboard all the same: each clause of `DeniedCleanly` fails. -/
structure Tables.Boarded (taxi : TaxiId) (customer : Id) (before after : Tables) : Prop where
  aboard : after.onboardOf customer = some true
  carried : after.customerIdOf taxi = some customer
  served : after.serviceOf taxi = some customer
  different : ¬ before.SameButReported taxi after

/-- A taxi whose row differs at most in what it reports carries the same customer. -/
theorem Tables.SameButReported.customerIdOf {taxi : TaxiId} {before after : Tables}
    (same : before.SameButReported taxi after) :
    after.customerIdOf taxi = before.customerIdOf taxi := by
  have equal := congrArg (Option.map TaxiRow.customerId) same.reporting
  unfold Tables.customerIdOf
  cases found : after.taxis.lookup taxi <;> cases stored : before.taxis.lookup taxi <;>
    simp_all [TaxiRow.unreported]

namespace KafkaServer

variable {now : Timestamp} {session : Uuid} {server : KafkaServer} {request : Message}
  {subject : SubjRequest} {acts : List Act}

/-- A handled arrival denies its service only to the customer it took aboard. -/
theorem Handled.boarded_of_denied {after : KafkaServer} {denial : Message}
    (handled : Handled now session server request .taxiDestinationReached after acts)
    (produced : .produce denial ∈ acts)
    (denied : denial.subject = .response .customerServiceDenied) :
    server.db.Boarded request.taxiId denial.id after.db.toTables := by
  cases handled with
  | pickUpDenied customer kind empty service nowhere db response recorded =>
      obtain rfl : denial = after.response := by simpa [recorded] using produced
      have named : after.response.id = customer := by rw [response]
      rw [named]
      have trips : after.db.trips =
          (server.db.trips.moveTaxi request.taxiId request.coord).setOnboard customer
            request.taxiId true := by
        rw [db]
        simp [onboardTables, movedTables, Trips.setOnboard]
      have stored : (server.db.trips.taxiAt request.taxiId).isSome :=
        server.db.trips_wellFormed.taxiOfService service
      have carried : after.db.customerIdOf request.taxiId = some customer := by
        have read := congrFun (congrArg Trips.carried trips) request.taxiId
        apply read.trans
        obtain ⟨coord, found⟩ := Option.isSome_iff_exists.mp stored
        simp [Trips.setOnboard, Trips.carry, Trips.setOnboardFlag, Trips.moveTaxi, found]
      refine ⟨?_, carried, ?_, ?_⟩
      · -- The foreign key of `customer_id` says that the customer is stored.
        have present : (after.db.trips.customerAt customer).isSome :=
          after.db.trips_wellFormed.customerOfCarried carried
        have flagged : (after.db.trips.onboard customer).isSome :=
          after.db.trips_wellFormed.flagOfCustomer present
        have read := congrFun (congrArg Trips.onboard trips) customer
        simp only [Trips.setOnboard, Trips.carry, Trips.setOnboardFlag,
          Function.update_self] at read
        rw [read] at flagged
        apply read.trans
        cases known : (server.db.trips.moveTaxi request.taxiId request.coord).onboard customer with
        | none => simp [known] at flagged
        | some flag => rfl
      · exact (congrFun (congrArg Trips.service trips) request.taxiId).trans service
      · intro same
        rw [same.customerIdOf, empty] at carried
        cases carried
  | deleted kind | prioritized kind | denied kind | accepted kind | moved kind | enqueued kind =>
      cases kind
  | ignored _ _ kind | silent _ kind | flagged _ _ kind | requestAssigned _ _ _ kind
  | redirected _ kind => cases kind
  | arrivedIdle kind => rcases kind with kind | kind <;> cases kind
  | arrivedAssigned customer kind => rcases kind with kind | kind <;> cases kind
  | completed customer kind carried db empty response recorded =>
      obtain rfl : denial = after.response := by simpa [recorded] using produced
      simp [response] at denied
  | completedAssigned customer next middle later kind carried db head response assigned recorded =>
      obtain ⟨coord, _, answered⟩ := assigned.sent
      rw [recorded, assigned.acts] at produced
      simp only [List.mem_cons, Act.produce.injEq, reduceCtorEq, List.not_mem_nil, or_false,
        false_or] at produced
      rcases produced with rfl | rfl | rfl <;> simp [response, answered] at denied
  | pickedUp customer coord kind empty service destination db response recorded =>
      simp only [recorded, List.mem_cons, Act.produce.injEq, List.not_mem_nil, or_false] at produced
      rcases produced with rfl | rfl <;> simp [response] at denied

end KafkaServer

/-- Whenever Central denies a pick-up, every query succeeding, the customer is aboard afterwards
and its taxi carries and serves it. -/
theorem KafkaServer.process_boards_denied {now : Timestamp} {session : Uuid} {server : KafkaServer}
    {request denial : Message} {outcome : Outcome KafkaServer Act Unit}
    (asked : request.subject = .request .taxiDestinationReached)
    (ran : Yields (process now session request) server outcome)
    (produced : .produce denial ∈ outcome.acts)
    (denied : denial.subject = .response .customerServiceDenied) :
    server.db.Boarded request.taxiId denial.id outcome.state.db.toTables := by
  cases accepted : accepted? session request with
  | none =>
      rw [process_dropped accepted ran.1] at produced
      cases produced
  | some subject =>
      obtain rfl : subject = .taxiDestinationReached := by
        have same := (subject_of_accepted accepted).symm.trans asked
        simpa using same
      obtain ⟨handled, acts, maps, outages, treated, rfl⟩ := process_yields accepted ran
      have member : .produce denial ∈ acts := by simpa using produced
      exact treated.boarded_of_denied member denied

/-- A customer who is aboard was not denied cleanly. -/
theorem Tables.Boarded.not_cleanly {taxi : TaxiId} {customer : Id} {before after : Tables}
    (boarded : before.Boarded taxi customer after) : ¬ before.DeniedCleanly taxi customer after :=
  fun cleanly => cleanly.notCarried boarded.carried

/-- No denied pick-up leaves nothing half done: the customer it came for is aboard, carried and
served, and the tables differ from before by more than the reported position. -/
theorem denied_pick_up_boards {now : Timestamp} {session : Uuid} {server : KafkaServer}
    {request denial : Message} {outcome : Outcome KafkaServer Act Unit}
    (asked : request.subject = .request .taxiDestinationReached)
    (ran : KafkaServer.Yields (KafkaServer.process now session request) server outcome)
    (produced : .produce denial ∈ outcome.acts)
    (denied : denial.subject = .response .customerServiceDenied) :
    server.db.Boarded request.taxiId denial.id outcome.state.db.toTables ∧
      ¬ server.db.DeniedCleanly request.taxiId denial.id outcome.state.db.toTables := by
  have boarded := KafkaServer.process_boards_denied asked ran produced denied
  exact ⟨boarded, boarded.not_cleanly⟩

/-- Central between two requests, without outages to come. -/
def System.server (system : System) : KafkaServer := ⟨system.db, [], system.response⟩

/-- A customer asks before there is a taxi, so the destination is never stored, and is assigned
the first taxi that comes. -/
def unplannedRide : List System.Event :=
  [Town.register 65 ⟨1, 1⟩, Town.ask 65 74] ++ Town.join 1

theorem unplannedRide_survives :
    ((System.machine Town.session).exec (System.start Town.locations) unplannedRide).isSome := by
  decide +kernel

/-- The taxi reaches the customer. -/
def unplannedPickUp : Message :=
  { Message.request Town.session.1 .taxiDestinationReached with taxiId := 1, coord := ⟨1, 1⟩ }

/-- Central answers the report with a denial, and no statement fails. -/
theorem unplannedPickUp_denied :
    ∃ outcome denial, KafkaServer.Yields (KafkaServer.process 0 Town.session unplannedPickUp)
        (Town.reach unplannedRide unplannedRide_survives).server outcome ∧
      .produce denial ∈ outcome.acts ∧ denial.subject = .response .customerServiceDenied := by
  have told : ∃ denial ∈ Act.responses ((KafkaServer.process 0 Town.session unplannedPickUp).acts
      (Town.reach unplannedRide unplannedRide_survives).server),
      denial.subject = .response .customerServiceDenied := by decide +kernel
  obtain ⟨outcome, ran, _, acts⟩ := KafkaServer.yields_of_ends
    (KafkaServer.process 0 Town.session unplannedPickUp)
    (Town.reach unplannedRide unplannedRide_survives).server (by decide +kernel) (by decide +kernel)
  rw [← acts] at told
  obtain ⟨denial, member, denies⟩ := told
  exact ⟨outcome, denial, ran, Act.mem_responses_iff.mp member, denies⟩

/-- Central denies the ride of the queued customer and takes the customer aboard. -/
theorem denied_customer_rides :
    ¬ ∀ (now : Timestamp) (session : Uuid) (server : KafkaServer) (request denial : Message)
        (outcome : Outcome KafkaServer Act Unit),
      request.subject = .request .taxiDestinationReached →
      KafkaServer.Yields (KafkaServer.process now session request) server outcome →
      .produce denial ∈ outcome.acts → denial.subject = .response .customerServiceDenied →
      server.db.DeniedCleanly request.taxiId denial.id outcome.state.db.toTables := by
  intro claimed
  obtain ⟨outcome, denial, ran, produced, denied⟩ := unplannedPickUp_denied
  have boarded := KafkaServer.process_boards_denied rfl ran produced denied
  exact boarded.not_cleanly (claimed _ _ _ _ _ _ rfl ran produced denied)

/-- The queued customer is aboard after the denial. -/
theorem denied_pick_up_boards_unplanned :
    ∃ (outcome : Outcome KafkaServer Act Unit) (denial : Message),
      KafkaServer.process 0 Town.session unplannedPickUp
          (Town.reach unplannedRide unplannedRide_survives).server = .ok outcome ∧
      .produce denial ∈ outcome.acts ∧
      (Town.reach unplannedRide unplannedRide_survives).server.db.Boarded 1 denial.id
        outcome.state.db.toTables := by
  obtain ⟨outcome, denial, ran, produced, denied⟩ := unplannedPickUp_denied
  exact ⟨outcome, denial, ran.1, produced, (denied_pick_up_boards rfl ran produced denied).1⟩

/-! ### Priority -/

/-- The first customer has waited at least as long as the second one. -/
def Tables.WaitsBefore (tables : Tables) (first second : Id) : Prop :=
  ∃ early late, tables.inQueueOf first = some early ∧ tables.inQueueOf second = some late ∧
    early ≤ late

/-- `checkQueue` answers the customer. -/
def Db.AnswersNext (db : Db) (customer : Id) : Prop :=
  ∀ (now : Timestamp) (response : Message), ∃ outcome,
    KafkaServer.checkQueue now ⟨db, [], response⟩ = .ok outcome ∧ outcome.value = some customer

/-- A customer is given priority: it still waits, it is the next one, and the others wait in
the order in which they did. -/
structure Db.GivenPriority (customer : Id) (before after : Db) : Prop where
  waits : (after.inQueueOf customer).isSome
  first : after.AnswersNext customer
  others : ∀ early late, early ≠ customer → late ≠ customer →
    (after.WaitsBefore early late ↔ before.WaitsBefore early late)

/-- A customer leaves the queue: the first two clauses of `GivenPriority` fail. -/
structure Db.TakenFromQueue (customer : Id) (before after : Db) : Prop where
  gone : after.inQueueOf customer = none
  passed : ¬ after.AnswersNext customer
  others : ∀ early late, early ≠ customer → late ≠ customer →
    (after.WaitsBefore early late ↔ before.WaitsBefore early late)

/-- `checkQueue` answers the head of the queue. -/
theorem Db.answersNext_iff {db : Db} {customer : Id} :
    db.AnswersNext customer ↔ db.queueHead = some customer := by
  constructor
  · intro answers
    obtain ⟨outcome, ran, value⟩ := answers 0 .new
    rw [KafkaServer.checkQueue_eq] at ran
    cases ran
    exact value
  · intro head now response
    exact ⟨_, KafkaServer.checkQueue_eq, head⟩

/-- What an update of `in_queue` writes. -/
theorem Tables.inQueueOf_setInQueue {tables : Tables} {now : Timestamp} {customer other : Id}
    {inQueue : Option Timestamp} :
    (tables.setInQueue now customer inQueue).inQueueOf other =
      if other = customer then (tables.customers.lookup other).bind fun _ => inQueue
      else tables.inQueueOf other := by
  unfold Tables.inQueueOf Tables.setInQueue Tables.updateCustomer
  rw [Table.lookup_modify]
  by_cases same : other = customer
  · cases tables.customers.lookup other <;> simp [same]
  · simp only [if_neg same]

/-- A customer who leaves the queue is not given priority. -/
theorem Db.TakenFromQueue.not_givenPriority {customer : Id} {before after : Db}
    (taken : before.TakenFromQueue customer after) : ¬ before.GivenPriority customer after :=
  fun given => taken.passed given.first

/-- Clearing `in_queue` takes the customer from the queue and nobody else. -/
theorem Db.takenFromQueue_of_clear {now : Timestamp} {customer : Id} {before after : Db}
    (cleared : after.toTables = before.toTables.setInQueue now customer none) :
    before.TakenFromQueue customer after := by
  have gone : after.inQueueOf customer = none := by
    rw [cleared, Tables.inQueueOf_setInQueue, if_pos rfl]
    cases before.customers.lookup customer <;> rfl
  refine ⟨gone, ?_, fun early late earlyOther lateOther => ?_⟩
  · rw [Db.answersNext_iff]
    intro head
    have queued := Tables.inQueueOf_queueHead head
    rw [gone] at queued
    cases queued
  · unfold Tables.WaitsBefore
    rw [cleared, Tables.inQueueOf_setInQueue, Tables.inQueueOf_setInQueue, if_neg earlyOther,
      if_neg lateOther]

namespace KafkaServer

/-- An order to prioritize a customer, every query succeeding, takes it from the queue. -/
theorem process_takes_prioritized {now : Timestamp} {session : Uuid} {server : KafkaServer}
    {request : Message} {outcome : Outcome KafkaServer Act Unit}
    (asked : request.subject = .request .orderCustomerPriority)
    (ran : Yields (process now session request) server outcome) :
    server.db.TakenFromQueue request.id outcome.state.db := by
  have accepted : accepted? session request = some .orderCustomerPriority := by
    simp [accepted?, asked, greenList]
  obtain ⟨handled, acts, maps, outages, treated, rfl⟩ := process_yields accepted ran
  cases treated with
  | prioritized kind db response recorded => exact Db.takenFromQueue_of_clear db
  | deleted kind | denied kind | accepted kind | moved kind | enqueued kind => cases kind
  | ignored _ _ kind | silent _ kind | flagged _ _ kind | completed _ kind | pickUpDenied _ kind
  | redirected _ kind => cases kind
  | arrivedIdle kind | arrivedAssigned _ kind => rcases kind with kind | kind <;> cases kind
  | pickedUp _ _ kind => cases kind
  | requestAssigned _ _ _ kind => cases kind
  | completedAssigned _ _ _ _ kind => cases kind

end KafkaServer

/-- No customer is given priority: it loses its place, whoever else waits. -/
theorem priority_loses_place {now : Timestamp} {session : Uuid} {server : KafkaServer}
    {request : Message} {outcome : Outcome KafkaServer Act Unit}
    (asked : request.subject = .request .orderCustomerPriority)
    (ran : KafkaServer.Yields (KafkaServer.process now session request) server outcome) :
    server.db.TakenFromQueue request.id outcome.state.db ∧
      ¬ server.db.GivenPriority request.id outcome.state.db := by
  have taken := KafkaServer.process_takes_prioritized asked ran
  exact ⟨taken, taken.not_givenPriority⟩

/-- Two customers wait. -/
def twoWaiting : List System.Event :=
  [Town.register 65 ⟨1, 1⟩, Town.register 74 ⟨2, 2⟩, Town.ask 65 74, Town.ask 74 65]

theorem twoWaiting_survives :
    ((System.machine Town.session).exec (System.start Town.locations) twoWaiting).isSome := by
  decide +kernel

/-- The operator prioritizes one of them. -/
def favour : Message := { Message.request [] .orderCustomerPriority with id := 74 }

/-- No statement of the order fails. -/
theorem favour_yields : ∃ outcome, KafkaServer.Yields (KafkaServer.process 0 Town.session favour)
    (Town.reach twoWaiting twoWaiting_survives).server outcome := by
  obtain ⟨outcome, ran, _⟩ := KafkaServer.yields_of_ends
    (KafkaServer.process 0 Town.session favour) (Town.reach twoWaiting twoWaiting_survives).server
    (by decide +kernel) (by decide +kernel)
  exact ⟨outcome, ran⟩

/-- The customer whom the operator prioritizes waits no longer. -/
theorem favoured_customer_forgotten :
    ¬ ∀ (now : Timestamp) (session : Uuid) (server : KafkaServer) (request : Message)
        (outcome : Outcome KafkaServer Act Unit),
      request.subject = .request .orderCustomerPriority →
      (server.db.inQueueOf request.id).isSome →
      KafkaServer.Yields (KafkaServer.process now session request) server outcome →
      server.db.GivenPriority request.id outcome.state.db := by
  intro claimed
  obtain ⟨outcome, ran⟩ := favour_yields
  have taken := KafkaServer.process_takes_prioritized rfl ran
  exact taken.not_givenPriority (claimed _ _ _ _ _ rfl (by decide +kernel) ran)

/-- The order to favour `J`, before whom somebody else waits, takes `J` from the queue. -/
theorem priority_loses_place_of_two :
    ∃ outcome, KafkaServer.process 0 Town.session favour
        (Town.reach twoWaiting twoWaiting_survives).server = .ok outcome ∧
      (Town.reach twoWaiting twoWaiting_survives).db.TakenFromQueue 74 outcome.state.db := by
  obtain ⟨outcome, ran⟩ := favour_yields
  exact ⟨outcome, ran.1, (priority_loses_place rfl ran).1⟩

end EasyCab
