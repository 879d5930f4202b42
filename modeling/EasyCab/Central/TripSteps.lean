import EasyCab.Central.Handled

/-!
# Steps of trips

The abstract view of a handled request: what becomes of the trips, and which acts
matter to whom the taxis are promised. `Handled.tripStep` is the refinement: every
way in which the switch treats a request is one of these steps on the trips of the
database. Invariants about who is where are proved of `TripStep` and never look at
the tables.
-/

namespace EasyCab

open Library

namespace Message

/-- A response which ends the service of the customer it names. -/
def endsService (message : Message) : Bool :=
  message.subject ∈ [.response .customerServiceCompleted, .response .customerServiceDenied,
    .response .customerDisconnect]

/-- Three responses end a service. -/
theorem endsService_iff {message : Message} : message.endsService = true ↔
    message.subject = .response .customerServiceCompleted ∨
      message.subject = .response .customerServiceDenied ∨
      message.subject = .response .customerDisconnect := by
  simp [endsService]

/-- An order which takes its taxi off whatever it was doing. -/
def freesTaxi (message : Message) : Bool :=
  message.subject ∈ [.request .orderTaxiDisconnect, .request .orderTaxiGoTo,
    .request .orderTaxiReturnToBase]

/-- A response which neither ends a service nor sends a taxi anywhere. -/
def Quiet (message : Message) : Prop :=
  message.endsService = false ∧ message.subject ≠ .response .taxiGoTo

end Message

/-- An act which neither assigns a taxi, ends a service nor sends a taxi anywhere. -/
def Act.Quiet : Act → Prop
  | .produce message => message.Quiet
  | .publishMap _ => True
  | .announce _ => True
  | _ => False

/-- Producing a quiet message is all that is done. -/
theorem Message.Quiet.produced {message : Message} (quiet : message.Quiet) :
    ∀ act ∈ [Act.produce message], act.Quiet :=
  List.forall_mem_singleton.mpr quiet

/-- The acts of `assign`: the taxi is sent somewhere and the customer is told. -/
structure Dispatch (taxi : TaxiId) (customer : Id) (coord : Coordinate) (acts : List Act) :
    Prop where
  acts : ∃ goTo accepted : Message, acts = [.assign taxi customer, .produce goTo, .produce accepted] ∧
    goTo.subject = .response .taxiGoTo ∧ goTo.taxiId = taxi ∧ goTo.coord = coord ∧ accepted.Quiet

/-- A dispatch assigns its taxi. -/
theorem Dispatch.assign_mem {taxi : TaxiId} {customer : Id} {coord : Coordinate} {acts : List Act}
    (dispatch : Dispatch taxi customer coord acts) : .assign taxi customer ∈ acts := by
  obtain ⟨goTo, accepted, rfl, _⟩ := dispatch.acts
  exact List.mem_cons_self

/-- A call of `assign`. -/
def Act.IsAssign : Act → Prop
  | .assign _ _ => True
  | _ => False

/-- A quiet act is no assignment. -/
theorem Act.Quiet.not_isAssign {act : Act} (quiet : act.Quiet) : ¬ act.IsAssign := by
  cases act <;> simp_all [Act.Quiet, Act.IsAssign]

/-- A subject under which no taxi moves and none is redirected. -/
def SubjRequest.Calm (subject : SubjRequest) : Prop :=
  subject ∉ [.taxiMove, .taxiDestinationReached, .orderTaxiGoTo, .orderTaxiReturnToBase]

/-- What a handled request does to the trips. -/
inductive TripStep (before : Trips) (message : Message) (subject : SubjRequest) (after : Trips)
    (acts : List Act) : Prop where
  /-- Nobody moves and nothing is promised. -/
  | quiet (calm : subject.Calm) (same : after = before) (quiet : ∀ act ∈ acts, act.Quiet)
  /-- A location moves. -/
  | relocated (kind : subject = .orderLocationMove)
      (trips : after = before.movePlace message.id message.coord) (recorded : acts = [])
  /-- A customer is deleted. -/
  | left (kind : subject = .orderCustomerDisconnect) (trips : after = before.leave message.id)
      (answer : Message) (told : answer.subject = .response .customerDisconnect)
      (named : answer.id = message.id) (recorded : acts = [.produce answer])
  /-- A customer registers. -/
  | joined (kind : subject = .newCustomer)
      (trips : after = before.join message.id message.coord)
      (free : before.customerAt message.id = none) (quiet : ∀ act ∈ acts, act.Quiet)
  /-- A taxi moves. -/
  | drove (kind : subject = .taxiMove)
      (trips : after = before.drive message.taxiId message.coord) (recorded : acts = [])
  /-- A taxi arrives with its customer. -/
  | droppedOff (customer : Id) (kind : subject = .taxiDestinationReached)
      (carried : before.carried message.taxiId = some customer)
      (trips : after = (before.drive message.taxiId message.coord).setOnboard customer
        message.taxiId false)
      (answer : Message) (told : answer.subject = .response .customerServiceCompleted)
      (named : answer.id = customer) (recorded : acts = [.produce answer])
  /-- A taxi arrives with its customer and is sent to the next one. -/
  | droppedOffAndSent (customer next : Id) (middle : Trips) (coord : Coordinate)
      (later : List Act) (kind : subject = .taxiDestinationReached)
      (carried : before.carried message.taxiId = some customer)
      (dropped : middle = (before.drive message.taxiId message.coord).setOnboard customer
        message.taxiId false)
      (trips : after = middle.assign message.taxiId next)
      (answer : Message) (told : answer.subject = .response .customerServiceCompleted)
      (named : answer.id = customer) (dest : after.dest message.taxiId = some coord)
      (dispatch : Dispatch message.taxiId next coord later)
      (recorded : acts = .produce answer :: later)
  /-- A taxi takes a customer aboard who has no destination. -/
  | boardedDenied (customer : Id) (kind : subject = .taxiDestinationReached)
      (empty : before.carried message.taxiId = none)
      (service : before.service message.taxiId = some customer)
      (nowhere : (before.wants customer).bind before.placeAt = none)
      (trips : after = (before.drive message.taxiId message.coord).setOnboard customer
        message.taxiId true)
      (answer : Message) (told : answer.subject = .response .customerServiceDenied)
      (named : answer.id = customer) (recorded : acts = [.produce answer])
  /-- A taxi takes a customer aboard and is sent to its destination. -/
  | boarded (customer : Id) (coord : Coordinate) (kind : subject = .taxiDestinationReached)
      (empty : before.carried message.taxiId = none)
      (service : before.service message.taxiId = some customer)
      (destination : (before.wants customer).bind before.placeAt = some coord)
      (trips : after = (before.drive message.taxiId message.coord).setOnboard customer
        message.taxiId true)
      (pickedUp goTo : Message) (quiet : pickedUp.Quiet)
      (sent : goTo.subject = .response .taxiGoTo) (taxi : goTo.taxiId = message.taxiId)
      (heading : goTo.coord = coord) (recorded : acts = [.produce pickedUp, .produce goTo])
  /-- A service request is assigned at once. -/
  | requested (taxi : TaxiId) (coord : Coordinate) (earlier : List Act) (answer : Message)
      (kind : subject = .customerServiceRequest)
      (trips : after = (before.setDestination message.id message.charFromData).assign taxi
        message.id)
      (dest : after.dest taxi = some coord) (dispatch : Dispatch taxi message.id coord earlier)
      (quiet : answer.Quiet) (recorded : acts = earlier ++ [.produce answer])
  /-- An arriving taxi is sent to a customer. -/
  | summoned (customer : Id) (coord : Coordinate)
      (kind : subject = .newTaxi ∨ subject = .taxiReconnected)
      (trips : after = before.assign message.taxiId customer)
      (dest : after.dest message.taxiId = some coord)
      (dispatch : Dispatch message.taxiId customer coord acts)
  /-- The operator redirects a taxi. -/
  | redirected (coord : Coordinate) (frees : message.freesTaxi)
      (kind : subject = .orderTaxiGoTo ∨ subject = .orderTaxiReturnToBase)
      (trips : after = (before.redirect message.taxiId coord).landNamesake message.taxiId)
      (goTo : Message) (sent : goTo.subject = .response .taxiGoTo)
      (taxi : goTo.taxiId = message.taxiId) (heading : goTo.coord = coord)
      (recorded : acts = [.produce goTo])

namespace KafkaServer

variable {now : Timestamp} {tables : Tables}

/-! ### Trips after a handled request -/

theorem trips_movedTables {taxi : TaxiId} {coord : Coordinate} :
    (movedTables now taxi coord (tables.customerIdOf taxi) tables).trips =
      tables.trips.drive taxi coord := by
  have carried : tables.trips.carried taxi = tables.customerIdOf taxi := rfl
  unfold movedTables Trips.drive
  rw [carried]
  cases tables.customerIdOf taxi with
  | none => exact Tables.trips_moveTaxi taxi coord
  | some customer => rw [Tables.trips_moveCustomer, Tables.trips_moveTaxi]

theorem trips_onboardTables {customer : Id} {taxi : TaxiId} {val : Bool} :
    (onboardTables now customer taxi val tables).trips =
      tables.trips.setOnboard customer taxi val := by
  rw [onboardTables, Tables.trips_setCustomerId, Tables.trips_setOnboardFlag]
  rfl

theorem trips_silentEffect {request : Message} {subject : SubjRequest}
    {effect : Tables → Tables} (kind : silentEffect now request subject = some effect) :
    subject.Calm ∧ (effect tables).trips = tables.trips ∨
      subject = .orderLocationMove ∧
        (effect tables).trips = tables.trips.movePlace request.id request.coord := by
  cases subject <;> simp only [silentEffect, Option.some.injEq, reduceCtorEq] at kind <;> subst kind
  case taxiPing => exact .inl ⟨by simp [SubjRequest.Calm], Tables.trips_pingTaxi _⟩
  case taxiReady => exact .inl ⟨by simp [SubjRequest.Calm], Tables.trips_setReady _ _⟩
  case taxiNotReady => exact .inl ⟨by simp [SubjRequest.Calm], Tables.trips_setReady _ _⟩
  case customerPing => exact .inl ⟨by simp [SubjRequest.Calm], Tables.trips_pingCustomer _⟩
  case customerUpdateNextRequest =>
    exact .inl ⟨by simp [SubjRequest.Calm], Tables.trips_setNextRequest _ _⟩
  case taxiUpdateWaitTime => exact .inl ⟨by simp [SubjRequest.Calm], Tables.trips_setWaitTime _ _⟩
  case orderLocationMove => exact .inr ⟨rfl, Tables.trips_moveLocation _ _⟩

theorem trips_flagEffect {request : Message} {subject : SubjRequest}
    {effect : Tables → Tables} {answer : SubjResponse}
    (kind : flagEffect now request subject = some (effect, answer)) :
    subject.Calm ∧ (effect tables).trips = tables.trips ∧
      answer ∈ [.taxiDisconnect, .taxiStop, .taxiContinue] := by
  cases subject <;> simp only [flagEffect, Option.some.injEq, Prod.mk.injEq, reduceCtorEq] at kind <;>
    obtain ⟨rfl, rfl⟩ := kind
  case orderTaxiDisconnect =>
    exact ⟨by simp [SubjRequest.Calm], Tables.trips_setConnected _ _, by decide⟩
  case orderTaxiStop => exact ⟨by simp [SubjRequest.Calm], Tables.trips_setStopped _ _, by decide⟩
  case orderTaxiContinue => exact ⟨by simp [SubjRequest.Calm], Tables.trips_setStopped _ _, by decide⟩

/-- `assign` is a dispatch to the destination it stores. -/
theorem Assigned.dispatch {taxi : TaxiId} {customer : Id} {before after : KafkaServer}
    {acts : List Act} (assigned : Assigned now taxi customer before after acts) :
    after.db.trips = before.db.trips.assign taxi customer ∧
      ∃ coord, after.db.trips.dest taxi = some coord ∧ Dispatch taxi customer coord acts := by
  obtain ⟨coord, stored, response⟩ := assigned.sent
  refine ⟨?_, coord, stored, ⟨_, _, assigned.acts, rfl, ?_, ?_, ?_⟩⟩
  · rw [assigned.tables, Tables.trips_assignTaxi]
  · rw [response]
  · rw [response]
  · simp [response, Message.Quiet, Message.endsService]

/-- What the switch does to the trips is one of their steps. -/
theorem Handled.tripStep {session : Uuid} {before after : KafkaServer} {request : Message}
    {subject : SubjRequest} {acts : List Act} (asked : request.subject = .request subject)
    (handled : Handled now session before request subject after acts) :
    TripStep before.db.trips request subject after.db.trips acts := by
  cases handled with
  | ignored code undeclared kind db response recorded =>
      exact .quiet (by simp [kind, SubjRequest.Calm]) (by rw [db]) (by simp [recorded])
  | arrivedIdle kind empty db response recorded =>
      refine .quiet ?_ (by rw [db]) (by simp [recorded])
      rcases kind with rfl | rfl <;> simp [SubjRequest.Calm]
  | arrivedAssigned customer kind head assigned =>
      obtain ⟨trips, coord, dest, dispatch⟩ := assigned.dispatch
      exact .summoned customer coord kind trips dest dispatch
  | silent effect kind db response recorded =>
      rcases trips_silentEffect kind with ⟨calm, same⟩ | ⟨rfl, moved⟩
      · exact .quiet calm (by rw [db, same]) (by simp [recorded])
      · exact .relocated rfl (by rw [db, moved]) recorded
  | flagged effect answer kind db response recorded =>
      obtain ⟨calm, same, answers⟩ := trips_flagEffect kind
      refine .quiet calm (by rw [db, same]) ?_
      simp only [List.mem_cons, List.not_mem_nil, or_false] at answers
      rcases answers with rfl | rfl | rfl <;>
        simp [recorded, response, Act.Quiet, Message.Quiet, Message.endsService]
  | deleted kind db response recorded =>
      refine .left kind ?_ after.response ?_ ?_ recorded
      · rw [db, Tables.trips_deleteCustomer]
      · rw [response]
      · rw [response]
  | prioritized kind db response recorded =>
      refine .quiet (by simp [kind, SubjRequest.Calm]) ?_ ?_
      · rw [db, Tables.trips_setInQueue]
      · simp [recorded, response, Act.Quiet, Message.Quiet, Message.endsService]
  | denied kind taken db response recorded =>
      refine .quiet (by simp [kind, SubjRequest.Calm]) (by rw [db]) ?_
      simp [recorded, response, Act.Quiet, Message.Quiet, Message.endsService]
  | accepted kind db response recorded =>
      obtain ⟨trips, free⟩ := Tables.trips_insertCustomer db
      refine .joined kind trips free ?_
      simp [recorded, response, Act.Quiet, Message.Quiet, Message.endsService,
        Message.setUuidData]
  | moved kind db response recorded =>
      exact .drove kind (by rw [db, trips_movedTables]) recorded
  | completed customer kind carried db empty response recorded =>
      rw [← carried] at db
      refine .droppedOff customer kind carried ?_ after.response ?_ ?_ recorded
      · rw [db, trips_onboardTables, trips_movedTables]
      · rw [response]
      · rw [response]
  | completedAssigned customer next middle later kind carried db head response assigned recorded =>
      rw [← carried] at db
      obtain ⟨trips, coord, dest, dispatch⟩ := assigned.dispatch
      refine .droppedOffAndSent customer next middle.db.trips coord later kind carried ?_ trips
        middle.response ?_ ?_ dest dispatch recorded
      · rw [db, trips_onboardTables, trips_movedTables]
      · rw [response]
      · rw [response]
  | pickUpDenied customer kind empty service nowhere db response recorded =>
      rw [← empty] at db
      refine .boardedDenied customer kind empty service nowhere ?_ after.response ?_ ?_ recorded
      · rw [db, trips_onboardTables, trips_movedTables]
      · rw [response]
      · rw [response]
  | pickedUp customer coord kind empty service destination db response recorded =>
      rw [← empty] at db
      refine .boarded customer coord kind empty service destination ?_ _ _ ?_ ?_ ?_ ?_ recorded
      · rw [db, trips_onboardTables, trips_movedTables]
      · simp [Message.Quiet, Message.endsService]
      all_goals rw [response]
  | enqueued kind none db response recorded =>
      refine .quiet (by simp [kind, SubjRequest.Calm]) ?_ ?_
      · rw [db, Tables.trips_setInQueue]
      · simp [recorded, response, Act.Quiet, Message.Quiet, Message.endsService]
  | requestAssigned taxi middle earlier kind found db response assigned recorded =>
      obtain ⟨trips, coord, dest, dispatch⟩ := assigned.dispatch
      obtain ⟨_, _, sent⟩ := assigned.sent
      refine .requested taxi coord earlier after.response kind ?_ dest dispatch ?_ recorded
      · rw [trips, db, Tables.trips_setDestination]
      · simp [sent, Message.Quiet, Message.endsService]
  | redirected coord kind db response recorded =>
      have named : subject = .orderTaxiGoTo ∨ subject = .orderTaxiReturnToBase := by
        cases subject <;> simp_all [redirection?]
      refine .redirected coord ?_ named ?_ after.response ?_ ?_ ?_ recorded
      · rcases named with rfl | rfl <;> simp [Message.freesTaxi, asked]
      · rw [db, Tables.trips_landNamesake, Tables.trips_redirectTaxi]
      all_goals rw [response]

/-! ### What a request is about to assign -/

/-- The taxi and the customer of the call of `assign` which a request leads to. -/
def assignment? (tables : Tables) (request : Message) : SubjRequest → Option (TaxiId × Id)
  | .newTaxi | .taxiReconnected =>
      tables.queueHead.map fun customer => (request.taxiId, customer)
  | .taxiDestinationReached =>
      (tables.customerIdOf request.taxiId).bind fun _ =>
        tables.queueHead.map fun customer => (request.taxiId, customer)
  | .customerServiceRequest => tables.available.map fun taxi => (taxi, request.id)
  | _ => none

/-- The customer whose service a request completes before anything is assigned. -/
def completes? (tables : Tables) (request : Message) : SubjRequest → Option Id
  | .taxiDestinationReached => tables.customerIdOf request.taxiId
  | _ => none

variable {session : Uuid} {before after : KafkaServer} {request : Message} {subject : SubjRequest}
  {acts : List Act}

/-- The acts of a request which assigns a taxi: the end of a completed service, the
assignment, and what is told afterwards. -/
structure Assigns (tables : Tables) (request : Message) (subject : SubjRequest) (taxi : TaxiId)
    (customer : Id) (acts : List Act) : Prop where
  due : assignment? tables request subject = some (taxi, customer)
  acts : ∃ coord ended later rest, acts = ended ++ (later ++ rest) ∧
    Dispatch taxi customer coord later ∧ (∀ act ∈ rest, act.Quiet) ∧
    (ended = [] ∧ completes? tables request subject = none ∨
      ∃ answer : Message, ended = [.produce answer] ∧ answer.endsService ∧
        completes? tables request subject = some answer.id)

/-- A handled request assigns nobody, or exactly the taxi it is about to assign. -/
theorem Handled.assigns (handled : Handled now session before request subject after acts) :
    (assignment? before.db.toTables request subject = none ∧ ∀ act ∈ acts, ¬ act.IsAssign) ∨
      ∃ taxi customer, Assigns before.db.toTables request subject taxi customer acts := by
  cases handled with
  | ignored code undeclared kind db response recorded =>
      subst kind recorded
      exact .inl ⟨rfl, by simp⟩
  | arrivedIdle kind empty db response recorded =>
      subst recorded
      rcases kind with rfl | rfl <;> exact .inl ⟨by simp [assignment?, empty], by simp⟩
  | arrivedAssigned customer kind head assigned =>
      obtain ⟨_, coord, _, dispatch⟩ := assigned.dispatch
      refine .inr ⟨request.taxiId, customer, ?_, coord, [], acts, [], by simp, dispatch, by simp, ?_⟩
      · rcases kind with rfl | rfl <;> simp [assignment?, head]
      · rcases kind with rfl | rfl <;> exact .inl ⟨rfl, rfl⟩
  | silent effect kind db response recorded =>
      subst recorded
      refine .inl ⟨?_, by simp⟩
      cases subject <;> first | rfl | cases kind
  | flagged effect answer kind db response recorded =>
      subst recorded
      refine .inl ⟨?_, by simp [Act.IsAssign]⟩
      cases subject <;> first | rfl | cases kind
  | deleted kind db response recorded =>
      subst kind recorded
      exact .inl ⟨rfl, by simp [Act.IsAssign]⟩
  | prioritized kind db response recorded =>
      subst kind recorded
      exact .inl ⟨rfl, by simp [Act.IsAssign]⟩
  | denied kind taken db response recorded =>
      subst kind recorded
      exact .inl ⟨rfl, by simp [Act.IsAssign]⟩
  | accepted kind db response recorded =>
      subst kind recorded
      exact .inl ⟨rfl, by simp [Act.IsAssign]⟩
  | moved kind db response recorded =>
      subst kind recorded
      exact .inl ⟨rfl, by simp⟩
  | completed customer kind carried db empty response recorded =>
      subst kind recorded
      exact .inl ⟨by simp [assignment?, empty], by simp [Act.IsAssign]⟩
  | completedAssigned customer next middle later kind carried db head response assigned recorded =>
      subst kind recorded
      obtain ⟨_, coord, _, dispatch⟩ := assigned.dispatch
      refine .inr ⟨request.taxiId, next, ?_, coord, [.produce middle.response], later, [], by simp,
        dispatch, by simp, .inr ⟨middle.response, rfl, ?_, ?_⟩⟩
      · simp [assignment?, carried, head]
      · simp [response, Message.endsService]
      · simp [completes?, carried, response]
  | pickUpDenied customer kind empty service nowhere db response recorded =>
      subst kind recorded
      exact .inl ⟨by simp [assignment?, empty], by simp [Act.IsAssign]⟩
  | pickedUp customer coord kind empty service destination db response recorded =>
      subst kind recorded
      exact .inl ⟨by simp [assignment?, empty], by simp [Act.IsAssign]⟩
  | enqueued kind none db response recorded =>
      subst kind recorded
      exact .inl ⟨by simp [assignment?, none], by simp [Act.IsAssign]⟩
  | requestAssigned taxi middle earlier kind found db response assigned recorded =>
      subst kind
      obtain ⟨_, coord, _, dispatch⟩ := assigned.dispatch
      obtain ⟨_, _, sent⟩ := assigned.sent
      refine .inr ⟨taxi, request.id, ?_, coord, [], earlier, [.produce after.response],
        by simp [recorded], dispatch, ?_, .inl ⟨rfl, rfl⟩⟩
      · simp [assignment?, found]
      · simp [sent, Act.Quiet, Message.Quiet, Message.endsService]
  | redirected coord kind db response recorded =>
      subst recorded
      refine .inl ⟨?_, by simp [Act.IsAssign]⟩
      cases subject <;> first | rfl | cases kind

/-- Every call of `assign` was due. -/
theorem Handled.due_of_assign (handled : Handled now session before request subject after acts)
    {taxi : TaxiId} {customer : Id} (assigned : .assign taxi customer ∈ acts) :
    assignment? before.db.toTables request subject = some (taxi, customer) := by
  rcases handled.assigns with ⟨_, nobody⟩ | ⟨other, next, assigns⟩
  · exact absurd trivial (nobody _ assigned)
  · obtain ⟨coord, ended, later, rest, rfl, dispatch, quiet, completed⟩ := assigns.acts
    obtain ⟨goTo, accepted, rfl, _⟩ := dispatch.acts
    have restNobody : Act.assign taxi customer ∉ rest := fun member =>
      (quiet _ member).not_isAssign trivial
    have endedNobody : Act.assign taxi customer ∉ ended := by
      rcases completed with ⟨rfl, _⟩ | ⟨answer, rfl, _⟩ <;> simp
    simp only [List.mem_append, endedNobody, restNobody, List.mem_cons, Act.assign.injEq,
      reduceCtorEq, List.not_mem_nil, or_false, false_or] at assigned
    obtain ⟨rfl, rfl⟩ := assigned
    exact assigns.due

end KafkaServer

end EasyCab
