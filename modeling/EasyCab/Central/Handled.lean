import EasyCab.Central.Yields

/-!
# What one request does to Central

`Handled` lists every way in which the switch can treat a request when all of its
statements succeed: the guard of the branch, the tables it leaves, the response
object it leaves, and the acts it records. `handle_yields` and `process_yields`
are the inversion: a request that is processed cleanly was handled in one of
these ways. Every invariant of Central is derived from `Handled` alone.
-/

namespace EasyCab

open Library

namespace KafkaServer

/-- The update of a case which runs one statement and answers nobody. -/
def silentEffect (now : Timestamp) (request : Message) : SubjRequest → Option (Tables → Tables)
  | .taxiPing => some (Tables.pingTaxi now request.taxiId)
  | .taxiReady => some (Tables.setReady now request.taxiId true)
  | .taxiNotReady => some (Tables.setReady now request.taxiId false)
  | .customerPing => some (Tables.pingCustomer now request.id)
  | .customerUpdateNextRequest => some (Tables.setNextRequest now request.id request.intFromData)
  | .taxiUpdateWaitTime => some (Tables.setWaitTime now request.taxiId request.intFromData)
  | .orderLocationMove => some (Tables.moveLocation request.id request.coord)
  | _ => none

/-- The update of a case which switches a flag of a taxi, and the response it produces. -/
def flagEffect (now : Timestamp) (request : Message) :
    SubjRequest → Option ((Tables → Tables) × SubjResponse)
  | .orderTaxiDisconnect => some (Tables.setConnected now request.taxiId false, .taxiDisconnect)
  | .orderTaxiStop => some (Tables.setStopped now request.taxiId true, .taxiStop)
  | .orderTaxiContinue => some (Tables.setStopped now request.taxiId false, .taxiContinue)
  | _ => none

/-- The coordinate to which a request redirects its taxi. -/
def redirection? (request : Message) : SubjRequest → Option Coordinate
  | .orderTaxiGoTo => some request.coord
  | .orderTaxiReturnToBase => some ⟨0, 0⟩
  | _ => none

/-- The tables after the position of a taxi and of the customer it carries are stored. -/
def movedTables (now : Timestamp) (taxi : TaxiId) (coord : Coordinate) (carried : Option Id)
    (tables : Tables) : Tables :=
  match carried with
  | none => tables.moveTaxi now taxi coord
  | some customer => (tables.moveTaxi now taxi coord).moveCustomer now customer coord

/-- The ways in which the switch treats a request while every statement succeeds. -/
inductive Handled (now : Timestamp) (session : Uuid) (before : KafkaServer) (request : Message)
    (subject : SubjRequest) (after : KafkaServer) (acts : List Act) : Prop where
  /-- A subject without a case. -/
  | ignored (code : UInt32) (undeclared : 20 ≤ code.toNat)
      (kind : subject = .unlisted code undeclared) (db : after.db = before.db)
      (response : after.response = before.response) (recorded : acts = [])
  /-- A taxi arrives and nobody waits. -/
  | arrivedIdle (kind : subject = .newTaxi ∨ subject = .taxiReconnected)
      (empty : before.db.queueHead = none) (db : after.db = before.db)
      (response : after.response = before.response) (recorded : acts = [])
  /-- A taxi arrives and is assigned to the head of the queue. -/
  | arrivedAssigned (customer : Id) (kind : subject = .newTaxi ∨ subject = .taxiReconnected)
      (head : before.db.queueHead = some customer)
      (assigned : Assigned now request.taxiId customer before after acts)
  /-- One update, no response. -/
  | silent (effect : Tables → Tables) (kind : silentEffect now request subject = some effect)
      (db : after.db.toTables = effect before.db.toTables)
      (response : after.response = before.response) (recorded : acts = [])
  /-- A flag of a taxi is switched and the taxi is told. -/
  | flagged (effect : Tables → Tables) (answer : SubjResponse)
      (kind : flagEffect now request subject = some (effect, answer))
      (db : after.db.toTables = effect before.db.toTables)
      (response : after.response =
        { before.response with taxiId := request.taxiId, subject := .response answer })
      (recorded : acts = [.produce after.response])
  /-- A customer is deleted and told. -/
  | deleted (kind : subject = .orderCustomerDisconnect)
      (db : after.db.toTables = before.db.toTables.deleteCustomer request.id)
      (response : after.response =
        { before.response with id := request.id, subject := .response .customerDisconnect })
      (recorded : acts = [.produce after.response])
  /-- A customer is prioritized, which clears its place in the queue, and told. -/
  | prioritized (kind : subject = .orderCustomerPriority)
      (db : after.db.toTables = before.db.toTables.setInQueue now request.id none)
      (response : after.response =
        { before.response with id := request.id, subject := .response .customerPriority })
      (recorded : acts = [.produce after.response])
  /-- A customer identifier which is taken is denied. -/
  | denied (kind : subject = .newCustomer)
      (taken : ∃ row, before.db.customers.lookup request.id = some row) (db : after.db = before.db)
      (response : after.response =
        { before.response with session := request.session, subject := .response .deny })
      (recorded : acts = [.produce after.response])
  /-- A free customer identifier is stored and accepted. -/
  | accepted (kind : subject = .newCustomer)
      (db : before.db.toTables.insertCustomer now request.id request.coord =
        some after.db.toTables)
      (response : after.response =
        { before.response with
          session := request.session, subject := .response .accept }.setUuidData session)
      (recorded : acts = [.produce after.response])
  /-- A taxi reports its position. -/
  | moved (kind : subject = .taxiMove)
      (db : after.db.toTables = movedTables now request.taxiId request.coord
        (before.db.customerIdOf request.taxiId) before.db.toTables)
      (response : after.response = before.response) (recorded : acts = [])
  /-- A carrying taxi arrives, and nobody waits. -/
  | completed (customer : Id) (kind : subject = .taxiDestinationReached)
      (carried : before.db.customerIdOf request.taxiId = some customer)
      (db : after.db.toTables = onboardTables now customer request.taxiId false
        (movedTables now request.taxiId request.coord (some customer) before.db.toTables))
      (empty : before.db.queueHead = none)
      (response : after.response =
        { before.response with
          id := customer, subject := .response .customerServiceCompleted })
      (recorded : acts = [.produce after.response])
  /-- A carrying taxi arrives and is assigned to the head of the queue. -/
  | completedAssigned (customer next : Id) (middle : KafkaServer) (later : List Act)
      (kind : subject = .taxiDestinationReached)
      (carried : before.db.customerIdOf request.taxiId = some customer)
      (db : middle.db.toTables = onboardTables now customer request.taxiId false
        (movedTables now request.taxiId request.coord (some customer) before.db.toTables))
      (head : before.db.queueHead = some next)
      (response : middle.response =
        { before.response with
          id := customer, subject := .response .customerServiceCompleted })
      (assigned : Assigned now request.taxiId next middle after later)
      (recorded : acts = .produce middle.response :: later)
  /-- A taxi which carries nobody arrives for a customer without a destination. -/
  | pickUpDenied (customer : Id) (kind : subject = .taxiDestinationReached)
      (empty : before.db.customerIdOf request.taxiId = none)
      (service : before.db.serviceOf request.taxiId = some customer)
      (nowhere : before.db.destinationOf customer = none)
      (db : after.db.toTables = onboardTables now customer request.taxiId true
        (movedTables now request.taxiId request.coord none before.db.toTables))
      (response : after.response =
        { before.response with id := customer, subject := .response .customerServiceDenied })
      (recorded : acts = [.produce after.response])
  /-- A taxi which carries nobody arrives and takes its customer aboard. -/
  | pickedUp (customer : Id) (coord : Coordinate) (kind : subject = .taxiDestinationReached)
      (empty : before.db.customerIdOf request.taxiId = none)
      (service : before.db.serviceOf request.taxiId = some customer)
      (destination : before.db.destinationOf customer = some coord)
      (db : after.db.toTables = onboardTables now customer request.taxiId true
        (movedTables now request.taxiId request.coord none before.db.toTables))
      (response : after.response =
        { before.response with
          id := customer, taxiId := request.taxiId, coord := coord,
          subject := .response .taxiGoTo })
      (recorded : acts =
        [.produce { before.response with
            id := customer, subject := .response .customerPickedUp },
          .produce after.response])
  /-- A service is requested while no taxi is connected. -/
  | enqueued (kind : subject = .customerServiceRequest) (none : before.db.available = none)
      (db : after.db.toTables = before.db.toTables.setInQueue now request.id (some now))
      (response : after.response =
        { before.response with id := request.id, subject := .response .customerEnqueued })
      (recorded : acts = [.produce after.response])
  /-- A service is requested and the first connected taxi is assigned. -/
  | requestAssigned (taxi : TaxiId) (middle : KafkaServer) (earlier : List Act)
      (kind : subject = .customerServiceRequest) (found : before.db.available = some taxi)
      (db : middle.db.toTables =
        before.db.toTables.setDestination now request.id request.charFromData)
      (response : middle.response = { before.response with id := request.id })
      (assigned : Assigned now taxi request.id middle after earlier)
      (recorded : acts = earlier ++ [.produce after.response])
  /-- The operator redirects a taxi. -/
  | redirected (coord : Coordinate) (kind : redirection? request subject = some coord)
      (db : after.db.toTables = (before.db.toTables.redirectTaxi now request.taxiId coord).landNamesake
        now request.taxiId)
      (response : after.response =
        { before.response with
          taxiId := request.taxiId, coord := coord, subject := .response .taxiGoTo })
      (recorded : acts = [.produce after.response])

variable {now : Timestamp} {session : Uuid} {server : KafkaServer} {request : Message}

/-- A position and a flag `onboard` leave the head of the queue as it is. -/
theorem queueHead_onboardTables {tables : Tables} {customer : Id} {taxi : TaxiId} {val : Bool}
    {coord : Coordinate} {carried : Option Id} :
    (onboardTables now customer taxi val (movedTables now taxi coord carried tables)).queueHead =
      tables.queueHead := by
  have flag (tables : Tables) :
      (tables.setOnboardFlag now customer val).queueHead = tables.queueHead :=
    Tables.queueHead_updateCustomer customer _ _ fun _ => rfl
  have move (tables : Tables) (other : Id) :
      (tables.moveCustomer now other coord).queueHead = tables.queueHead :=
    Tables.queueHead_updateCustomer other _ _ fun _ => rfl
  apply (flag _).trans
  cases carried with
  | none => rfl
  | some other => exact move _ other

/-! ### The cases of the switch, one by one -/

theorem onTaxiArrival_yields {subject : SubjRequest}
    (kind : subject = .newTaxi ∨ subject = .taxiReconnected)
    {outcome : Outcome KafkaServer Act Unit}
    (ran : Yields (onTaxiArrival now request) server outcome) :
    Handled now session server request subject outcome.state outcome.acts := by
  simp only [onTaxiArrival, Yields, Effect.yields_bind] at ran
  obtain ⟨middle, last, checked, continued, rfl⟩ := ran
  obtain ⟨outages, rfl⟩ := checkQueue_yields checked
  cases head : server.db.queueHead with
  | none =>
      simp only [head, Effect.yields_pure] at continued
      subst continued
      exact .arrivedIdle kind head rfl rfl rfl
  | some customer =>
      simp only [head] at continued
      have assigned := assign_yields continued
      exact .arrivedAssigned customer kind head ⟨assigned.tables, assigned.sent, assigned.acts⟩

theorem updateAndRespond_yields {effect : Timestamp → Tables → Tables} {taxi : TaxiId}
    {answer : SubjResponse} {outcome : Outcome KafkaServer Act Unit}
    (ran : Yields (updateAndRespond now (.update effect) taxi answer) server outcome) :
    outcome.state.db.toTables = effect now server.db.toTables ∧
      outcome.state.response =
        { server.response with taxiId := taxi, subject := .response answer } ∧
      outcome.acts = [.produce outcome.state.response] := by
  simp only [updateAndRespond, Yields, Effect.yields_bind] at ran
  obtain ⟨_, _, updated, ⟨_, _, set, responded, rfl⟩, rfl⟩ := ran
  obtain ⟨db, outages, stored, rfl⟩ := run_update_yields updated
  rw [setResponse_yields.mp set] at responded ⊢
  rw [respond_yields.mp responded]
  exact ⟨stored, rfl, rfl⟩

theorem onCustomerDisconnect_yields {outcome : Outcome KafkaServer Act Unit}
    (ran : Yields (onCustomerDisconnect now request) server outcome) :
    Handled now session server request .orderCustomerDisconnect outcome.state outcome.acts := by
  simp only [onCustomerDisconnect, Yields, Effect.yields_bind] at ran
  obtain ⟨_, _, updated, ⟨_, _, set, responded, rfl⟩, rfl⟩ := ran
  obtain ⟨db, outages, stored, rfl⟩ := run_quoting_yields updated
  rw [setResponse_yields.mp set] at responded ⊢
  rw [respond_yields.mp responded]
  exact .deleted rfl stored rfl rfl

theorem onCustomerPriority_yields {outcome : Outcome KafkaServer Act Unit}
    (ran : Yields (onCustomerPriority now request) server outcome) :
    Handled now session server request .orderCustomerPriority outcome.state outcome.acts := by
  simp only [onCustomerPriority, Yields, Effect.yields_bind] at ran
  obtain ⟨_, _, updated, ⟨_, _, set, responded, rfl⟩, rfl⟩ := ran
  obtain ⟨db, outages, stored, rfl⟩ := run_quoting_yields updated
  rw [setResponse_yields.mp set] at responded ⊢
  rw [respond_yields.mp responded]
  exact .prioritized rfl stored rfl rfl

theorem newCustomer_yields {outcome : Outcome KafkaServer Act Unit}
    (ran : Yields (newCustomer now session request) server outcome) :
    Handled now session server request .newCustomer outcome.state outcome.acts := by
  simp only [newCustomer, Yields, Effect.yields_bind] at ran
  obtain ⟨_, _, set, ⟨_, _, queried, continued, rfl⟩, rfl⟩ := ran
  rw [setResponse_yields.mp set] at queried ⊢
  obtain ⟨db, results, outages, all, rfl⟩ := query_yields queried
  simp only [Statement.selectCustomerExists, DbConnectionHandler.runAll_cons,
    Statement.quoting_eq_ok_iff, Statement.select_eq_ok_iff, DbConnectionHandler.runAll_nil] at all
  obtain ⟨_, _, _, ⟨_, rfl, rfl⟩, ⟨rfl, rfl⟩, rfl⟩ := all
  cases found : server.db.customers.lookup request.id with
  | none =>
      simp only [found, Option.toList_none, List.map_nil, Option.toList_some, List.append_nil,
        DbResults.getRow_ofResults, List.headD_nil, List.isEmpty_nil, if_true,
        Effect.yields_bind] at continued
      obtain ⟨_, _, inserted, continued, rfl⟩ := continued
      obtain ⟨db, results, outages, all, rfl⟩ := query_yields inserted
      simp only [Statement.insertCustomer, DbConnectionHandler.runAll_cons,
        Statement.quoting_eq_ok_iff, Statement.insert_eq_ok_iff,
        DbConnectionHandler.runAll_nil] at all
      obtain ⟨_, _, _, ⟨_, stored, _⟩, ⟨rfl, _⟩, _⟩ := all
      simp only [Effect.yields_bind] at continued
      obtain ⟨_, _, set, produced, rfl⟩ := continued
      rw [setResponse_yields.mp set] at produced ⊢
      rw [produce_yields.mp produced]
      exact .accepted rfl stored rfl rfl
  | some row =>
      simp only [found, Option.toList_some, List.map_cons, List.map_nil, List.append_nil,
        DbResults.getRow_ofResults, List.headD_cons, List.isEmpty_cons, Bool.false_eq_true,
        if_false] at continued
      rw [respond_yields.mp continued]
      exact .denied rfl ⟨row, found⟩ rfl rfl rfl

theorem reportPosition_yields {outcome : Outcome KafkaServer Act (Option Id)}
    (ran : Yields (reportPosition now request) server outcome) :
    ∃ db outages,
      db.toTables = movedTables now request.taxiId request.coord
        (server.db.customerIdOf request.taxiId) server.db.toTables ∧
      outcome = ⟨server.db.customerIdOf request.taxiId,
        { server with db := db, outages := outages }, []⟩ := by
  simp only [reportPosition, Yields, Effect.yields_bind, Effect.yields_pure] at ran
  obtain ⟨_, _, carrying, ⟨_, _, moved, rfl, rfl⟩, rfl⟩ := ran
  obtain ⟨_, rfl⟩ := carryingClient_yields carrying
  obtain ⟨db, results, outages, all, rfl⟩ := run_yields moved
  refine ⟨db, outages, ?_, rfl⟩
  cases carried : server.db.customerIdOf request.taxiId with
  | none =>
      simp only [carried, Option.map_none, Option.toList_none, Statement.moveTaxi,
        DbConnectionHandler.runAll_cons, Statement.update_eq_ok_iff,
        DbConnectionHandler.runAll_nil] at all
      obtain ⟨_, _, _, ⟨stored, _⟩, ⟨rfl, _⟩, _⟩ := all
      exact stored
  | some customer =>
      simp only [carried, Option.map_some, Option.toList_some, Statement.moveTaxi,
        Statement.moveCustomer, DbConnectionHandler.runAll_cons, Statement.quoting_eq_ok_iff,
        Statement.update_eq_ok_iff, DbConnectionHandler.runAll_nil] at all
      obtain ⟨_, _, _, ⟨stored, _⟩, ⟨_, _, _, ⟨_, storedToo, _⟩, ⟨rfl, _⟩, _⟩, _⟩ := all
      rw [storedToo, stored]
      rfl

theorem onTaxiMove_yields {outcome : Outcome KafkaServer Act Unit}
    (ran : Yields (onTaxiMove now request) server outcome) :
    Handled now session server request .taxiMove outcome.state outcome.acts := by
  simp only [onTaxiMove, Yields, Effect.yields_bind, Effect.yields_pure] at ran
  obtain ⟨_, _, reported, rfl, rfl⟩ := ran
  obtain ⟨db, outages, stored, rfl⟩ := reportPosition_yields reported
  exact .moved rfl stored rfl rfl

/-- The completion branch, from the server which has stored the reported position. -/
theorem completeService_yields {customer : Id} {reached : Db} {outages : List Bool}
    (carried : server.db.customerIdOf request.taxiId = some customer)
    (reported : reached.toTables = movedTables now request.taxiId request.coord (some customer)
      server.db.toTables)
    {outcome : Outcome KafkaServer Act Unit}
    (ran : Yields (completeService now request customer)
      { server with db := reached, outages := outages } outcome) :
    Handled now session server request .taxiDestinationReached outcome.state outcome.acts := by
  simp only [completeService, Yields, Effect.yields_bind] at ran
  obtain ⟨_, _, landed, ⟨_, _, set, ⟨_, _, responded, ⟨_, _, checked, continued, rfl⟩, rfl⟩, rfl⟩,
    rfl⟩ := ran
  obtain ⟨db, _, stored, rfl⟩ := setOnboard_yields landed
  rw [setResponse_yields.mp set] at responded ⊢
  rw [respond_yields.mp responded] at checked ⊢
  obtain ⟨_, rfl⟩ := checkQueue_yields checked
  rw [reported] at stored
  have sameHead : db.queueHead = server.db.queueHead := by
    rw [stored, queueHead_onboardTables]
  cases head : server.db.queueHead with
  | none =>
      simp only [sameHead, head, Effect.yields_pure] at continued
      subst continued
      exact .completed customer rfl carried stored head rfl rfl
  | some next =>
      simp only [sameHead, head] at continued
      have assigned := assign_yields continued
      exact .completedAssigned customer next _ _ rfl carried stored head rfl assigned (by simp)

/-- The pick-up branch, from the server which has stored the reported position. -/
theorem pickUp_yields {reached : Db} {outages : List Bool}
    (empty : server.db.customerIdOf request.taxiId = none)
    (reported : reached.toTables = movedTables now request.taxiId request.coord none
      server.db.toTables)
    {outcome : Outcome KafkaServer Act Unit}
    (ran : Yields (pickUp now request) { server with db := reached, outages := outages } outcome) :
    Handled now session server request .taxiDestinationReached outcome.state outcome.acts := by
  have moved : reached.trips = server.db.trips.moveTaxi request.taxiId request.coord := by
    rw [reported]
    exact Tables.trips_moveTaxi _ _
  have sameService : reached.serviceOf request.taxiId = server.db.serviceOf request.taxiId :=
    congrFun (congrArg Trips.service moved) _
  simp only [pickUp, Yields, Effect.yields_bind, Effect.yields_demand] at ran
  obtain ⟨_, _, asked, ⟨_, _, ⟨customer, found, rfl⟩, ⟨_, _, located, ⟨_, _, boarded,
    ⟨_, _, set, continued, rfl⟩, rfl⟩, rfl⟩, rfl⟩, rfl⟩ := ran
  obtain ⟨_, rfl⟩ := getService_yields asked
  obtain ⟨_, rfl⟩ := getDestination_yields located
  obtain ⟨db, _, stored, rfl⟩ := setOnboard_yields boarded
  rw [setResponse_yields.mp set] at continued ⊢
  rw [reported] at stored
  have service : server.db.serviceOf request.taxiId = some customer := by
    rw [← sameService]
    cases known : reached.serviceOf request.taxiId with
    | none => simp [known] at found
    | some other => simpa [known] using found
  have sameDestination : reached.destinationOf customer = server.db.destinationOf customer := by
    rw [Tables.destinationOf_eq, Tables.destinationOf_eq, moved]
    rfl
  rw [sameDestination] at continued
  cases destination : server.db.destinationOf customer with
  | none =>
      simp only [destination] at continued
      rw [respond_yields.mp continued]
      exact .pickUpDenied customer rfl empty service destination stored rfl (by simp)
  | some coord =>
      simp only [destination, Effect.yields_bind] at continued
      obtain ⟨_, _, boarding, ⟨_, _, setTaxi, ⟨_, _, setCoord, sent, rfl⟩, rfl⟩, rfl⟩ := continued
      rw [respond_yields.mp boarding] at setTaxi ⊢
      rw [setResponse_yields.mp setTaxi] at setCoord ⊢
      rw [setResponse_yields.mp setCoord] at sent ⊢
      rw [respond_yields.mp sent]
      exact .pickedUp customer coord rfl empty service destination stored rfl (by simp)

theorem onDestinationReached_yields {outcome : Outcome KafkaServer Act Unit}
    (ran : Yields (onDestinationReached now request) server outcome) :
    Handled now session server request .taxiDestinationReached outcome.state outcome.acts := by
  simp only [onDestinationReached, Yields, Effect.yields_bind] at ran
  obtain ⟨_, last, reported, continued, rfl⟩ := ran
  obtain ⟨db, outages, stored, rfl⟩ := reportPosition_yields reported
  cases carried : server.db.customerIdOf request.taxiId with
  | none =>
      simp only [carried] at continued stored
      exact pickUp_yields carried stored continued
  | some customer =>
      simp only [carried] at continued stored
      exact completeService_yields carried stored continued

theorem onServiceRequest_yields {outcome : Outcome KafkaServer Act Unit}
    (ran : Yields (onServiceRequest now request) server outcome) :
    Handled now session server request .customerServiceRequest outcome.state outcome.acts := by
  simp only [onServiceRequest, Yields, Effect.yields_bind] at ran
  obtain ⟨_, _, checked, ⟨_, _, set, continued, rfl⟩, rfl⟩ := ran
  obtain ⟨_, rfl⟩ := checkAvailableTaxis_yields checked
  rw [setResponse_yields.mp set] at continued ⊢
  cases found : server.db.available with
  | none =>
      simp only [found, enqueue, Effect.yields_bind] at continued
      obtain ⟨_, _, queued, responded, rfl⟩ := continued
      obtain ⟨db, _, stored, rfl⟩ := run_quoting_yields queued
      rw [respond_yields.mp responded]
      exact .enqueued rfl found stored rfl (by simp)
  | some taxi =>
      simp only [found, Effect.yields_bind] at continued
      obtain ⟨_, _, named, continued, rfl⟩ := continued
      obtain ⟨db, _, stored, rfl⟩ := setDestination_yields named
      simp only [if_true, Effect.yields_bind] at continued
      obtain ⟨_, _, assigned, produced, rfl⟩ := continued
      rw [produce_yields.mp produced]
      have sent := assign_yields assigned
      exact .requestAssigned taxi _ _ rfl found stored rfl sent (by simp)

theorem onTaxiGoTo_yields {coord : Coordinate} {subject : SubjRequest}
    (kind : redirection? request subject = some coord) {outcome : Outcome KafkaServer Act Unit}
    (ran : Yields (onTaxiGoTo now { request with coord := coord }) server outcome) :
    Handled now session server request subject outcome.state outcome.acts := by
  simp only [onTaxiGoTo, Yields, Effect.yields_bind] at ran
  obtain ⟨_, _, redirected, ⟨_, _, set, responded, rfl⟩, rfl⟩ := ran
  obtain ⟨db, results, _, all, rfl⟩ := run_yields redirected
  simp only [Statement.redirectTaxi, Statement.landNamesake, DbConnectionHandler.runAll_cons,
    Statement.update_eq_ok_iff, DbConnectionHandler.runAll_nil] at all
  obtain ⟨_, _, _, ⟨stored, _⟩, ⟨_, _, _, ⟨landed, _⟩, ⟨rfl, _⟩, _⟩, _⟩ := all
  rw [setResponse_yields.mp set] at responded ⊢
  rw [respond_yields.mp responded]
  rw [stored] at landed
  exact .redirected coord kind landed rfl (by simp)

/-! ### The switch -/

/-- A case which runs one update and answers nobody is one of those listed. -/
theorem silent_yields {subject : SubjRequest} {effect : Timestamp → Tables → Tables}
    (kind : silentEffect now request subject = some (effect now))
    {outcome : Outcome KafkaServer Act Unit}
    (ran : Yields (run now [.update effect]) server outcome) :
    Handled now session server request subject outcome.state outcome.acts := by
  obtain ⟨db, outages, stored, rfl⟩ := run_update_yields ran
  exact .silent (effect now) kind stored rfl rfl

/-- A case which runs one update whose text quotes characters and answers nobody is one of those
listed. -/
theorem silent_quoting_yields {subject : SubjRequest} {effect : Timestamp → Tables → Tables}
    {chars : List Id} (kind : silentEffect now request subject = some (effect now))
    {outcome : Outcome KafkaServer Act Unit}
    (ran : Yields (run now [.quoting chars (.update effect)]) server outcome) :
    Handled now session server request subject outcome.state outcome.acts := by
  obtain ⟨db, outages, stored, rfl⟩ := run_quoting_yields ran
  exact .silent (effect now) kind stored rfl rfl

/-- A case which switches a flag of a taxi and answers it is one of those listed. -/
theorem flagged_yields {subject : SubjRequest} {effect : Timestamp → Tables → Tables}
    {answer : SubjResponse}
    (kind : flagEffect now request subject = some (effect now, answer))
    {outcome : Outcome KafkaServer Act Unit}
    (ran : Yields (updateAndRespond now (.update effect) request.taxiId answer) server outcome) :
    Handled now session server request subject outcome.state outcome.acts := by
  obtain ⟨stored, response, recorded⟩ := updateAndRespond_yields ran
  exact .flagged (effect now) answer kind stored response recorded

/-- Every case of the switch treats its request in one of the listed ways. -/
theorem handle_yields {subject : SubjRequest} {outcome : Outcome KafkaServer Act Bool}
    (ran : Yields (handle now session subject request) server outcome) :
    Handled now session server request subject outcome.state outcome.acts := by
  cases subject <;> simp only [handle, Yields, Effect.yields_bind, Effect.yields_pure] at ran
  case unlisted code undeclared =>
    subst ran
    exact .ignored code undeclared rfl rfl rfl rfl
  all_goals
    obtain ⟨_, _, ran, rfl, rfl⟩ := ran
    rw [List.append_nil]
  case orderTaxiGoTo => exact onTaxiGoTo_yields rfl ran
  case orderTaxiReturnToBase => exact onTaxiGoTo_yields rfl ran
  case orderTaxiStop => exact flagged_yields rfl ran
  case orderTaxiContinue => exact flagged_yields rfl ran
  case orderTaxiDisconnect => exact flagged_yields rfl ran
  case orderCustomerDisconnect => exact onCustomerDisconnect_yields ran
  case orderCustomerPriority => exact onCustomerPriority_yields ran
  case orderLocationMove => exact silent_quoting_yields rfl ran
  case newTaxi => exact onTaxiArrival_yields (.inl rfl) ran
  case taxiReconnected => exact onTaxiArrival_yields (.inr rfl) ran
  case taxiReady => exact silent_yields rfl ran
  case taxiNotReady => exact silent_yields rfl ran
  case taxiUpdateWaitTime => exact silent_yields rfl ran
  case taxiMove => exact onTaxiMove_yields ran
  case taxiDestinationReached => exact onDestinationReached_yields ran
  case taxiPing => exact silent_yields rfl ran
  case newCustomer => exact newCustomer_yields ran
  case customerPing => exact silent_quoting_yields rfl ran
  case customerServiceRequest => exact onServiceRequest_yields ran
  case customerUpdateNextRequest => exact silent_quoting_yields rfl ran

/-- A message which the loop drops leaves the server as it was. -/
theorem process_dropped {outcome : Outcome KafkaServer Act Unit}
    (dropped : accepted? session request = none)
    (ran : process now session request server = .ok outcome) : outcome = ⟨(), server, []⟩ := by
  simpa [process, dropped] using ran

/-- A message which the loop accepts is treated in one of the listed ways, and then at
most a map is published. -/
theorem process_yields {subject : SubjRequest} {outcome : Outcome KafkaServer Act Unit}
    (accepted : accepted? session request = some subject)
    (ran : Yields (process now session request) server outcome) :
    ∃ handled acts maps outages, Handled now session server request subject handled acts ∧
      outcome = ⟨(), { handled with outages := outages },
        .handled request :: (acts ++ List.map Act.publishMap maps)⟩ := by
  simp only [process, accepted, Yields, Effect.yields_bind, Effect.yields_record] at ran
  obtain ⟨_, _, ⟨_, rfl⟩, ⟨⟨refresh, handled, acts⟩, last, switched, refreshed, rfl⟩, rfl⟩ := ran
  have treated := handle_yields switched
  cases refresh with
  | false =>
      simp only [Bool.false_eq_true, if_false, Effect.yields_pure] at refreshed
      subst refreshed
      exact ⟨handled, acts, [], handled.outages, treated, by simp⟩
  | true =>
      simp only [if_true] at refreshed
      obtain ⟨outages, map, rfl⟩ := refreshMap_yields refreshed
      exact ⟨handled, acts, [map], outages, treated, by simp⟩

end KafkaServer

end EasyCab
