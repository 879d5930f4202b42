import EasyCab.Central.Departure

/-!
# The rows a taxi request touches

A request about a taxi writes to the row of this taxi, and to the rows of the customers whom the
taxi carries or serves: `Tables.Frame` says that everything else stays, and every statement of
such a request keeps it, whatever fails on the way. One statement is different.
`ORDER_TAXI_GO_TO` and `ORDER_TAXI_RETURN_TO_BASE` clear the flag of the customer whose
identifier spells the taxi, whoever that is.
-/

namespace EasyCab

open Library

/-! ### Frames -/

/-- The rows of other taxis, and of customers who are not the taxi's own, are as before. -/
structure Tables.Frame (taxi : TaxiId) (own : Id → Prop) (before after : Tables) : Prop where
  taxis : ∀ other, other ≠ taxi → after.taxis.lookup other = before.taxis.lookup other
  customers : ∀ customer, ¬ own customer →
    after.customers.lookup customer = before.customers.lookup customer

namespace Tables.Frame

variable {taxi : TaxiId} {own : Id → Prop} {before after : Tables} {now : Timestamp}

theorem refl (tables : Tables) : Frame taxi own tables tables :=
  ⟨fun _ _ => rfl, fun _ _ => rfl⟩

/-- The row of the taxi itself may change. -/
theorem updateTaxi (frame : Frame taxi own before after) {update : TaxiRow → TaxiRow}
    {keeps : ∀ row, (update row).id = row.id} :
    Frame taxi own before (after.updateTaxi now taxi update keeps) where
  taxis other different := by
    rw [Tables.updateTaxi, Table.lookup_modify, if_neg different]
    exact frame.taxis other different
  customers := frame.customers

/-- The row of an own customer may change. -/
theorem updateCustomer (frame : Frame taxi own before after) {mine : Id} (owned : own mine)
    {update : CustomerRow → CustomerRow} {keeps : ∀ row, (update row).id = row.id} :
    Frame taxi own before (after.updateCustomer now mine update keeps) where
  taxis := frame.taxis
  customers customer foreign := by
    have different : customer ≠ mine := by
      rintro rfl
      exact foreign owned
    rw [Tables.updateCustomer, Table.lookup_modify, if_neg different]
    exact frame.customers customer foreign

/-- A taxi takes the position of its new customer, whose row stays. -/
theorem assignTaxi (frame : Frame taxi own before after) (customer : Id) :
    Frame taxi own before (after.assignTaxi now taxi customer) := by
  unfold Tables.assignTaxi
  cases after.customers.lookup customer with
  | none => exact frame
  | some found => exact frame.updateTaxi

/-- A flag which is already cleared is not written. -/
theorem landNamesake (frame : Frame taxi own before after)
    (harmless : ∀ customer ∈ charOfTaxiId? taxi, ¬ own customer →
      ∀ row ∈ before.customers.lookup customer, row.onboard = false) :
    Frame taxi own before (after.landNamesake now taxi) := by
  unfold Tables.landNamesake
  cases spelled : charOfTaxiId? taxi with
  | none => exact frame
  | some namesake =>
      by_cases owned : own namesake
      · exact frame.updateCustomer owned
      · refine ⟨frame.taxis, fun customer foreign => ?_⟩
        have same := frame.customers customer foreign
        simp only [setOnboardFlag, Tables.updateCustomer, Table.lookup_modify]
        by_cases spells : customer = namesake
        · subst spells
          rw [if_pos rfl, same]
          cases found : before.customers.lookup customer with
          | none => rfl
          | some row =>
              have cleared : ({ row with onboard := false } : CustomerRow) = row := by
                rw [← harmless customer spelled owned row found]
              rw [Option.map_some, CustomerRow.stamped, if_pos cleared]
        · rw [if_neg spells, same]

end Tables.Frame

/-- The taxi carries the customer, or serves it. -/
def Tables.Owns (tables : Tables) (taxi : TaxiId) (customer : Id) : Prop :=
  tables.customerIdOf taxi = some customer ∨ tables.serviceOf taxi = some customer

namespace KafkaServer

/-! ### Statements and helpers -/

section Frame

variable {now : Timestamp} {session : Uuid} {request : Message} {taxi : TaxiId}
  {own : Id → Prop} {before : Tables}

/-- What a handler of a taxi request keeps. It may write anything to `response`. -/
abbrev Framed (taxi : TaxiId) (own : Id → Prop) (before : Tables) (db : Db) (_ : Message) : Prop :=
  Tables.Frame taxi own before db.toTables

/-- A computation which leaves the frame as it is, whatever fails. -/
abbrev KeepsFrame {Value : Type} (taxi : TaxiId) (own : Id → Prop) (before : Tables)
    (handler : Handler Value) : Prop :=
  Maintains (Framed taxi own before) (fun _ => True) handler

theorem updateTaxi_frame {update : Timestamp → TaxiRow → TaxiRow}
    {keeps : ∀ now row, (update now row).id = row.id} (response : Message) :
    (Statement.update fun now tables => tables.updateTaxi now taxi (update now) (keeps now)).Maintains
      (Framed taxi own before · response) := by
  refine Statement.maintains_update fun now db next stored frame => ?_
  simp only [Framed, stored]
  exact frame.updateTaxi

theorem updateCustomer_frame {mine : Id} (owned : own mine)
    {update : Timestamp → CustomerRow → CustomerRow}
    {keeps : ∀ now row, (update now row).id = row.id} (response : Message) :
    (Statement.quoting [mine] (.update fun now tables =>
      tables.updateCustomer now mine (update now) (keeps now))).Maintains
      (Framed taxi own before · response) := by
  refine Statement.maintains_quoting fun _ => Statement.maintains_update
    fun now db next stored frame => ?_
  simp only [Framed, stored]
  exact frame.updateCustomer owned

theorem setResponse_frame {update : Message → Message} :
    KeepsFrame taxi own before (setResponse update) :=
  setResponse_maintains fun _ _ frame => frame

theorem respond_frame {answer : SubjResponse} : KeepsFrame taxi own before (respond answer) := by
  intro server frame
  exact .modify_bind frame (produce_stays frame trivial)

theorem assign_frame {customer : Id} : KeepsFrame taxi own before (assign now taxi customer) := by
  refine (Effect.maintains_record trivial).bind fun _ => (query_maintains ?_).bind fun answer =>
    Effect.maintains_demand.bind fun results => Effect.maintains_demand.bind fun x =>
    Effect.maintains_demand.bind fun y => setResponse_frame.bind fun _ =>
    respond_frame.bind fun _ => respond_frame
  have assigned (response : Message) :
      (Statement.assignTaxi taxi customer).Maintains (Framed taxi own before · response) := by
    refine Statement.maintains_quoting fun _ => Statement.maintains_update
      fun now db next stored frame => ?_
    simp only [Framed, stored]
    exact frame.assignTaxi customer
  simpa [Statement.selectDest] using ⟨assigned, select_keeps _⟩

theorem setOnboard_frame {customer : Id} (owned : own customer) {val : Bool} :
    KeepsFrame taxi own before (setOnboard now customer taxi val) := by
  apply run_maintains
  have flagged (response : Message) : (Statement.setOnboardFlag customer val).Maintains
      (Framed taxi own before · response) := updateCustomer_frame owned response
  have carried (response : Message) :
      (Statement.setCustomerId taxi (if val then some customer else none)).Maintains
        (Framed taxi own before · response) :=
    Statement.maintains_quoting fun _ => updateTaxi_frame response
  simpa using ⟨flagged, carried⟩

/-! ### The cases of the switch -/

theorem updateAndRespond_frame {update : Timestamp → TaxiRow → TaxiRow}
    {keeps : ∀ now row, (update now row).id = row.id} {answer : SubjResponse} :
    KeepsFrame taxi own before (updateAndRespond now (.update fun now tables =>
      tables.updateTaxi now taxi (update now) (keeps now)) taxi answer) := by
  refine (run_maintains ?_).bind fun _ => setResponse_frame.bind fun _ => respond_frame
  simpa using updateTaxi_frame

theorem runTaxi_frame {update : Timestamp → TaxiRow → TaxiRow}
    {keeps : ∀ now row, (update now row).id = row.id} :
    KeepsFrame taxi own before (run now [.update fun now tables =>
      tables.updateTaxi now taxi (update now) (keeps now)]) := by
  apply run_maintains
  simpa using updateTaxi_frame

theorem onTaxiArrival_frame : KeepsFrame request.taxiId own before (onTaxiArrival now request) := by
  refine checkQueue_maintains.bind fun found => ?_
  cases found with
  | none => exact Effect.maintains_pure
  | some customer => exact assign_frame

theorem completeService_frame {customer : Id} (owned : own customer) :
    KeepsFrame request.taxiId own before (completeService now request customer) := by
  refine (setOnboard_frame owned).bind fun _ => setResponse_frame.bind fun _ =>
    respond_frame.bind fun _ => checkQueue_maintains.bind fun found => ?_
  cases found with
  | none => exact Effect.maintains_pure
  | some customer => exact assign_frame

/-- The flag which is cleared is one of an own customer, or is cleared already. -/
theorem onTaxiGoTo_frame (harmless : ∀ customer ∈ Tables.charOfTaxiId? request.taxiId,
      ¬ own customer → ∀ row ∈ before.customers.lookup customer, row.onboard = false) :
    KeepsFrame request.taxiId own before (onTaxiGoTo now request) := by
  refine (run_maintains ?_).bind fun _ => setResponse_frame.bind fun _ => respond_frame
  have redirected (response : Message) :
      (Statement.redirectTaxi request.taxiId request.coord).Maintains
        (Framed request.taxiId own before · response) := updateTaxi_frame response
  have landed (response : Message) : (Statement.landNamesake request.taxiId).Maintains
      (Framed request.taxiId own before · response) := by
    refine Statement.maintains_update fun now db next stored frame => ?_
    simp only [Framed, stored]
    exact frame.landNamesake harmless
  simpa using ⟨redirected, landed⟩

/-! ### What a taxi carries and serves

These cases read whom the taxi carries and serves before they write to the rows of customers. -/

/-- A position is written to the taxi and to whom it carries, and its service stays. -/
abbrev Followed (taxi : TaxiId) (before : Tables) (db : Db) (_ : Message) : Prop :=
  Tables.Frame taxi (before.Owns taxi) before db.toTables ∧
    db.serviceOf taxi = before.serviceOf taxi

theorem moveTaxi_followed {coord : Coordinate} (response : Message) :
    (Statement.moveTaxi taxi coord).Maintains (Followed taxi before · response) := by
  refine Statement.maintains_update fun now db next stored followed => ?_
  simp only [Followed, stored]
  exact ⟨followed.1.updateTaxi, Tables.serviceOf_moveTaxi.trans followed.2⟩

theorem moveCustomer_followed {customer : Id} (owned : before.Owns taxi customer)
    {coord : Coordinate} (response : Message) :
    (Statement.moveCustomer customer coord).Maintains (Followed taxi before · response) := by
  refine Statement.maintains_quoting fun _ => Statement.maintains_update
    fun now db next stored followed => ?_
  simp only [Followed, stored]
  exact ⟨followed.1.updateCustomer owned, followed.2⟩

theorem reportPosition_followed {server : KafkaServer} :
    Stays (Followed request.taxiId server.db.toTables) (fun _ => True)
      (reportPosition now request) server := by
  have start : Followed request.taxiId server.db.toTables server.db server.response :=
    ⟨.refl _, rfl⟩
  refine (firstChar_maintains server start).bind_of fun outcome ran followed => ?_
  refine ((run_maintains ?_).bind fun _ => Effect.maintains_pure : Maintains _ _ _)
    outcome.state followed
  cases carried : outcome.value with
  | none => simpa using moveTaxi_followed
  | some customer =>
      have owned : server.db.Owns request.taxiId customer :=
        .inl ((firstChar_answers ran).2 customer carried)
      simpa using ⟨moveTaxi_followed, moveCustomer_followed owned⟩

/-- The carried customer is answered, if anybody is. -/
theorem reportPosition_answers {server : KafkaServer} {outcome : Outcome KafkaServer Act (Option Id)}
    (ran : reportPosition now request server = .ok outcome) :
    ∀ customer ∈ outcome.value, server.db.customerIdOf request.taxiId = some customer := by
  obtain ⟨middle, last, read, continued, rfl⟩ := Effect.bind_eq_ok_iff.mp ran
  obtain ⟨_, _, _, returned, rfl⟩ := Effect.bind_eq_ok_iff.mp continued
  cases returned
  exact (firstChar_answers read).2

/-- Whom the taxi serves is taken aboard. -/
theorem pickUp_frame {server : KafkaServer}
    (frame : Tables.Frame request.taxiId (before.Owns request.taxiId) before server.db.toTables)
    (service : server.db.serviceOf request.taxiId = before.serviceOf request.taxiId) :
    Stays (Framed request.taxiId (before.Owns request.taxiId) before) (fun _ => True)
      (pickUp now request) server := by
  refine (firstChar_maintains server frame).bind_of fun outcome ran frame' =>
    .demand_bind frame' fun customer taken => ?_
  have owned : before.Owns request.taxiId customer := by
    refine .inr (service.symm.trans ((firstChar_answers ran).2 customer ?_))
    cases read : outcome.value with
    | none => rw [read] at taken; cases taken
    | some other => rw [read] at taken; cases taken; rfl
  refine (getDestination_maintains.bind fun coord => (setOnboard_frame owned).bind fun _ =>
    setResponse_frame.bind fun _ => ?_ : KeepsFrame _ _ _ _) outcome.state frame'
  cases coord with
  | none => exact respond_frame
  | some coord =>
      exact respond_frame.bind fun _ => setResponse_frame.bind fun _ =>
        setResponse_frame.bind fun _ => respond_frame

theorem onDestinationReached_frame {server : KafkaServer} :
    Stays (Framed request.taxiId (server.db.Owns request.taxiId) server.db.toTables) (fun _ => True)
      (onDestinationReached now request) server := by
  refine reportPosition_followed.bind_into (fun _ followed => followed.1)
    fun outcome ran followed => ?_
  cases carried : outcome.value with
  | none => exact pickUp_frame followed.1 followed.2
  | some customer =>
      have owned : server.db.Owns request.taxiId customer :=
        .inl (reportPosition_answers ran customer carried)
      exact completeService_frame owned outcome.state followed.1

/-! ### Whole requests -/

/-- The subjects of the requests about a taxi. -/
def aboutTaxi : SubjRequest → Bool
  | .taxiReconnected | .newTaxi | .orderTaxiDisconnect | .taxiPing | .taxiDestinationReached
  | .taxiMove | .taxiReady | .taxiNotReady | .taxiUpdateWaitTime | .orderTaxiReturnToBase
  | .orderTaxiGoTo | .orderTaxiStop | .orderTaxiContinue => true
  | _ => false

/-- The request redirects a taxi whose namesake is aboard somewhere, and which neither carries nor
serves its namesake. -/
def LandsStranger (request : Message) (tables : Tables) : Prop :=
  (request.subject = .request .orderTaxiGoTo ∨ request.subject = .request .orderTaxiReturnToBase) ∧
    ∃ customer row, Tables.charOfTaxiId? request.taxiId = some customer ∧
      tables.customers.lookup customer = some row ∧ row.onboard = true ∧
      ¬ tables.Owns request.taxiId customer

/-- A redirection which lands no stranger clears a flag of an own customer, or one which is cleared
already. -/
theorem harmless_of_not_landsStranger {tables : Tables}
    (redirects : request.subject = .request .orderTaxiGoTo ∨
      request.subject = .request .orderTaxiReturnToBase)
    (gentle : ¬ LandsStranger request tables) :
    ∀ customer ∈ Tables.charOfTaxiId? request.taxiId, ¬ tables.Owns request.taxiId customer →
      ∀ row ∈ tables.customers.lookup customer, row.onboard = false := by
  intro customer spelled foreign row stored
  rw [Bool.eq_false_iff]
  intro aboard
  exact gentle ⟨redirects, customer, row, spelled, stored, aboard, foreign⟩

/-- The switch keeps the frame of a taxi, unless it lands a stranger. -/
theorem handle_frame {server : KafkaServer} {subject : SubjRequest}
    (asked : request.subject = .request subject) (about : aboutTaxi subject = true)
    (gentle : ¬ LandsStranger request server.db.toTables) :
    Stays (Framed request.taxiId (server.db.Owns request.taxiId) server.db.toTables) (fun _ => True)
      (handle now session subject request) server := by
  have start : Framed request.taxiId (server.db.Owns request.taxiId) server.db.toTables server.db
      server.response := .refl _
  cases subject with
  | taxiReconnected | newTaxi =>
      exact (onTaxiArrival_frame.bind fun _ => Effect.maintains_pure) server start
  | taxiDestinationReached =>
      exact onDestinationReached_frame.bind fun _ => Effect.maintains_pure
  | taxiMove =>
      refine Effect.Stays.bind ?_ fun _ => Effect.maintains_pure
      exact reportPosition_followed.bind_into (fun _ followed => followed.1)
        fun outcome _ followed => Effect.maintains_pure outcome.state followed.1
  | orderTaxiDisconnect | orderTaxiStop | orderTaxiContinue =>
      exact (updateAndRespond_frame.bind fun _ => Effect.maintains_pure) server start
  | taxiPing | taxiReady | taxiNotReady | taxiUpdateWaitTime =>
      exact (runTaxi_frame.bind fun _ => Effect.maintains_pure) server start
  | orderTaxiGoTo =>
      have harmless := harmless_of_not_landsStranger (.inl asked) gentle
      exact ((onTaxiGoTo_frame harmless).bind fun _ => Effect.maintains_pure) server start
  | orderTaxiReturnToBase =>
      have harmless := harmless_of_not_landsStranger (.inr asked) gentle
      exact ((@onTaxiGoTo_frame now { request with coord := ⟨0, 0⟩ } _ _ harmless).bind
        fun _ => Effect.maintains_pure) server start
  | _ => cases about

/-- Consuming a message about a taxi keeps the frame of that taxi, unless it lands a stranger. -/
theorem process_frame {server : KafkaServer} {subject : SubjRequest}
    (asked : request.subject = .request subject) (about : aboutTaxi subject = true)
    (gentle : ¬ LandsStranger request server.db.toTables) :
    Tables.Frame request.taxiId (server.db.Owns request.taxiId) server.db.toTables
      ((process now session request).last server).db.toTables := by
  suffices stays : Stays (Framed request.taxiId (server.db.Owns request.taxiId) server.db.toTables)
      (fun _ => True) (process now session request) server from stays.holds.1
  cases accepted : accepted? session request with
  | none =>
      simp only [process, accepted]
      exact Effect.maintains_pure server (.refl _)
  | some treated =>
      have same := subject_of_accepted accepted
      rw [asked] at same
      cases same
      simp only [process, accepted]
      refine .record_bind trivial ((handle_frame asked about gentle).bind fun refresh => ?_)
      cases refresh with
      | true => exact refreshMap_maintains
      | false => exact Effect.maintains_pure

/-- A redirection without failures leaves the redirected tables, and assigns nobody. -/
theorem process_redirected {server : KafkaServer}
    (redirects : request.subject = .request .orderTaxiGoTo ∨
      request.subject = .request .orderTaxiReturnToBase)
    (clean : ∀ act ∈ (process now session request).acts server, ¬ act.IsFailure) :
    (∃ coord, ((process now session request).last server).db.toTables =
      (server.db.toTables.redirectTaxi now request.taxiId coord).landNamesake now request.taxiId) ∧
      ∀ taxi customer, .assign taxi customer ∉ (process now session request).acts server := by
  obtain ⟨subject, coord, accepted, kind⟩ : ∃ subject coord,
      accepted? session request = some subject ∧ redirection? request subject = some coord := by
    rcases redirects with asked | asked
    · exact ⟨.orderTaxiGoTo, _, by simp [accepted?, asked, greenList], rfl⟩
    · exact ⟨.orderTaxiReturnToBase, _, by simp [accepted?, asked, greenList], rfl⟩
  obtain ⟨handled, ran⟩ : ∃ handled, handle now session subject request server = .ok handled := by
    cases subject <;> cases kind <;> exact ⟨_, rfl⟩
  obtain ⟨outcome, processed, _⟩ := process_of_handle accepted ran
  obtain ⟨last, acts⟩ := Effect.last_of_ok processed
  rw [acts] at clean
  rw [last, acts]
  obtain ⟨after, answers, maps, outages, treated, rfl⟩ := process_yields accepted ⟨processed, clean⟩
  cases treated with
  | redirected other kind db response recorded =>
      subst recorded
      exact ⟨⟨other, db⟩, by simp⟩
  | arrivedIdle other | arrivedAssigned _ other =>
      rcases other with rfl | rfl <;> cases kind
  | silent effect other | flagged effect answer other =>
      cases subject <;> cases kind <;> cases other
  | ignored code undeclared other => subst other; cases kind
  | _ => simp_all [redirection?]

/-- Clearing the flag of a customer who is aboard changes its row. -/
theorem landNamesake_changes {tables : Tables} {customer : Id} {row : CustomerRow}
    (spelled : Tables.charOfTaxiId? taxi = some customer)
    (stored : tables.customers.lookup customer = some row) (aboard : row.onboard = true) :
    (tables.landNamesake now taxi).customers.lookup customer ≠ tables.customers.lookup customer := by
  simp only [Tables.landNamesake, spelled, Tables.setOnboardFlag, Tables.updateCustomer,
    Table.lookup_modify, if_true, stored, Option.map_some]
  intro same
  have flag := congrArg CustomerRow.onboard (Option.some.inj same)
  rw [CustomerRow.stamped_onboard, aboard] at flag
  cases flag

end Frame

end KafkaServer

/-- A request about a taxi whose statements succeed touches the row of no other taxi, and the rows
only of customers whom the taxi carries, serves or is assigned to, exactly unless it redirects
a taxi whose namesake is aboard and none of its own customers. -/
theorem taxi_request_touches_own_iff (now : Timestamp) (session : Uuid) (request : Message)
    (server : KafkaServer) (subject : SubjRequest) (asked : request.subject = .request subject)
    (about : KafkaServer.aboutTaxi subject = true)
    (succeeds : ∀ act ∈ (KafkaServer.process now session request).acts server, ¬ act.IsFailure) :
    ((∀ other, other ≠ request.taxiId →
        ((KafkaServer.process now session request).last server).db.taxis.lookup other =
          server.db.taxis.lookup other) ∧
      ∀ customer, ((KafkaServer.process now session request).last server).db.customers.lookup
          customer ≠ server.db.customers.lookup customer →
        server.db.customerIdOf request.taxiId = some customer ∨
          server.db.serviceOf request.taxiId = some customer ∨
          .assign request.taxiId customer ∈ (KafkaServer.process now session request).acts server) ↔
      ¬ KafkaServer.LandsStranger request server.db.toTables := by
  constructor
  · rintro ⟨_, touched⟩ ⟨redirects, customer, row, spelled, stored, aboard, foreign⟩
    obtain ⟨⟨coord, tables⟩, nobody⟩ := KafkaServer.process_redirected redirects succeeds
    have changed := @KafkaServer.landNamesake_changes now request.taxiId
      (server.db.toTables.redirectTaxi now request.taxiId coord) customer row spelled stored aboard
    rcases touched customer (by rw [tables]; exact changed) with carried | served | assigned
    · exact foreign (.inl carried)
    · exact foreign (.inr served)
    · exact nobody _ _ assigned
  · intro gentle
    have frame := @KafkaServer.process_frame now session request server subject asked about gentle
    refine ⟨frame.taxis, fun customer changed => ?_⟩
    have owned : server.db.Owns request.taxiId customer := by
      by_contra foreign
      exact changed (frame.customers customer foreign)
    rcases owned with carried | served
    · exact .inl carried
    · exact .inr (.inl served)

/-- The customer `3`, whom the taxi 4 carries, and the taxi 3. -/
def namesakeTables : Tables where
  locations := .empty
  customers := ⟨[⟨51, 1, 1, none, 0, true, none, 0⟩], by decide⟩
  taxis := ⟨[⟨3, 1, 1, none, none, none, none, true, true, false, 0, 0⟩,
    ⟨4, 1, 1, some 7, some 7, some 51, none, true, true, false, 0, 0⟩], by decide⟩

/-- The database of these tables. -/
def namesakeDb : Db where
  toTables := namesakeTables
  foreignKeys := by decide

/-- The operator sends a taxi to a place. -/
def sendTo (taxi : TaxiId) : Message :=
  { Message.request [] .orderTaxiGoTo with taxiId := taxi, coord := ⟨5, 5⟩ }

/-- Sending the taxi 3 away clears the flag of the customer in the taxi 4. -/
theorem redirection_lands_stranger :
    (∀ act ∈ (KafkaServer.process 0 Town.session (sendTo 3)).acts ⟨namesakeDb, [], .new⟩,
      ¬ act.IsFailure) ∧
      ¬ ∀ customer, ((KafkaServer.process 0 Town.session (sendTo 3)).last
            ⟨namesakeDb, [], .new⟩).db.customers.lookup customer ≠
          namesakeDb.customers.lookup customer →
        namesakeDb.customerIdOf 3 = some customer ∨ namesakeDb.serviceOf 3 = some customer ∨
          .assign 3 customer ∈
            (KafkaServer.process 0 Town.session (sendTo 3)).acts ⟨namesakeDb, [], .new⟩ := by
  refine ⟨by decide +kernel, fun claimed => ?_⟩
  have own := claimed 51 (by decide +kernel)
  revert own
  decide +kernel

/-- Sending the taxi 4 away, whose namesake is not stored. -/
theorem redirection_touches_own :
    (∀ other, other ≠ 4 →
        ((KafkaServer.process 0 Town.session (sendTo 4)).last
          ⟨namesakeDb, [], .new⟩).db.taxis.lookup other = namesakeDb.taxis.lookup other) ∧
      ∀ customer, ((KafkaServer.process 0 Town.session (sendTo 4)).last
            ⟨namesakeDb, [], .new⟩).db.customers.lookup customer ≠
          namesakeDb.customers.lookup customer →
        namesakeDb.customerIdOf 4 = some customer ∨ namesakeDb.serviceOf 4 = some customer ∨
          .assign 4 customer ∈
            (KafkaServer.process 0 Town.session (sendTo 4)).acts ⟨namesakeDb, [], .new⟩ := by
  refine (taxi_request_touches_own_iff 0 Town.session (sendTo 4) ⟨namesakeDb, [], .new⟩
    .orderTaxiGoTo rfl rfl (by decide +kernel)).mpr ?_
  rintro ⟨_, customer, row, spelled, stored, _⟩
  obtain rfl : 52 = customer := Option.some.inj spelled
  cases stored

end EasyCab
