import EasyCab.Central.Issued
import EasyCab.Central.PublishedMap
import EasyCab.Central.Trips

/-!
# When the handlers end

A query whose statement violates a key is answered with an error, and the handlers
unwrap some answers without looking. Each helper and each case of the switch has a
condition on the tables, without outages, under which it finds everything that it
unwraps. `assign` is the one which the others come down to.
-/

namespace EasyCab

open Library

/-! ### When `assign` ends -/

/-- What `assign` needs in order to read a destination back. -/
def Trips.Assignable (trips : Trips) (taxi : TaxiId) (customer : Id) : Prop :=
  if (trips.customerAt customer).isSome then
    (trips.taxiAt taxi).isSome ∧ (trips.placeAt customer).isSome
  else (trips.dest taxi).isSome

/-- Writing a stored customer into the `service` of a stored taxi violates `fk_service`
exactly when no location has the identifier of the customer. -/
theorem Tables.foreignKeys_assignTaxi_iff {db : Db} {now : Timestamp} {taxi : TaxiId}
    {customer : Id} {row : TaxiRow} {found : CustomerRow}
    (stored : db.taxis.lookup taxi = some row)
    (present : db.customers.lookup customer = some found) :
    (db.assignTaxi now taxi customer).ForeignKeys ↔ (db.locations.lookup customer).isSome := by
  simp only [assignTaxi, present]
  constructor
  · intro keys
    have written : (db.updateTaxi now taxi fun row =>
        { row with destX := some found.x, destY := some found.y,
                   service := some customer }).taxis.lookup taxi =
        some (row.stamped now fun row =>
          { row with destX := some found.x, destY := some found.y, service := some customer }) := by
      simp [updateTaxi, stored]
    exact keys.service _ (Table.mem_of_lookup written) customer (by simp)
  · intro place
    refine ⟨db.foreignKeys.destination, ?_, ?_⟩
    · intro row member id carried
      obtain ⟨old, oldMember, rfl⟩ := List.mem_map.mp member
      apply db.foreignKeys.customerId old oldMember id
      by_cases same : old.id = taxi <;> simpa [same] using carried
    · intro row member id service
      obtain ⟨old, oldMember, rfl⟩ := List.mem_map.mp member
      by_cases same : old.id = taxi
      · simp only [same, if_true, TaxiRow.stamped_service, Option.mem_some_iff] at service
        rwa [← service]
      · exact db.foreignKeys.service old oldMember id (by simpa [same] using service)

namespace KafkaServer

variable {now : Timestamp} {session : Uuid} {db : Db} {response request : Message}
  {taxi : TaxiId} {customer : Id}

/-- `assign` ends exactly when its query answers a row of two numbers. -/
theorem assign_ends_iff_answer {answer : Answer (Except SqlError DbResults)}
    (answered : DbConnectionHandler.query now [.assignTaxi taxi customer, .selectDest taxi] [] db =
      answer) :
    (assign now taxi customer).Ends ⟨db, [], response⟩ ↔
      ∃ results, answer.value = .ok results ∧ (∃ x, intColumn results.getRow.1 0 = .ok x) ∧
        ∃ y, intColumn results.getRow.1 1 = .ok y := by
  have queried : query now [.assignTaxi taxi customer, .selectDest taxi] ⟨db, [], response⟩ =
      .ok ⟨answer.value, ⟨answer.db, answer.outages, response⟩, answer.failures.map .failed⟩ := by
    rw [← answered]
    rfl
  have told {x y : Int32} (server : KafkaServer) : Effect.Ends (do
      setResponse fun response => { response with taxiId := taxi, id := customer, coord := ⟨x, y⟩ }
      respond .taxiGoTo
      respond .customerServiceAccepted : Handler Unit) server := ⟨_, rfl⟩
  unfold assign
  rw [Effect.ends_record_bind_iff, Effect.ends_bind_iff queried]
  simp only [Effect.ends_demand_bind_iff]
  cases answer.value with
  | error error => simp [Except.mapError]
  | ok results => simp [Except.mapError, told]

/-- The row which `assign` reads holds two numbers exactly when the taxi has a destination. -/
theorem dest_columns_iff {tables : Tables} :
    ((∃ x, intColumn ((DbResults.ofResults [(tables.taxis.lookup taxi).toList.map fun row =>
          [Field.ofInt? row.destX, Field.ofInt? row.destY]]).getRow.1) 0 = .ok x) ∧
        ∃ y, intColumn ((DbResults.ofResults [(tables.taxis.lookup taxi).toList.map fun row =>
          [Field.ofInt? row.destX, Field.ofInt? row.destY]]).getRow.1) 1 = .ok y) ↔
      (tables.trips.dest taxi).isSome := by
  simp only [DbResults.getRow_ofResults, Tables.trips, Tables.destOf]
  cases tables.taxis.lookup taxi with
  | none => simp [intColumn, column]
  | some row =>
      cases destX : row.destX <;> cases destY : row.destY <;>
        simp [intColumn, column, stoi, Field.ofInt?, destX, destY]

/-- When the assignment can be stored, the taxi has a destination afterwards exactly when
it was assignable. -/
theorem dest_assign_iff (keys : (db.assignTaxi now taxi customer).ForeignKeys) :
    ((db.trips.assign taxi customer).dest taxi).isSome ↔ db.trips.Assignable taxi customer := by
  unfold Trips.Assignable Trips.assign
  cases present : db.customers.lookup customer with
  | none => simp [Tables.trips, Tables.customerCoord, present]
  | some found =>
      cases stored : db.taxis.lookup taxi with
      | none => simp [Tables.trips, Tables.customerCoord, Tables.taxiCoord, present, stored]
      | some row =>
          have place := (Tables.foreignKeys_assignTaxi_iff stored present).mp keys
          simpa [Tables.trips, Tables.customerCoord, Tables.taxiCoord, Tables.locationCoord,
            present, stored] using place

/-- An assignment which cannot be stored is of a taxi which was not assignable. -/
theorem not_assignable_of_refused (refused : ¬ (db.assignTaxi now taxi customer).ForeignKeys) :
    ¬ db.trips.Assignable taxi customer := by
  intro assignable
  unfold Trips.Assignable at assignable
  cases present : db.customers.lookup customer with
  | none =>
      apply refused
      simpa only [Tables.assignTaxi, present] using db.foreignKeys
  | some found =>
      rw [if_pos (by simp [Tables.trips, Tables.customerCoord, present])] at assignable
      obtain ⟨row, stored⟩ := Option.isSome_iff_exists.mp
        (by simpa [Tables.trips, Tables.taxiCoord] using assignable.1)
      refine refused ((Tables.foreignKeys_assignTaxi_iff stored present).mpr ?_)
      simpa [Tables.trips, Tables.locationCoord] using assignable.2

/-- `assign` ends exactly when the customer can be quoted and the taxi is assignable. -/
theorem assign_ends_iff : (assign now taxi customer).Ends ⟨db, [], response⟩ ↔
    Statement.quotable customer = true ∧ db.trips.Assignable taxi customer := by
  by_cases literal : Statement.quotable customer = true
  · simp only [literal, true_and]
    cases stored : (db.assignTaxi now taxi customer).commit with
    | error error =>
        obtain ⟨_, refused⟩ := Tables.commit_eq_error_iff.mp stored
        have answered : DbConnectionHandler.query now
            [.assignTaxi taxi customer, .selectDest taxi] [] db =
            ⟨.error error, db, [], [error]⟩ := by
          simp [DbConnectionHandler.query, DbConnectionHandler.runStatement_nil,
            Statement.assignTaxi, Statement.quoting, Statement.update, literal, stored]
        rw [assign_ends_iff_answer answered]
        simp [not_assignable_of_refused refused]
    | ok next =>
        have tables := Tables.commit_eq_ok_iff.mp stored
        have answered : DbConnectionHandler.query now
            [.assignTaxi taxi customer, .selectDest taxi] [] db =
            ⟨.ok (.ofResults [(next.taxis.lookup taxi).toList.map fun row =>
              [.ofInt? row.destX, .ofInt? row.destY]]), next, [], []⟩ := by
          simp [DbConnectionHandler.query, DbConnectionHandler.moreResults,
            DbConnectionHandler.runStatement_nil, Statement.assignTaxi, Statement.quoting,
            Statement.update, Statement.selectDest, Statement.select, literal, stored]
        rw [assign_ends_iff_answer answered]
        simp only [Except.ok.injEq, exists_eq_left']
        rw [dest_columns_iff, tables, Tables.trips_assignTaxi]
        exact dest_assign_iff (tables ▸ next.foreignKeys)
  · have answered : DbConnectionHandler.query now
        [.assignTaxi taxi customer, .selectDest taxi] [] db =
        ⟨.error .malformed, db, [], [.malformed]⟩ := by
      simp [DbConnectionHandler.query, DbConnectionHandler.runStatement_nil,
        Statement.assignTaxi, Statement.quoting, literal]
    rw [assign_ends_iff_answer answered]
    simp [literal]

/-! ### What the other helpers answer without outages -/

theorem checkAvailableTaxis_eq : checkAvailableTaxis now ⟨db, [], response⟩ =
    .ok ⟨db.available, ⟨db, [], response⟩, []⟩ := checkAvailableTaxis_reads

theorem checkQueue_eq :
    checkQueue now ⟨db, [], response⟩ = .ok ⟨db.queueHead, ⟨db, [], response⟩, []⟩ := checkQueue_reads

theorem carryingClient_eq : carryingClient now taxi ⟨db, [], response⟩ =
    .ok ⟨db.customerIdOf taxi, ⟨db, [], response⟩, []⟩ := carryingClient_reads taxi

theorem getService_eq : getService now taxi ⟨db, [], response⟩ =
    .ok ⟨db.serviceOf taxi, ⟨db, [], response⟩, []⟩ := getService_reads taxi

theorem getDestination_ends : (getDestination now customer).Ends ⟨db, [], response⟩ := by
  obtain ⟨_, reads⟩ := @getDestination_reads now ⟨db, [], response⟩ customer
  exact ⟨_, reads⟩

/-! ### Queries whose failure is only logged -/

/-- The queue, the services and the destinations are the same in both databases, and so are
the stored identifiers. -/
structure SameDuties (before after : Tables) : Prop where
  queueHead : after.queueHead = before.queueHead
  service : after.trips.service = before.trips.service
  dest : after.trips.dest = before.trips.dest
  places : after.trips.placeAt = before.trips.placeAt
  taxis : ∀ taxi, (after.trips.taxiAt taxi).isSome = (before.trips.taxiAt taxi).isSome
  customers : ∀ customer,
    (after.trips.customerAt customer).isSome = (before.trips.customerAt customer).isSome

theorem SameDuties.refl (tables : Tables) : SameDuties tables tables :=
  ⟨rfl, rfl, rfl, rfl, fun _ => rfl, fun _ => rfl⟩

theorem SameDuties.assignable_iff {before after : Tables} (same : SameDuties before after) :
    after.trips.Assignable taxi customer ↔ before.trips.Assignable taxi customer := by
  unfold Trips.Assignable
  rw [same.customers, same.taxis, same.places, same.dest]

/-- An update keeps the duties when it never changes them. -/
theorem update_maintains_duties {before : Tables} {effect : Timestamp → Tables → Tables}
    (same : ∀ now tables, SameDuties tables (effect now tables)) :
    (Statement.update effect).Maintains fun db => SameDuties before db.toTables := by
  refine Statement.maintains_update fun now db next stored duties => ?_
  have last := same now db.toTables
  rw [← stored] at last
  exact ⟨last.queueHead.trans duties.queueHead, last.service.trans duties.service,
    last.dest.trans duties.dest, last.places.trans duties.places,
    fun taxi => (last.taxis taxi).trans (duties.taxis taxi),
    fun customer => (last.customers customer).trans (duties.customers customer)⟩

/-- A query without outages whose statements keep the duties. -/
theorem run_duties {statements : List Statement}
    (keeps : ∀ statement ∈ statements,
      statement.Maintains fun next => SameDuties db.toTables next.toTables) :
    ∃ next acts, run now statements ⟨db, [], response⟩ = .ok ⟨(), ⟨next, [], response⟩, acts⟩ ∧
      SameDuties db.toTables next.toTables := by
  let answer := DbConnectionHandler.query now statements [] db
  have none : answer.outages = [] := DbConnectionHandler.query_outages_nil now statements db
  have queried : query now statements ⟨db, [], response⟩ =
      .ok ⟨answer.value, ⟨answer.db, answer.outages, response⟩, answer.failures.map .failed⟩ := rfl
  rw [none] at queried
  refine ⟨answer.db, answer.failures.map .failed,
    Effect.bind_eq_ok_iff.mpr ⟨_, ⟨(), _, []⟩, queried, rfl, by simp⟩, ?_⟩
  exact DbConnectionHandler.query_maintains keeps (SameDuties.refl db.toTables)

theorem moveTaxi_duties {before : Tables} {coord : Coordinate} :
    (Statement.moveTaxi taxi coord).Maintains fun db => SameDuties before db.toTables := by
  refine update_maintains_duties fun now tables => ⟨rfl, ?_, ?_, ?_, fun other => ?_, fun other => ?_⟩
  all_goals rw [Tables.trips_moveTaxi]
  · rfl
  · rfl
  · rfl
  · by_cases same : other = taxi <;> simp [Trips.moveTaxi, same]
  · rfl

theorem moveCustomer_duties {before : Tables} {coord : Coordinate} :
    (Statement.moveCustomer customer coord).Maintains fun db => SameDuties before db.toTables := by
  refine Statement.maintains_quoting fun _ => update_maintains_duties fun now tables =>
    ⟨Tables.queueHead_updateCustomer customer _ _ fun _ => rfl, ?_, ?_, ?_, fun other => ?_,
      fun other => ?_⟩
  all_goals rw [Tables.trips_moveCustomer]
  · rfl
  · rfl
  · rfl
  · rfl
  · by_cases same : other = customer <;> simp [Trips.moveCustomer, same]

theorem setOnboardFlag_duties {before : Tables} {val : Bool} :
    (Statement.setOnboardFlag customer val).Maintains fun db => SameDuties before db.toTables := by
  refine Statement.maintains_quoting fun _ => update_maintains_duties fun now tables =>
    ⟨Tables.queueHead_updateCustomer customer _ _ fun _ => rfl, ?_, ?_, ?_, fun other => ?_,
      fun other => ?_⟩
  all_goals
    rw [Tables.trips_setOnboardFlag]
    rfl

theorem setCustomerId_duties {before : Tables} {carried : Option Id} :
    (Statement.setCustomerId taxi carried).Maintains fun db => SameDuties before db.toTables := by
  refine Statement.maintains_quoting fun _ => update_maintains_duties fun now tables =>
    ⟨rfl, ?_, ?_, ?_, fun other => ?_, fun other => ?_⟩
  all_goals
    rw [Tables.trips_setCustomerId]
    rfl

/-- Reporting a position answers the carried customer and keeps the duties. -/
theorem reportPosition_duties : ∃ next acts,
    reportPosition now request ⟨db, [], response⟩ =
      .ok ⟨db.customerIdOf request.taxiId, ⟨next, [], response⟩, acts⟩ ∧
    SameDuties db.toTables next.toTables := by
  have kept : ∀ statement ∈ Statement.moveTaxi request.taxiId request.coord ::
      ((db.customerIdOf request.taxiId).map fun customer =>
        Statement.moveCustomer customer request.coord).toList,
      statement.Maintains fun next => SameDuties db.toTables next.toTables := by
    rw [List.forall_mem_cons]
    refine ⟨moveTaxi_duties, ?_⟩
    cases db.customerIdOf request.taxiId with
    | none => simp
    | some customer => simpa using moveCustomer_duties
  obtain ⟨next, acts, ran, duties⟩ := run_duties kept
  refine ⟨next, acts, ?_, duties⟩
  refine Effect.bind_eq_ok_iff.mpr
    ⟨_, ⟨db.customerIdOf request.taxiId, ⟨next, [], response⟩, acts⟩, carryingClient_eq, ?_, rfl⟩
  refine Effect.bind_eq_ok_iff.mpr
    ⟨_, ⟨db.customerIdOf request.taxiId, ⟨next, [], response⟩, []⟩, ran, rfl, ?_⟩
  rw [List.append_nil]

/-- Setting the flag of a customer keeps the duties. -/
theorem setOnboard_duties {val : Bool} : ∃ next acts,
    setOnboard now customer taxi val ⟨db, [], response⟩ = .ok ⟨(), ⟨next, [], response⟩, acts⟩ ∧
    SameDuties db.toTables next.toTables := by
  apply run_duties
  simpa using ⟨setOnboardFlag_duties, setCustomerId_duties⟩

/-! ### When the cases of the switch end -/

theorem onTaxiArrival_ends_iff : (onTaxiArrival now request).Ends ⟨db, [], response⟩ ↔
    ∀ customer ∈ db.queueHead, Statement.quotable customer = true ∧
      db.trips.Assignable request.taxiId customer := by
  unfold onTaxiArrival
  rw [Effect.ends_bind_iff checkQueue_eq]
  cases db.queueHead with
  | none => simp
  | some customer => simpa using assign_ends_iff

theorem completeService_ends_iff : (completeService now request customer).Ends ⟨db, [], response⟩ ↔
    ∀ next ∈ db.queueHead, Statement.quotable next = true ∧
      db.trips.Assignable request.taxiId next := by
  obtain ⟨landed, acts, ran, duties⟩ :=
    @setOnboard_duties now db response request.taxiId customer false
  let named : Message := { response with id := customer }
  let told : Message := { named with subject := .response .customerServiceCompleted }
  have set : setResponse (fun response => { response with id := customer })
      ⟨landed, [], response⟩ = .ok ⟨(), ⟨landed, [], named⟩, []⟩ := rfl
  have answered : respond .customerServiceCompleted ⟨landed, [], named⟩ =
      .ok ⟨(), ⟨landed, [], told⟩, [.produce told]⟩ := rfl
  unfold completeService
  rw [Effect.ends_bind_iff ran, Effect.ends_bind_iff set, Effect.ends_bind_iff answered]
  -- What is left to do is what a taxi does which arrives without a customer.
  change (onTaxiArrival now request).Ends ⟨landed, [], told⟩ ↔ _
  rw [onTaxiArrival_ends_iff, duties.queueHead]
  simp only [duties.assignable_iff]

theorem pickUp_ends_iff : (pickUp now request).Ends ⟨db, [], response⟩ ↔
    (db.serviceOf request.taxiId).isSome := by
  unfold pickUp
  rw [Effect.ends_bind_iff getService_eq, Effect.ends_demand_bind_iff]
  cases db.serviceOf request.taxiId with
  | none => simp
  | some customer =>
      simp only [Option.elim_some, Except.ok.injEq, exists_eq_left', Option.isSome_some, iff_true]
      refine getDestination_ends.bind fun coord server => ?_
      refine Effect.Ends.bind ⟨_, rfl⟩ fun _ server => Effect.Ends.bind ⟨_, rfl⟩ fun _ server => ?_
      cases coord with
      | none => exact ⟨_, rfl⟩
      | some coord => exact ⟨_, rfl⟩

theorem onDestinationReached_ends_iff :
    (onDestinationReached now request).Ends ⟨db, [], response⟩ ↔
      if (db.customerIdOf request.taxiId).isSome then
        ∀ next ∈ db.queueHead, Statement.quotable next = true ∧
          db.trips.Assignable request.taxiId next
      else (db.serviceOf request.taxiId).isSome := by
  obtain ⟨reached, acts, reported, duties⟩ := @reportPosition_duties now db response request
  unfold onDestinationReached
  rw [Effect.ends_bind_iff reported]
  cases db.customerIdOf request.taxiId with
  | none =>
      have service : reached.serviceOf request.taxiId = db.serviceOf request.taxiId :=
        congrFun duties.service request.taxiId
      simpa [service] using @pickUp_ends_iff now reached response request
  | some customer =>
      have completes := @completeService_ends_iff now reached response request customer
      rw [duties.queueHead] at completes
      simpa [duties.assignable_iff] using completes

end KafkaServer

/-- Naming a location in the row of a customer violates `fk_destination` exactly when the
customer is stored and the location is not. -/
theorem Tables.foreignKeys_setDestination_iff {db : Db} {now : Timestamp} {customer location : Id} :
    (db.setDestination now customer location).ForeignKeys ↔
      ((db.customerCoord customer).isSome → (db.locationCoord location).isSome) := by
  constructor
  · intro keys present
    obtain ⟨row, stored⟩ := Option.isSome_iff_exists.mp
      (by simpa [customerCoord] using present)
    have written : (db.setDestination now customer location).customers.lookup customer =
        some (row.stamped now fun row => { row with destination := some location }) := by
      simp [setDestination, updateCustomer, stored]
    have named : (db.locations.lookup location).isSome :=
      keys.destination _ (Table.mem_of_lookup written) location (by simp)
    simpa [locationCoord] using named
  · intro place
    refine ⟨?_, ?_, db.foreignKeys.service⟩
    · intro row member id named
      obtain ⟨old, oldMember, rfl⟩ := List.mem_map.mp member
      by_cases same : old.id = customer
      · simp only [same, if_true, CustomerRow.stamped_destination, Option.mem_some_iff] at named
        have present : (db.customerCoord customer).isSome := by
          simp [customerCoord, ← same, Table.lookup_of_mem oldMember]
        have stored : (db.locations.lookup id).isSome := by
          simpa [locationCoord, named] using place present
        exact stored
      · exact db.foreignKeys.destination old oldMember id (by simpa [same] using named)
    · intro row member id carried
      have present := db.foreignKeys.customerId row member id carried
      simpa [setDestination, updateCustomer, apply_ite Option.isSome] using present

namespace KafkaServer

/-- What `setDestination` needs in order to succeed. -/
def Destinable (tables : Tables) (customer location : Id) : Prop :=
  Statement.quotable location = true ∧ Statement.quotable customer = true ∧
    ((tables.customerCoord customer).isSome → (tables.locationCoord location).isSome)

instance (tables : Tables) (customer location : Id) :
    Decidable (Destinable tables customer location) := by
  unfold Destinable
  infer_instance

variable {now : Timestamp} {session : Uuid} {db : Db} {response request : Message}
  {taxi : TaxiId} {customer location : Id}

theorem setDestination_of_not (not : ¬ Destinable db.toTables customer location) :
    ∃ error, setDestination now customer location ⟨db, [], response⟩ =
      .ok ⟨false, ⟨db, [], response⟩, [.failed error]⟩ := by
  have refused : ∃ error, DbConnectionHandler.query now [.setDestination customer location] [] db =
      ⟨.error error, db, [], [error]⟩ := by
    by_cases literal : Statement.quotable location = true ∧ Statement.quotable customer = true
    · have broken : ¬ (db.setDestination now customer location).ForeignKeys := by
        rw [Tables.foreignKeys_setDestination_iff]
        exact fun place => not ⟨literal.1, literal.2, place⟩
      have failed : (db.setDestination now customer location).commit = .error .foreignKey :=
        Tables.commit_eq_error_iff.mpr ⟨rfl, broken⟩
      refine ⟨.foreignKey, ?_⟩
      simp [DbConnectionHandler.query, DbConnectionHandler.runStatement_nil,
        Statement.setDestination, Statement.quoting, Statement.update, literal, failed]
    · refine ⟨.malformed, ?_⟩
      simp [DbConnectionHandler.query, DbConnectionHandler.runStatement_nil,
        Statement.setDestination, Statement.quoting, literal]
  obtain ⟨error, refused⟩ := refused
  have queried : query now [.setDestination customer location] ⟨db, [], response⟩ =
      .ok ⟨.error error, ⟨db, [], response⟩, [.failed error]⟩ := by
    simp [query, refused]
  exact ⟨_, Effect.bind_eq_ok_iff.mpr ⟨_, ⟨false, _, []⟩, queried, rfl, rfl⟩⟩

theorem setDestination_of (destinable : Destinable db.toTables customer location) :
    ∃ next, next.toTables = db.setDestination now customer location ∧
      setDestination now customer location ⟨db, [], response⟩ =
        .ok ⟨true, ⟨next, [], response⟩, []⟩ := by
  obtain ⟨quotedLocation, quotedCustomer, place⟩ := destinable
  have keys : (db.setDestination now customer location).ForeignKeys :=
    Tables.foreignKeys_setDestination_iff.mpr place
  refine ⟨⟨db.setDestination now customer location, keys⟩, rfl, ?_⟩
  have stored : (db.setDestination now customer location).commit =
      .ok ⟨db.setDestination now customer location, keys⟩ := Tables.commit_eq_ok_iff.mpr rfl
  have answered : DbConnectionHandler.query now [.setDestination customer location] [] db =
      ⟨.ok (.ofResults []), ⟨db.setDestination now customer location, keys⟩, [], []⟩ := by
    simp [DbConnectionHandler.query, DbConnectionHandler.moreResults,
      DbConnectionHandler.runStatement_nil, Statement.setDestination, Statement.quoting,
      Statement.update, quotedLocation, quotedCustomer, stored]
  have queried : query now [.setDestination customer location] ⟨db, [], response⟩ =
      .ok ⟨.ok (.ofResults []), ⟨⟨db.setDestination now customer location, keys⟩, [], response⟩,
        []⟩ := by
    simp [query, answered]
  exact Effect.bind_eq_ok_iff.mpr ⟨_, ⟨true, _, []⟩, queried, rfl, rfl⟩

theorem onServiceRequest_ends_iff : (onServiceRequest now request).Ends ⟨db, [], response⟩ ↔
    ∀ taxi ∈ db.available, Destinable db.toTables request.id request.charFromData →
      db.trips.Assignable taxi request.id := by
  let named : Message := { response with id := request.id }
  have set : setResponse (fun response => { response with id := request.id })
      ⟨db, [], response⟩ = .ok ⟨(), ⟨db, [], named⟩, []⟩ := rfl
  unfold onServiceRequest
  rw [Effect.ends_bind_iff checkAvailableTaxis_eq, Effect.ends_bind_iff set]
  cases db.available with
  | none =>
      refine iff_of_true (Effect.Ends.bind ⟨_, rfl⟩ fun _ _ => ⟨_, rfl⟩) ?_
      simp
  | some taxi =>
      by_cases destinable : Destinable db.toTables request.id request.charFromData
      · obtain ⟨next, tables, ran⟩ := @setDestination_of now db named _ _ destinable
        have same : next.trips.Assignable taxi request.id ↔ db.trips.Assignable taxi request.id := by
          rw [tables, Tables.trips_setDestination]
          rfl
        simp only [Option.mem_some_iff, forall_eq', destinable, true_imp_iff]
        rw [← same]
        have assigns : (assign now taxi request.id).Ends ⟨next, [], named⟩ ↔
            next.trips.Assignable taxi request.id := by
          rw [assign_ends_iff]
          exact and_iff_right destinable.2.1
        rw [← assigns]
        apply (Effect.ends_bind_iff ran).trans
        constructor
        · rintro ⟨outcome, sequence⟩
          obtain ⟨middle, _, assigned, _⟩ := Effect.bind_eq_ok_iff.mp sequence
          exact ⟨middle, assigned⟩
        · exact fun ends => ends.bind fun _ _ => ⟨_, rfl⟩
      · obtain ⟨error, ran⟩ := @setDestination_of_not now db named _ _ destinable
        refine iff_of_true ?_ (by simp [destinable])
        apply (Effect.ends_bind_iff ran).mpr
        exact ⟨_, rfl⟩

/-! ### Cases which always end -/

theorem run_ends {statements : List Statement} (server : KafkaServer) :
    (run now statements).Ends server := ⟨_, rfl⟩

theorem updateAndRespond_ends {statement : Statement} {answer : SubjResponse}
    (server : KafkaServer) : (updateAndRespond now statement taxi answer).Ends server := by
  refine (run_ends server).bind fun _ server => ?_
  exact ⟨_, rfl⟩

theorem onCustomerDisconnect_ends (server : KafkaServer) :
    (onCustomerDisconnect now request).Ends server := by
  refine (run_ends server).bind fun _ server => ?_
  exact ⟨_, rfl⟩

theorem onCustomerPriority_ends (server : KafkaServer) :
    (onCustomerPriority now request).Ends server := by
  refine (run_ends server).bind fun _ server => ?_
  exact ⟨_, rfl⟩

theorem onTaxiGoTo_ends (server : KafkaServer) : (onTaxiGoTo now request).Ends server := by
  refine (run_ends server).bind fun _ server => ?_
  exact ⟨_, rfl⟩

theorem newCustomer_ends (server : KafkaServer) : (newCustomer now session request).Ends server := by
  refine Effect.Ends.bind ⟨_, rfl⟩ fun _ server => Effect.Ends.bind ⟨_, rfl⟩ fun answer server => ?_
  cases answer with
  | error error => exact Effect.ends_pure
  | ok results =>
      simp only
      split
      · refine Effect.Ends.bind ⟨_, rfl⟩ fun inserted server => ?_
        cases inserted with
        | error error => exact Effect.ends_pure
        | ok _ => exact ⟨_, rfl⟩
      · exact ⟨_, rfl⟩

theorem onTaxiMove_ends : (onTaxiMove now request).Ends ⟨db, [], response⟩ := by
  obtain ⟨next, acts, reported, _⟩ := @reportPosition_duties now db response request
  exact (Effect.ends_bind_iff reported).mpr Effect.ends_pure

end KafkaServer

end EasyCab
