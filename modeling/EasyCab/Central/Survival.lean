import EasyCab.Central.Ends
import EasyCab.Central.System

/-!
# Requests on which Central dies

`Fatal` is the condition under which a request finds nothing to unwrap: `assign` for a
taxi without a row, for a customer whose identifier names no location, or for an
absent customer and a taxi which was never sent anywhere; and an arrival of a taxi
which neither carries nor serves anybody. Every reachable database has only customers
whose identifiers can be quoted, so the search for the head of the queue is never
the query that fails.
-/

namespace EasyCab

open Library

/-! ### Names of customers -/

/-- Every stored customer has an identifier which is allowed. -/
def Tables.Named (allowed : Id → Prop) (tables : Tables) : Prop :=
  ∀ customer, (tables.trips.customerAt customer).isSome → allowed customer

/-- Every stored customer has an identifier which can stand between quotes. -/
def Tables.Quoted (tables : Tables) : Prop :=
  ∀ customer, (tables.trips.customerAt customer).isSome → Statement.quotable customer = true

namespace KafkaServer

variable {now : Timestamp} {session : Uuid} {db : Db} {response request : Message}
  {subject : SubjRequest} {taxi : TaxiId} {customer : Id} {allowed : Id → Prop}

/-- An update which adds no customer keeps the names. -/
theorem update_maintains_named {effect : Timestamp → Tables → Tables}
    (stays : ∀ now tables customer, ((effect now tables).trips.customerAt customer).isSome →
      (tables.trips.customerAt customer).isSome) :
    (Statement.update effect).Maintains fun db => db.Named allowed := by
  refine Statement.maintains_update fun now db next stored named customer present => ?_
  rw [stored] at present
  exact named customer (stays now _ customer present)

/-- Central only inserts the customer of a `NEW_CUSTOMER`, by quoting it. -/
theorem Issued.maintains_named {statement : Statement} (issued : Issued request subject statement)
    (joins : subject = .newCustomer → Statement.quotable request.id = true → allowed request.id) :
    statement.Maintains fun db => db.Named allowed := by
  cases issued with
  | reads rows => exact Statement.maintains_select rows
  | readsQuoted chars rows => exact Statement.maintains_quoting fun _ => Statement.maintains_select rows
  | inserted =>
      refine Statement.maintains_quoting fun literal =>
        Statement.maintains_insert fun now db next stored named customer present => ?_
      obtain ⟨trips, _⟩ := Tables.trips_insertCustomer stored
      rw [trips] at present
      by_cases same : customer = request.id
      · rw [same]
        exact joins rfl (by simpa using literal)
      · exact named customer (by simpa [Trips.join, same] using present)
  | deleted =>
      refine Statement.maintains_quoting fun _ => update_maintains_named ?_
      intro now tables customer present
      rw [Tables.trips_deleteCustomer] at present
      by_cases same : customer = request.id
      · simp [Trips.leave, same] at present
      · simpa [Trips.leave, same] using present
  | movedCustomer customer =>
      refine Statement.maintains_quoting fun _ => update_maintains_named ?_
      intro now tables other present
      rw [Tables.trips_moveCustomer] at present
      by_cases same : other = customer
      · simpa [Trips.moveCustomer, same] using present
      · simpa [Trips.moveCustomer, same] using present
  -- The other updates leave the customers where they are.
  | disconnected | pingedTaxi | moved | readied | waited | redirected | landed | stopped =>
      apply update_maintains_named
      simp [Tables.trips_setConnected, Tables.trips_pingTaxi, Tables.trips_setReady,
        Tables.trips_setWaitTime, Tables.trips_setStopped, Trips.moveTaxi, Trips.redirect,
        Trips.carry]
  | assigned | pingedCustomer | flagged | carried | enqueued | destined | nextRequested
  | movedLocation | prioritized =>
      refine Statement.maintains_quoting fun _ => update_maintains_named ?_
      simp [Tables.trips_pingCustomer, Tables.trips_setInQueue, Tables.trips_setNextRequest,
        Tables.trips_moveLocation, Trips.setOnboardFlag, Trips.carry, Trips.setDestination,
        Trips.movePlace]

end KafkaServer

/-- The query of `addTaxi` touches no customer. -/
theorem AuthServer.addTaxi_maintains_named {allowed : Id → Prop} (now : Timestamp) (session : Uuid)
    (taxiId : TaxiId) (reconnect : Bool) (outages : List Bool) {db : Db}
    (named : db.Named allowed) : (addTaxi now session taxiId reconnect outages db).db.Named allowed := by
  have kept : (addTaxiStatement taxiId reconnect).Maintains fun db => db.Named allowed := by
    cases reconnect with
    | true =>
        apply KafkaServer.update_maintains_named
        simp [Tables.trips_setConnected]
    | false =>
        refine Statement.maintains_insert fun now db next stored named customer present => ?_
        rw [(Tables.trips_insertTaxi stored).1] at present
        exact named customer present
  exact DbConnectionHandler.query_maintains (List.forall_mem_singleton.mpr kept) named

namespace System

/-- The event is a `NEW_CUSTOMER` with this identifier. -/
def Event.Joins (customer : Id) : Event → Prop
  | .addTaxi .. => False
  | .request _ message _ => message.subject = .request .newCustomer ∧ message.id = customer

/-- A step keeps the names as long as nobody joins under a name which is not allowed. -/
theorem named_of_step {session : Uuid} {allowed : Id → Prop} {system next : System} {event : Event}
    (stepped : (machine session).step system event = some next)
    (joins : ∀ customer, event.Joins customer → Statement.quotable customer = true →
      allowed customer)
    (named : system.db.Named allowed) : next.db.Named allowed := by
  cases stepped_of_step stepped with
  | added now taxiId reconnect outages =>
      exact AuthServer.addTaxi_maintains_named now session taxiId reconnect outages named
  | @consumed now message outages outcome ran =>
      have keeps : ∀ subject ∈ KafkaServer.accepted? session message, ∀ statement,
          KafkaServer.Issued message subject statement →
            statement.Maintains fun db => db.Named allowed := by
        intro subject accepted statement issued
        refine issued.maintains_named fun joined => joins message.id ⟨?_, rfl⟩
        rw [KafkaServer.subject_of_accepted accepted, joined]
      exact KafkaServer.process_maintains keeps ran named

/-- In every state which Central can reach, the stored customers have quoted names. -/
theorem quoted_of_reachable {session : Uuid} {locations : Table LocationRow.id} {system : System}
    (reachable : (machine session).Reachable (start locations) system) : system.db.Quoted := by
  refine Machine.reachable_invariant (fun system => system.db.Quoted) ?_ ?_ reachable
  · intro system event next stepped quoted
    exact named_of_step stepped (fun _ _ quotable => quotable) quoted
  · intro customer present
    simp [start, Db.initial, Tables.trips, Tables.customerCoord] at present

end System

/-! ### The requests on which Central dies -/

/-- The condition, on the tables and the request, under which the switch ends in a fault. -/
def Tables.Fatal (tables : Tables) (request : Message) : SubjRequest → Prop
  | .newTaxi | .taxiReconnected =>
      ∃ customer ∈ tables.queueHead,
        tables.taxiCoord request.taxiId = none ∨ tables.locationCoord customer = none
  | .taxiDestinationReached =>
      tables.customerIdOf request.taxiId ≠ none ∧
          (∃ customer ∈ tables.queueHead, tables.locationCoord customer = none) ∨
        tables.customerIdOf request.taxiId = none ∧ tables.serviceOf request.taxiId = none
  | .customerServiceRequest =>
      ∃ taxi ∈ tables.available,
        KafkaServer.Destinable tables request.id request.charFromData ∧
          (tables.customerCoord request.id ≠ none ∧ tables.locationCoord request.id = none ∨
            tables.customerCoord request.id = none ∧ tables.destOf taxi = none)
  | _ => False

instance (tables : Tables) (request : Message) (subject : SubjRequest) :
    Decidable (tables.Fatal request subject) := by
  unfold Tables.Fatal
  split <;> infer_instance

/-- The head of the queue is a stored customer. -/
theorem Tables.customerAt_queueHead {tables : Tables} {customer : Id}
    (head : tables.queueHead = some customer) : (tables.trips.customerAt customer).isSome := by
  obtain ⟨row, least, rfl⟩ := Option.map_eq_some_iff.mp head
  have stored := (List.mem_filter.mp (List.argmin_mem least)).1
  simp [trips, customerCoord, Table.lookup_of_mem stored]

/-- The first connected taxi is stored. -/
theorem Tables.taxiAt_available {tables : Tables} {taxi : TaxiId}
    (found : tables.available = some taxi) : (tables.trips.taxiAt taxi).isSome := by
  obtain ⟨row, first, rfl⟩ := Option.map_eq_some_iff.mp found
  have stored := (List.mem_filter.mp (List.mem_of_head? first)).1
  simp [trips, taxiCoord, Table.lookup_of_mem stored]

/-- A taxi can be assigned to a stored customer exactly when it is stored and a location has
the identifier of the customer. -/
theorem Trips.assignable_of_stored {trips : Trips} {taxi : TaxiId} {customer : Id}
    (present : (trips.customerAt customer).isSome) :
    trips.Assignable taxi customer ↔
      trips.taxiAt taxi ≠ none ∧ trips.placeAt customer ≠ none := by
  rw [Assignable, if_pos present, Option.isSome_iff_ne_none, Option.isSome_iff_ne_none]

namespace KafkaServer

variable {now : Timestamp} {session : Uuid} {db : Db} {response request : Message}
  {subject : SubjRequest} {taxi : TaxiId}

/-- Where the names are quoted, the head of the queue can be assigned to a taxi exactly when
the taxi is stored and a location has the identifier of the head. -/
theorem head_assignable_iff (quoted : db.Quoted) :
    (∀ customer ∈ db.queueHead, Statement.quotable customer = true ∧
        db.trips.Assignable taxi customer) ↔
      ¬ ∃ customer ∈ db.queueHead,
        db.taxiCoord taxi = none ∨ db.locationCoord customer = none := by
  push Not
  refine forall₂_congr fun customer head => ?_
  have present := Tables.customerAt_queueHead head
  rw [Trips.assignable_of_stored present]
  exact and_iff_right (quoted customer present)

/-- The switch ends exactly when the request is not fatal. -/
theorem handle_ends_iff (quoted : db.Quoted) :
    (handle now session subject request).Ends ⟨db, [], response⟩ ↔ ¬ db.Fatal request subject := by
  cases subject with
  | newTaxi | taxiReconnected =>
      apply Effect.ends_bind_pure_iff.trans
      rw [onTaxiArrival_ends_iff, head_assignable_iff quoted]
      rfl
  | taxiDestinationReached =>
      apply Effect.ends_bind_pure_iff.trans
      rw [onDestinationReached_ends_iff, head_assignable_iff quoted]
      unfold Tables.Fatal
      cases carried : db.customerIdOf request.taxiId with
      | none => simp [Option.isSome_iff_ne_none]
      | some customer =>
          have stored : db.taxiCoord request.taxiId ≠ none :=
            Option.isSome_iff_ne_none.mp (db.trips_wellFormed.taxiOfCarried carried)
          simp [stored]
  | customerServiceRequest =>
      apply Effect.ends_bind_pure_iff.trans
      rw [onServiceRequest_ends_iff]
      unfold Tables.Fatal
      push Not
      refine forall₂_congr fun taxi found => forall_congr' fun _ => ?_
      have stored : db.taxiCoord taxi ≠ none :=
        Option.isSome_iff_ne_none.mp (Tables.taxiAt_available found)
      cases present : db.customerCoord request.id with
      | none => simp [Trips.Assignable, Tables.trips, present, Option.isSome_iff_ne_none]
      | some coord =>
          have known : (db.trips.customerAt request.id).isSome := by simp [Tables.trips, present]
          rw [Trips.assignable_of_stored known]
          simp [stored, Tables.trips]
  | orderCustomerDisconnect =>
      exact iff_of_true ((onCustomerDisconnect_ends _).bind fun _ _ => Effect.ends_pure) id
  | orderTaxiDisconnect | orderTaxiStop | orderTaxiContinue =>
      exact iff_of_true ((updateAndRespond_ends _).bind fun _ _ => Effect.ends_pure) id
  | newCustomer => exact iff_of_true ((newCustomer_ends _).bind fun _ _ => Effect.ends_pure) id
  | taxiMove => exact iff_of_true (onTaxiMove_ends.bind fun _ _ => Effect.ends_pure) id
  | orderTaxiReturnToBase | orderTaxiGoTo =>
      exact iff_of_true ((onTaxiGoTo_ends _).bind fun _ _ => Effect.ends_pure) id
  | orderCustomerPriority =>
      exact iff_of_true ((onCustomerPriority_ends _).bind fun _ _ => Effect.ends_pure) id
  | taxiPing | taxiReady | taxiNotReady | customerPing | customerUpdateNextRequest
  | taxiUpdateWaitTime | orderLocationMove =>
      exact iff_of_true ((run_ends _).bind fun _ _ => Effect.ends_pure) id
  | unlisted code undeclared => exact iff_of_true Effect.ends_pure id

/-- A consumed message is treated to the end exactly when it is not fatal. -/
theorem process_ends_iff (quoted : db.Quoted) :
    (process now session request).Ends ⟨db, [], response⟩ ↔
      ∀ subject ∈ accepted? session request, ¬ db.Fatal request subject := by
  unfold process
  cases accepted : accepted? session request with
  | none => simp
  | some subject =>
      rw [Effect.ends_record_bind_iff]
      simp only [Option.mem_some_iff, forall_eq']
      rw [← @handle_ends_iff now session db response request subject quoted]
      constructor
      · rintro ⟨outcome, sequence⟩
        obtain ⟨middle, _, handled, _⟩ := Effect.bind_eq_ok_iff.mp sequence
        exact ⟨middle, handled⟩
      · refine fun ends => ends.bind fun refresh server => ?_
        cases refresh with
        | true => exact refreshMap_ends server
        | false => exact Effect.ends_pure

end KafkaServer

/-- Where the events of a run in the town lead, if Central survives them. -/
def Town.reach (events : List System.Event)
    (survives : ((System.machine session).exec (System.start locations) events).isSome) : System :=
  Option.get _ survives

theorem Town.reachable_reach (events : List System.Event)
    (survives : ((System.machine session).exec (System.start locations) events).isSome) :
    (System.machine session).Reachable (System.start locations) (reach events survives) :=
  ⟨events, (Option.some_get survives).symm⟩

/-- The operator sends a new taxi to a place. -/
def divertedNewTaxi : List System.Event :=
  Town.join 1 ++ [Town.consume { Message.request [] .orderTaxiGoTo with
    taxiId := 1, coord := ⟨5, 5⟩ }]

theorem divertedNewTaxi_survives :
    ((System.machine Town.session).exec (System.start Town.locations) divertedNewTaxi).isSome := by
  decide +kernel

/-- The report of the new taxi that it arrived at the place. -/
def divertedArrival : Message :=
  { Message.request Town.session.1 .taxiDestinationReached with taxiId := 1, coord := ⟨5, 5⟩ }

end EasyCab
