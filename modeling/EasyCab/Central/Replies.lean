import EasyCab.Central.Aftermath

/-!
# Assignments and the replies to a service request

`assign` writes the identifier of a customer to `service`, which `initialize.sql`
declares a reference to `locations`. So an assignment is stored exactly when a location
happens to have the identifier of the customer, and where it is not, `assign` dies of the
error it does not look at. A service request that reaches `assign` is therefore answered
twice or not at all: the response which `assign` produced last is produced again.
-/

namespace EasyCab

open Library

namespace KafkaServer

variable {now : Timestamp} {db stored : Db} {response request : Message} {taxi : TaxiId}
  {customer : Id} {coord : Coordinate}

/-! ### `assign`, without outages -/

/-- The response object after the setters of `assign`. -/
def assignedResponse (taxi : TaxiId) (customer : Id) (coord : Coordinate) (response : Message) :
    Message :=
  { response with taxiId := taxi, id := customer, coord := coord }

/-- An assignment which can be stored is stored, and both responses are produced. -/
theorem assign_of_stored (literal : Statement.quotable customer = true)
    (written : stored.toTables = db.assignTaxi now taxi customer)
    (sent : stored.destOf taxi = some coord) :
    assign now taxi customer ⟨db, [], response⟩ =
      .ok ⟨(), ⟨stored, [], { assignedResponse taxi customer coord response with
          subject := .response .customerServiceAccepted }⟩,
        [.assign taxi customer,
          .produce { assignedResponse taxi customer coord response with
            subject := .response .taxiGoTo },
          .produce { assignedResponse taxi customer coord response with
            subject := .response .customerServiceAccepted }]⟩ := by
  have committed : (db.assignTaxi now taxi customer).commit = .ok stored :=
    Tables.commit_eq_ok_iff.mpr written
  obtain ⟨row, found, dest⟩ := Option.bind_eq_some_iff.mp sent
  obtain ⟨x, destX, rest⟩ := Option.bind_eq_some_iff.mp dest
  obtain ⟨y, destY, rfl⟩ := Option.map_eq_some_iff.mp rest
  have answered : DbConnectionHandler.query now [.assignTaxi taxi customer, .selectDest taxi] [] db =
      ⟨.ok (.ofResults [[[.int x, .int y]]]), stored, [], []⟩ := by
    simp [DbConnectionHandler.query, DbConnectionHandler.moreResults,
      DbConnectionHandler.runStatement_nil, Statement.assignTaxi, Statement.quoting,
      Statement.update, Statement.selectDest, Statement.select, Field.ofInt?, literal, committed,
      found, destX, destY]
  have queried : query now [.assignTaxi taxi customer, .selectDest taxi] ⟨db, [], response⟩ =
      .ok ⟨.ok (.ofResults [[[.int x, .int y]]]), ⟨stored, [], response⟩, []⟩ := by
    simp only [query, answered, List.map_nil]
  let told : Message := { assignedResponse taxi customer ⟨x, y⟩ response with
    subject := .response .customerServiceAccepted }
  let said : List Act :=
    [.produce { assignedResponse taxi customer ⟨x, y⟩ response with subject := .response .taxiGoTo },
      .produce told]
  refine Effect.bind_eq_ok_iff.mpr ⟨_, ⟨(), ⟨stored, [], told⟩, said⟩, rfl, ?_, rfl⟩
  exact Effect.bind_eq_ok_iff.mpr ⟨_, ⟨(), ⟨stored, [], told⟩, said⟩, queried, rfl, rfl⟩

/-- An assignment which violates a foreign key ends the process, and no response is produced. -/
theorem assign_of_refused (literal : Statement.quotable customer = true)
    (refused : ¬ (db.assignTaxi now taxi customer).ForeignKeys) :
    ¬ (assign now taxi customer).Ends ⟨db, [], response⟩ ∧
      (assign now taxi customer).acts ⟨db, [], response⟩ =
        [.assign taxi customer, .failed .foreignKey] := by
  refine ⟨fun ends => not_assignable_of_refused refused (assign_ends_iff.mp ends).2, ?_⟩
  have failed : (db.assignTaxi now taxi customer).commit = .error .foreignKey :=
    Tables.commit_eq_error_iff.mpr ⟨rfl, refused⟩
  have answered : DbConnectionHandler.query now [.assignTaxi taxi customer, .selectDest taxi] [] db =
      ⟨.error .foreignKey, db, [], [.foreignKey]⟩ := by
    simp [DbConnectionHandler.query, DbConnectionHandler.runStatement_nil, Statement.assignTaxi,
      Statement.quoting, Statement.update, literal, failed]
  have queried : query now [.assignTaxi taxi customer, .selectDest taxi] ⟨db, [], response⟩ =
      .ok ⟨.error .foreignKey, ⟨db, [], response⟩, [.failed .foreignKey]⟩ := by
    simp [query, answered]
  have recorded : (Effect.record (.assign taxi customer) : Handler Unit) ⟨db, [], response⟩ =
      .ok ⟨(), ⟨db, [], response⟩, [.assign taxi customer]⟩ := rfl
  unfold assign
  rw [Effect.acts_bind_of_ok recorded, Effect.acts_bind_of_ok queried]
  rfl

/-- `assign` commits: the assignment is stored, and the taxi is sent to the position of the
customer and the customer told. -/
structure Commits (now : Timestamp) (taxi : TaxiId) (customer : Id) (server : KafkaServer) :
    Prop where
  ends : (assign now taxi customer).Ends server
  clean : ∀ act ∈ (assign now taxi customer).acts server, ¬ act.IsFailure
  service : ((assign now taxi customer).last server).db.serviceOf taxi = some customer
  dest : ((assign now taxi customer).last server).db.destOf taxi = server.db.customerCoord customer
  keys : (server.db.assignTaxi now taxi customer).ForeignKeys
  told : ∃ goTo accepted,
    Act.responses ((assign now taxi customer).acts server) = [goTo, accepted] ∧
    goTo.subject = .response .taxiGoTo ∧ goTo.taxiId = taxi ∧
    some goTo.coord = server.db.customerCoord customer ∧
    accepted.subject = .response .customerServiceAccepted ∧ accepted.taxiId = taxi ∧
    accepted.id = customer

/-- What the tables say of a stored taxi which is assigned to a stored customer. -/
theorem trips_of_assigned {tables : Tables} (taxiStored : (db.taxiCoord taxi).isSome)
    (position : db.customerCoord customer = some coord)
    (written : tables = db.assignTaxi now taxi customer) :
    tables.serviceOf taxi = some customer ∧ tables.destOf taxi = some coord := by
  obtain ⟨place, stands⟩ := Option.isSome_iff_exists.mp taxiStored
  have trips : tables.trips = db.trips.assign taxi customer := by
    rw [written, Tables.trips_assignTaxi]
  have assigned : db.trips.assign taxi customer =
      { db.trips with
        service := Function.update db.trips.service taxi (some customer)
        dest := Function.update db.trips.dest taxi (some coord) } := by
    have stored : db.trips.customerAt customer = some coord := position
    have there : db.trips.taxiAt taxi = some place := stands
    simp only [Trips.assign, stored, there, Option.map_some]
  rw [assigned] at trips
  constructor
  · exact (congrFun (congrArg Trips.service trips) taxi).trans (Function.update_self ..)
  · exact (congrFun (congrArg Trips.dest trips) taxi).trans (Function.update_self ..)

/-- The foreign keys of a stored taxi assigned to a stored customer hold exactly when a location
has the identifier of the customer. -/
theorem assignTaxi_keys_iff (taxiStored : (db.taxiCoord taxi).isSome)
    (customerStored : (db.customerCoord customer).isSome) :
    (db.assignTaxi now taxi customer).ForeignKeys ↔ (db.locationCoord customer).isSome := by
  obtain ⟨row, found⟩ := Option.isSome_iff_exists.mp
    (by simpa [Tables.taxiCoord] using taxiStored)
  obtain ⟨waiting, present⟩ := Option.isSome_iff_exists.mp
    (by simpa [Tables.customerCoord] using customerStored)
  rw [Tables.foreignKeys_assignTaxi_iff found present, Tables.locationCoord, Option.isSome_map]

/-- `assign` commits where its assignment violates no foreign key. -/
theorem commits_of_keys (taxiStored : (db.taxiCoord taxi).isSome)
    (customerStored : (db.customerCoord customer).isSome)
    (literal : Statement.quotable customer = true)
    (keys : (db.assignTaxi now taxi customer).ForeignKeys) :
    Commits now taxi customer ⟨db, [], response⟩ := by
  obtain ⟨coord, position⟩ := Option.isSome_iff_exists.mp customerStored
  obtain ⟨service, dest⟩ := trips_of_assigned taxiStored position rfl
  have ran := @assign_of_stored now db ⟨_, keys⟩ response taxi customer coord literal rfl dest
  obtain ⟨last, acts⟩ := Effect.last_of_ok ran
  refine ⟨⟨_, ran⟩, ?_, ?_, ?_, keys, ?_⟩
  · rw [acts]
    simp
  · rw [last]
    exact service
  · rw [last]
    exact dest.trans position.symm
  · rw [acts]
    exact ⟨_, _, rfl, rfl, rfl, position.symm, rfl, rfl, rfl⟩

/-- Where taxi and customer are stored, `assign` commits exactly when a location has the identifier
of the customer. -/
theorem commits_iff (taxiStored : (db.taxiCoord taxi).isSome)
    (customerStored : (db.customerCoord customer).isSome)
    (literal : Statement.quotable customer = true) :
    Commits now taxi customer ⟨db, [], response⟩ ↔ (db.locationCoord customer).isSome := by
  rw [← @assignTaxi_keys_iff now db taxi customer taxiStored customerStored]
  constructor
  · exact fun commits => commits.keys
  · exact commits_of_keys taxiStored customerStored literal

end KafkaServer

/-- Assigning a stored taxi to a stored customer, whose identifier `NEW_CUSTOMER` accepts, commits
exactly when a location has that identifier. -/
theorem assignment_storable_iff (db : Db) (now : Timestamp) (taxi : TaxiId) (customer : Id)
    (response : Message) (taxiStored : (db.taxiCoord taxi).isSome)
    (customerStored : (db.customerCoord customer).isSome)
    (literal : Statement.quotable customer = true) :
    KafkaServer.Commits now taxi customer ⟨db, [], response⟩ ↔
      (db.locationCoord customer).isSome :=
  KafkaServer.commits_iff taxiStored customerStored literal

/-- A taxi, the customer `A` and the customer `B`, whose identifier no location has. -/
def strangerJoins : List System.Event :=
  Town.join 1 ++ [Town.register 65 ⟨1, 1⟩, Town.register 66 ⟨2, 2⟩]

theorem strangerJoins_survives :
    ((System.machine Town.session).exec (System.start Town.locations) strangerJoins).isSome := by
  decide +kernel

/-- The taxi cannot be assigned to the stored customer `B`. -/
theorem stranger_unassignable :
    ¬ ∀ (db : Db) (now : Timestamp) (taxi : TaxiId) (customer : Id) (response : Message),
      (db.taxiCoord taxi).isSome → (db.customerCoord customer).isSome →
      Statement.quotable customer = true →
      KafkaServer.Commits now taxi customer ⟨db, [], response⟩ := by
  intro claimed
  let db := (Town.reach strangerJoins strangerJoins_survives).db
  have taxiStored : (db.taxiCoord 1).isSome := by decide +kernel
  have customerStored : (db.customerCoord 66).isSome := by decide +kernel
  have literal : Statement.quotable 66 = true := by decide
  have place := (KafkaServer.commits_iff taxiStored customerStored literal).mp
    (claimed db 0 1 66 .new taxiStored customerStored literal)
  have nowhere : db.locationCoord 66 = none := by decide +kernel
  rw [nowhere] at place
  cases place

/-- Taxi 1 can be assigned to `A`. -/
theorem assignment_storable_a :
    KafkaServer.Commits 0 1 65
      ⟨(Town.reach strangerJoins strangerJoins_survives).db, [], .new⟩ := by
  have located :
      ((Town.reach strangerJoins strangerJoins_survives).db.locationCoord 65).isSome := by
    decide +kernel
  exact (assignment_storable_iff _ 0 1 65 .new (by decide +kernel) (by decide +kernel)
    (by decide)).mpr located

/-! ### Replies to a service request -/

/-- The subjects of the responses to customers. -/
def SubjResponse.isCustomer : SubjResponse → Bool
  | .customerDisconnect | .customerPriority | .customerPickedUp | .customerDroppedOff
  | .customerEnqueued | .customerServiceCompleted | .customerServiceAccepted
  | .customerServiceDenied => true
  | _ => false

/-- The message has a `CUSTOMER_*` subject and is addressed to the customer. -/
def Message.tellsCustomer (customer : Id) (message : Message) : Bool :=
  match message.subject with
  | .response answer => answer.isCustomer && message.id = customer
  | _ => false

/-- The message sends a taxi somewhere. -/
def Message.sendsTaxi (message : Message) : Bool := message.subject = .response .taxiGoTo

/-- A service request is answered by exactly one of its three replies, and sends at most one
taxi. -/
structure AnsweredOnce (customer : Id) (responses : List Message) : Prop where
  once : ∃ reply, responses.filter (Message.tellsCustomer customer) = [reply] ∧
    (reply.subject = .response .customerEnqueued ∨
      reply.subject = .response .customerServiceAccepted ∨
      reply.subject = .response .customerServiceDenied)
  taxi : (responses.filter Message.sendsTaxi).length ≤ 1

namespace KafkaServer

variable {now : Timestamp} {db : Db} {response request : Message} {taxi : TaxiId} {location : Id}

/-- The response of a request which is answered by a single reply. -/
theorem answeredOnce_singleton {customer : Id} {reply : Message} (addressed : reply.id = customer)
    (subject : reply.subject = .response .customerEnqueued ∨
      reply.subject = .response .customerServiceAccepted ∨
      reply.subject = .response .customerServiceDenied) : AnsweredOnce customer [reply] := by
  have tells : reply.tellsCustomer customer = true := by
    rcases subject with same | same | same <;>
      simp [Message.tellsCustomer, same, addressed, SubjResponse.isCustomer]
  have stays : reply.sendsTaxi = false := by
    rcases subject with same | same | same <;> simp [Message.sendsTaxi, same]
  exact ⟨⟨reply, by simp [tells], subject⟩, by simp [stays]⟩

/-- Failures of statements are no responses. -/
@[simp] theorem responses_failed (errors : List SqlError) :
    Act.responses (errors.map Act.failed) = [] := by
  induction errors with
  | nil => rfl
  | cons error errors inductionHypothesis => exact inductionHypothesis

/-- While no taxi is connected a service request is answered by `CUSTOMER_ENQUEUED`. -/
theorem responses_enqueued (none : db.available = none) :
    Act.responses ((onServiceRequest now request).acts ⟨db, [], response⟩) =
      [{ response with id := request.id, subject := .response .customerEnqueued }] := by
  let named : Message := { response with id := request.id }
  have set : setResponse (fun response => { response with id := request.id })
      ⟨db, [], response⟩ = .ok ⟨(), ⟨db, [], named⟩, []⟩ := rfl
  let answer := DbConnectionHandler.query now [.enqueue request.id] [] db
  have queued : enqueue now request.id ⟨db, [], named⟩ =
      .ok ⟨(), ⟨answer.db, answer.outages, named⟩, answer.failures.map .failed ++ []⟩ := rfl
  unfold onServiceRequest
  rw [Effect.acts_bind_of_ok checkAvailableTaxis_eq, Effect.acts_bind_of_ok set, none]
  simp only []
  rw [Effect.acts_bind_of_ok queued]
  simp only [Act.responses_append, responses_failed]
  rfl

/-- Where the destination is refused it is answered by `CUSTOMER_SERVICE_DENIED`. -/
theorem responses_denied (found : db.available = some taxi)
    (refused : ¬ Destinable db.toTables request.id request.charFromData) :
    Act.responses ((onServiceRequest now request).acts ⟨db, [], response⟩) =
      [{ response with id := request.id, subject := .response .customerServiceDenied }] := by
  let named : Message := { response with id := request.id }
  have set : setResponse (fun response => { response with id := request.id })
      ⟨db, [], response⟩ = .ok ⟨(), ⟨db, [], named⟩, []⟩ := rfl
  obtain ⟨error, ran⟩ := @setDestination_of_not now db named _ _ refused
  unfold onServiceRequest
  rw [Effect.acts_bind_of_ok checkAvailableTaxis_eq, Effect.acts_bind_of_ok set, found]
  simp only []
  rw [Effect.acts_bind_of_ok ran]
  rfl

/-- Where the destination is stored it is answered by `assign`, and once more if that ends. -/
theorem responses_assigned (found : db.available = some taxi)
    (destinable : Destinable db.toTables request.id request.charFromData) :
    ∃ next : Db, next.toTables = db.setDestination now request.id request.charFromData ∧
      (onServiceRequest now request).acts ⟨db, [], response⟩ =
        (assign now taxi request.id >>= fun _ => produce).acts
          ⟨next, [], { response with id := request.id }⟩ := by
  let named : Message := { response with id := request.id }
  have set : setResponse (fun response => { response with id := request.id })
      ⟨db, [], response⟩ = .ok ⟨(), ⟨db, [], named⟩, []⟩ := rfl
  obtain ⟨next, tables, ran⟩ := @setDestination_of now db named _ _ destinable
  refine ⟨next, tables, ?_⟩
  unfold onServiceRequest
  rw [Effect.acts_bind_of_ok checkAvailableTaxis_eq, Effect.acts_bind_of_ok set, found]
  simp only []
  rw [Effect.acts_bind_of_ok ran]
  rfl

/-- A service request that reaches `assign` is answered twice, or Central dies of it. -/
theorem not_answeredOnce_of_assigned (stored : (db.customerCoord request.id).isSome)
    (found : db.available = some taxi)
    (destinable : Destinable db.toTables request.id request.charFromData) :
    ¬ AnsweredOnce request.id
      (Act.responses ((onServiceRequest now request).acts ⟨db, [], response⟩)) := by
  obtain ⟨next, tables, equal⟩ :=
    @responses_assigned now db response request taxi found destinable
  have trips : next.trips = db.trips.setDestination request.id request.charFromData := by
    rw [tables, Tables.trips_setDestination]
  have taxiStored : (next.taxiCoord taxi).isSome := by
    have same : next.taxiCoord taxi = db.taxiCoord taxi := congrFun (congrArg Trips.taxiAt trips) taxi
    rw [same]
    exact Tables.taxiAt_available found
  have customerStored : (next.customerCoord request.id).isSome := by
    have same : next.customerCoord request.id = db.customerCoord request.id :=
      congrFun (congrArg Trips.customerAt trips) request.id
    rw [same]
    exact stored
  have literal := destinable.2.1
  rw [equal]
  rintro ⟨⟨reply, once, _⟩, _⟩
  by_cases keys : (next.assignTaxi now taxi request.id).ForeignKeys
  · -- `assign` has produced the response which is produced once more.
    obtain ⟨coord, position⟩ := Option.isSome_iff_exists.mp customerStored
    obtain ⟨_, dest⟩ := trips_of_assigned taxiStored position rfl
    have ran := @assign_of_stored now next ⟨_, keys⟩ { response with id := request.id } taxi
      request.id coord literal rfl dest
    rw [Effect.acts_bind_of_ok ran] at once
    let told := assignedResponse taxi request.id coord { response with id := request.id }
    let goTo : Message := { told with subject := .response .taxiGoTo }
    let accepted : Message := { told with subject := .response .customerServiceAccepted }
    change [goTo, accepted, accepted].filter (Message.tellsCustomer request.id) = [reply] at once
    have passes : goTo.tellsCustomer request.id = false := rfl
    have tells : accepted.tellsCustomer request.id = true := by
      simp [accepted, told, assignedResponse, Message.tellsCustomer, SubjResponse.isCustomer]
    simp [passes, tells] at once
  · obtain ⟨dies, acts⟩ := @assign_of_refused now next { response with id := request.id } taxi
      request.id literal keys
    rw [Effect.acts_bind_of_not_ends dies, acts] at once
    cases once

/-- A service request of a stored customer is answered once exactly when it does not reach
`assign`. -/
theorem answeredOnce_iff (stored : (db.customerCoord request.id).isSome) :
    AnsweredOnce request.id
        (Act.responses ((onServiceRequest now request).acts ⟨db, [], response⟩)) ↔
      db.available = none ∨ ¬ Destinable db.toTables request.id request.charFromData := by
  cases found : db.available with
  | none =>
      rw [responses_enqueued found]
      exact iff_of_true (answeredOnce_singleton rfl (.inl rfl)) (.inl rfl)
  | some taxi =>
      by_cases destinable : Destinable db.toTables request.id request.charFromData
      · apply iff_of_false (not_answeredOnce_of_assigned stored found destinable)
        simp [destinable]
      · rw [responses_denied found destinable]
        exact iff_of_true (answeredOnce_singleton rfl (.inr (.inr rfl))) (.inr destinable)

end KafkaServer

/-- A service request of a stored customer is answered by exactly one reply, with at most one taxi
sent, exactly when no taxi is connected or its destination is refused. -/
theorem service_request_answered_once_iff (db : Db) (now : Timestamp) (request response : Message)
    (stored : (db.customerCoord request.id).isSome) :
    AnsweredOnce request.id
        (Act.responses ((KafkaServer.onServiceRequest now request).acts ⟨db, [], response⟩)) ↔
      db.available = none ∨
        ¬ KafkaServer.Destinable db.toTables request.id request.charFromData :=
  KafkaServer.answeredOnce_iff stored

/-- The customer `A` asks for a ride to `J`. -/
def rideToJ : Message :=
  { Message.request Town.session.1 .customerServiceRequest with id := 65 }.setCharData 74

/-- A customer who is assigned a taxi is told twice. -/
theorem acceptance_repeated :
    ¬ ∀ (db : Db) (now : Timestamp) (request response : Message),
      request.subject = .request .customerServiceRequest →
      (db.customerCoord request.id).isSome →
      AnsweredOnce request.id
        (Act.responses ((KafkaServer.onServiceRequest now request).acts ⟨db, [], response⟩)) := by
  intro claimed
  let db := (Town.reach strangerJoins strangerJoins_survives).db
  have stored : (db.customerCoord 65).isSome := by decide +kernel
  have found : db.available = some 1 := by decide +kernel
  have destinable : KafkaServer.Destinable db.toTables 65 74 := by decide +kernel
  exact KafkaServer.not_answeredOnce_of_assigned stored found destinable
    (claimed db 0 rideToJ .new rfl stored)

/-- The request of `A` reaches `assign`, so it is not answered once. -/
theorem service_request_answered_once_a :
    ¬ AnsweredOnce 65 (Act.responses ((KafkaServer.onServiceRequest 0 rideToJ).acts
      ⟨(Town.reach strangerJoins strangerJoins_survives).db, [], .new⟩)) := by
  have found : (Town.reach strangerJoins strangerJoins_survives).db.available = some 1 := by
    decide +kernel
  have destinable : KafkaServer.Destinable
      (Town.reach strangerJoins strangerJoins_survives).db.toTables 65 74 := by
    decide +kernel
  intro once
  rcases (service_request_answered_once_iff _ 0 rideToJ .new (by decide +kernel)).mp once with
    none | refused
  · rw [found] at none
    cases none
  · exact refused destinable

end EasyCab
