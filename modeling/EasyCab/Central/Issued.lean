import EasyCab.Central.Failures
import EasyCab.Central.Trips

/-!
# The statements of a request

`Issued` lists the statements which the switch sends for a request, by the subject
of the request, `Told` the coordinates which it writes to `response`, and `Answered` what is
known of the messages which it puts on `responses`. Whatever outages and errors its queries
meet, and also where it dies, a request keeps every invariant of the database and of
`response` which these cannot break.
-/

namespace EasyCab

open Library

namespace KafkaServer

/-- The subjects under which a taxi reports where it is. -/
def Reports (subject : SubjRequest) : Prop :=
  subject = .taxiMove ∨ subject = .taxiDestinationReached

/-- Whether a subject orders a taxi to stop or to go on. -/
def stop? : SubjRequest → Option Bool
  | .orderTaxiStop => some true
  | .orderTaxiContinue => some false
  | _ => none

/-- Whether a subject says that a taxi is ready or that it is not. -/
def ready? : SubjRequest → Option Bool
  | .taxiReady => some true
  | .taxiNotReady => some false
  | _ => none

/-- Where a request orders its taxi to go. -/
inductive Ordered (request : Message) : SubjRequest → Coordinate → Prop
  | goTo : Ordered request .orderTaxiGoTo request.coord
  | base : Ordered request .orderTaxiReturnToBase ⟨0, 0⟩

/-- The statements which a request makes Central send. -/
inductive Issued (request : Message) : SubjRequest → Statement → Prop
  /-- Any subject may read. -/
  | reads {subject : SubjRequest} (rows : Tables → ResultSet) :
      Issued request subject (.select rows)
  /-- Any subject may read a row by a quoted key. -/
  | readsQuoted {subject : SubjRequest} (chars : List Id) (rows : Tables → ResultSet) :
      Issued request subject (.quoting chars (.select rows))
  | assigned {subject : SubjRequest} (taxi : TaxiId) (customer : Id) :
      Issued request subject (.assignTaxi taxi customer)
  | deleted : Issued request .orderCustomerDisconnect (.deleteCustomer request.id)
  | disconnected : Issued request .orderTaxiDisconnect (.setConnected request.taxiId false)
  | inserted : Issued request .newCustomer (.insertCustomer request.id request.coord)
  | pingedTaxi : Issued request .taxiPing (.pingTaxi request.taxiId)
  | pingedCustomer : Issued request .customerPing (.pingCustomer request.id)
  | moved {subject : SubjRequest} (reports : Reports subject) :
      Issued request subject (.moveTaxi request.taxiId request.coord)
  | movedCustomer {subject : SubjRequest} (customer : Id) (reports : Reports subject) :
      Issued request subject (.moveCustomer customer request.coord)
  | flagged {subject : SubjRequest} (customer : Id) (val : Bool) :
      Issued request subject (.setOnboardFlag customer val)
  | carried {subject : SubjRequest} (customer : Option Id) :
      Issued request subject (.setCustomerId request.taxiId customer)
  | readied {subject : SubjRequest} {ready : Bool} (readies : ready? subject = some ready) :
      Issued request subject (.setReady request.taxiId ready)
  | enqueued : Issued request .customerServiceRequest (.enqueue request.id)
  | destined : Issued request .customerServiceRequest
      (.setDestination request.id request.charFromData)
  | nextRequested : Issued request .customerUpdateNextRequest
      (.setNextRequest request.id request.intFromData)
  | waited : Issued request .taxiUpdateWaitTime (.setWaitTime request.taxiId request.intFromData)
  | redirected {subject : SubjRequest} {coord : Coordinate}
      (ordered : Ordered request subject coord) :
      Issued request subject (.redirectTaxi request.taxiId coord)
  | landed {subject : SubjRequest} : Issued request subject (.landNamesake request.taxiId)
  | stopped {subject : SubjRequest} {stop : Bool} (orders : stop? subject = some stop) :
      Issued request subject (.setStopped request.taxiId stop)
  | movedLocation : Issued request .orderLocationMove (.moveLocation request.id request.coord)
  | prioritized : Issued request .orderCustomerPriority (.clearInQueue request.id)

/-- The coordinates which a request makes Central write to `response`. -/
inductive Told (request : Message) : SubjRequest → Db → Coordinate → Prop
  /-- The stored destination of a taxi. -/
  | dest {subject : SubjRequest} {db : Db} {taxi : TaxiId} {coord : Coordinate}
      (stored : db.destOf taxi = some coord) : Told request subject db coord
  /-- The destination of a customer. -/
  | destination {subject : SubjRequest} {db : Db} {customer : Id} {coord : Coordinate}
      (stored : db.destinationOf customer = some coord) : Told request subject db coord
  /-- Where the taxi is ordered to go. -/
  | ordered {subject : SubjRequest} {db : Db} {coord : Coordinate}
      (ordered : Ordered request subject coord) : Told request subject db coord

/-- The response which echoes the identifier of the taxi under these subjects. -/
def echo? : SubjRequest → Option SubjResponse
  | .orderTaxiStop => some .taxiStop
  | .orderTaxiContinue => some .taxiContinue
  | .orderTaxiDisconnect => some .taxiDisconnect
  | _ => none

/-- The responses which are such an echo. -/
def isEcho (answer : SubjResponse) : Bool :=
  answer = .taxiStop || answer = .taxiContinue || answer = .taxiDisconnect

/-- What is known of a message which a request makes Central put on `responses`. -/
inductive Answered (request : Message) : SubjRequest → Message → Prop
  | plain {subject : SubjRequest} {message : Message} {answer : SubjResponse}
      (answers : message.subject = .response answer) (other : isEcho answer = false) :
      Answered request subject message
  | echoes {subject : SubjRequest} {message : Message} {answer : SubjResponse}
      (echoes : echo? subject = some answer) (answers : message.subject = .response answer)
      (same : message.taxiId = request.taxiId) : Answered request subject message

/-- What is true of the messages put on `responses`. -/
def Produces (Produced : Message → Prop) : Act → Prop
  | .produce message => Produced message
  | _ => True

/-- A handler keeps an invariant of the database and of `response`, and puts only such messages
on `responses`. -/
abbrev Maintains {Value : Type} (Inv : Db → Message → Prop) (Produced : Message → Prop)
    (handler : Handler Value) : Prop :=
  Effect.Maintains (fun server => Inv server.db server.response) (Produces Produced) handler

/-- From this state on a handler keeps an invariant of the database and of `response`, and puts only
such messages on `responses`. -/
abbrev Stays {Value : Type} (Inv : Db → Message → Prop) (Produced : Message → Prop)
    (handler : Handler Value) (server : KafkaServer) : Prop :=
  Effect.Stays (fun server => Inv server.db server.response) (Produces Produced) handler server

/-- An invariant of the database and of `response`, the coordinates which may be written to it and
the messages which may be put on `responses`, such that a request under a subject cannot break
them. Besides the coordinate and, for a new customer, the session, the invariant does not
look at what is written to `response`. -/
structure Keeps (request : Message) (subject : SubjRequest) (Inv : Db → Message → Prop)
    (Fine : Coordinate → Prop) (Produced : Message → Prop) : Prop where
  statements : ∀ statement, Issued request subject statement →
    ∀ response, statement.Maintains (Inv · response)
  produced : ∀ {db message}, Answered request subject message → Inv db message → Produced message
  told : ∀ {db response coord}, Told request subject db coord → Inv db response → Fine coord
  coord : ∀ {db response coord}, Fine coord → Inv db response →
    Inv db { response with coord := coord }
  id : ∀ {db response id}, Inv db response → Inv db { response with id := id }
  taxiId : ∀ {db response taxiId}, Inv db response → Inv db { response with taxiId := taxiId }
  subject : ∀ {db response subject}, Inv db response → Inv db { response with subject := subject }
  data : ∀ {db response data}, Inv db response → Inv db { response with data := data }

section Maintains

variable {Inv : Db → Message → Prop} {Fine : Coordinate → Prop} {Produced : Message → Prop}
  {now : Timestamp} {session : Uuid} {request : Message} {subject : SubjRequest}

/-! ### Queries and responses -/

theorem query_maintains {statements : List Statement}
    (keeps : ∀ statement ∈ statements, ∀ response, statement.Maintains (Inv · response)) :
    Maintains Inv Produced (query now statements) := by
  intro server holds
  refine ⟨DbConnectionHandler.query_maintains (fun statement member => keeps statement member _)
    holds, fun act member => ?_⟩
  obtain ⟨error, _, rfl⟩ := List.mem_map.mp member
  trivial

theorem run_maintains {statements : List Statement}
    (keeps : ∀ statement ∈ statements, ∀ response, statement.Maintains (Inv · response)) :
    Maintains Inv Produced (run now statements) :=
  (query_maintains keeps).bind fun _ => Effect.maintains_pure

theorem setResponse_maintains {update : Message → Message}
    (kept : ∀ db response, Inv db response → Inv db (update response)) :
    Maintains Inv Produced (setResponse update) :=
  Effect.maintains_modify fun _ holds => kept _ _ holds

/-- `produce` is fine where `response` may be produced. -/
theorem produce_stays {server : KafkaServer} (holds : Inv server.db server.response)
    (produced : Produced server.response) : Stays Inv Produced produce server := by
  refine ⟨holds, fun act member => ?_⟩
  obtain rfl := List.mem_singleton.mp member
  exact produced

/-- A response which echoes no identifier keeps the invariant and is one which may be produced. -/
theorem Keeps.respond_maintains (keeps : Keeps request subject Inv Fine Produced)
    {answer : SubjResponse} (other : isEcho answer = false) :
    Maintains Inv Produced (respond answer) := by
  intro server holds
  have told : Inv server.db { server.response with subject := .response answer } :=
    keeps.subject holds
  exact .modify_bind told (produce_stays told (keeps.produced (.plain rfl other) told))

/-- Every `SELECT` keeps every invariant. -/
theorem select_keeps (rows : Tables → ResultSet) (response : Message) :
    (Statement.select rows).Maintains (Inv · response) := Statement.maintains_select rows

/-- Every `SELECT` with a quoted key keeps every invariant. -/
theorem quotedSelect_keeps (chars : List Id) (rows : Tables → ResultSet) (response : Message) :
    (Statement.quoting chars (.select rows)).Maintains (Inv · response) :=
  Statement.maintains_quoting fun _ => Statement.maintains_select rows

/-! ### Helper functions -/

theorem checkAvailableTaxis_maintains : Maintains Inv Produced (checkAvailableTaxis now) := by
  refine (query_maintains ?_).bind fun answer => ?_
  · simpa [Statement.selectAvailable] using select_keeps _
  · cases answer with
    | error error => exact Effect.maintains_pure
    | ok results =>
        simp only
        split
        · exact Effect.maintains_pure
        · exact Effect.maintains_demand.bind fun _ => Effect.maintains_pure

theorem checkQueue_maintains : Maintains Inv Produced (checkQueue now) := by
  refine (query_maintains ?_).bind fun answer => ?_
  · simpa [Statement.selectQueueHead] using select_keeps _
  · cases answer with
    | error error => exact Effect.maintains_pure
    | ok results =>
        simp only
        split
        · exact Effect.maintains_pure
        · exact Effect.maintains_demand.bind fun _ => Effect.maintains_pure

theorem firstChar_maintains {rows : Tables → ResultSet} :
    Maintains Inv Produced (firstChar now (.select rows)) := by
  refine (query_maintains ?_).bind fun answer => ?_
  · simpa using select_keeps _
  · cases answer with
    | error error => exact Effect.maintains_pure
    | ok results =>
        simp only
        split <;> exact Effect.maintains_pure

/-- Reading a column of a taxi takes one query, and answers what is stored or nothing. -/
theorem firstChar_answers {taxi : TaxiId} {read : TaxiRow → Option Id} {server : KafkaServer}
    {outcome : Outcome KafkaServer Act (Option Id)}
    (ran : firstChar now (.select fun tables =>
      (tables.taxis.lookup taxi).toList.map fun row => [.ofChar? (read row)]) server = .ok outcome) :
    outcome.state = { server with outages := server.outages.tail } ∧
      ∀ customer ∈ outcome.value, (server.db.taxis.lookup taxi).bind read = some customer := by
  have answers := @firstChar_reads now server taxi read
  rw [Reads] at answers
  rw [answers] at ran
  cases ran
  refine ⟨rfl, fun customer answered => ?_⟩
  unfold unlessOut at answered
  split at answered
  · cases answered
  · exact answered

theorem getDestination_maintains {customer : Id} :
    Maintains Inv Produced (getDestination now customer) := by
  refine (query_maintains ?_).bind fun answer => ?_
  · simpa [Statement.selectDestination] using quotedSelect_keeps _ _
  · cases answer with
    | error error => exact Effect.maintains_pure
    | ok results =>
        simp only
        split
        · split
          · exact Effect.maintains_pure
          · exact Effect.maintains_demand.bind fun _ => Effect.maintains_demand.bind fun _ =>
              Effect.maintains_pure
        · exact Effect.maintains_pure

theorem refreshMap_maintains : Maintains Inv Produced (refreshMap now) := by
  refine (query_maintains ?_).bind fun answer => ?_
  · simpa [Statement.selectLocations, Statement.selectCustomers, Statement.selectTaxis] using
      ⟨select_keeps _, select_keeps _, select_keeps _⟩
  · cases answer with
    | error error => exact Effect.maintains_pure
    | ok results => exact Effect.maintains_demand.bind fun _ => Effect.maintains_record trivial

/-- The two columns which `assign` reads are the stored destination. -/
theorem destOf_of_columns {tables : Tables} {taxi : TaxiId} {x y : Int32}
    (first : intColumn (((tables.taxis.lookup taxi).toList.map fun row =>
      [Field.ofInt? row.destX, .ofInt? row.destY]).headD []) 0 = .ok x)
    (second : intColumn (((tables.taxis.lookup taxi).toList.map fun row =>
      [Field.ofInt? row.destX, .ofInt? row.destY]).headD []) 1 = .ok y) :
    tables.destOf taxi = some ⟨x, y⟩ := by
  unfold Tables.destOf
  cases found : tables.taxis.lookup taxi with
  | none => simp [found, intColumn, column] at first
  | some row =>
      obtain ⟨id, taxiX, taxiY, destX, destY⟩ := row
      cases destX <;> cases destY <;>
        simp_all [intColumn, column, Field.ofInt?, stoi]

/-! ### The coordinates which are read

All lemmas below are about a request and what it cannot break. -/

variable (keeps : Keeps request subject Inv Fine Produced)

include keeps

/-- What `assign` reads back is the stored destination of the taxi. -/
theorem Keeps.query_assign_fine {taxi : TaxiId} {customer : Id} {server : KafkaServer}
    (holds : Inv server.db server.response)
    {outcome : Outcome KafkaServer Act (Except SqlError DbResults)}
    (ran : query now [.assignTaxi taxi customer, .selectDest taxi] server = .ok outcome)
    {results : DbResults} {x y : Int32} (value : outcome.value = .ok results)
    (first : intColumn results.getRow.1 0 = .ok x)
    (second : intColumn results.getRow.1 1 = .ok y) : Fine ⟨x, y⟩ := by
  cases ran
  let rows : Tables → ResultSet := fun tables =>
    (tables.taxis.lookup taxi).toList.map fun row => [.ofInt? row.destX, .ofInt? row.destY]
  let answer := DbConnectionHandler.query now [.assignTaxi taxi customer, .select rows]
    server.outages server.db
  have kept : Inv answer.db server.response := by
    refine @DbConnectionHandler.query_maintains (Inv · server.response) now _ server.outages
      server.db ?_ holds
    simpa using ⟨keeps.statements _ (.assigned taxi customer) server.response,
      Statement.maintains_select rows⟩
  have silent {next : Db} {answered : Option ResultSet}
      (ran : Statement.assignTaxi taxi customer now server.db = .ok (next, answered)) :
      answered = none := by
    simp only [Statement.assignTaxi, Statement.quoting_eq_ok_iff,
      Statement.update_eq_ok_iff] at ran
    exact ran.2.2
  change answer.value = .ok results at value
  have answers : (∃ error, answer.value = .error error) ∨ answer.value = .ok (.ofResults []) ∨
      answer.value = .ok (.ofResults [rows answer.db.toTables]) :=
    DbConnectionHandler.query_update_select silent
  rcases answers with ⟨error, failed⟩ | nothing | read
  · rw [value] at failed
    cases failed
  · rw [value, Except.ok.injEq] at nothing
    subst nothing
    cases first
  · rw [value, Except.ok.injEq] at read
    subst read
    rw [DbResults.getRow_ofResults] at first second
    exact keeps.told (.dest (destOf_of_columns first second)) kept

theorem Keeps.assign_maintains {taxi : TaxiId} {customer : Id} :
    Maintains Inv Produced (assign now taxi customer) := by
  have queried : Maintains Inv Produced (query now [.assignTaxi taxi customer, .selectDest taxi]) := by
    apply query_maintains
    simpa [Statement.selectDest] using
      ⟨keeps.statements _ (.assigned taxi customer), select_keeps _⟩
  refine (Effect.maintains_record trivial).bind fun _ server holds => ?_
  refine (queried server holds).bind_of fun ⟨answer, server, acts⟩ ran holds' => ?_
  refine .demand_bind holds' fun results answered => ?_
  refine .demand_bind holds' fun x first => .demand_bind holds' fun y second => ?_
  have there : Fine ⟨x, y⟩ := by
    cases answer with
    | error error => cases answered
    | ok rows =>
        cases answered
        exact keeps.query_assign_fine holds ran rfl first second
  have told : Maintains Inv Produced (setResponse fun response =>
      { response with taxiId := taxi, id := customer, coord := ⟨x, y⟩ }) := by
    refine setResponse_maintains fun db response holds => ?_
    have known : Inv db { response with taxiId := taxi } := keeps.taxiId holds
    have named : Inv db { response with taxiId := taxi, id := customer } := keeps.id known
    exact keeps.coord there named
  exact (told.bind fun _ => (keeps.respond_maintains rfl).bind fun _ =>
    keeps.respond_maintains rfl) _ holds'

/-- What `getDestination` answers is the destination of the customer. -/
theorem Keeps.getDestination_fine {customer : Id} {server : KafkaServer}
    (holds : Inv server.db server.response) {outcome : Outcome KafkaServer Act (Option Coordinate)}
    (ran : getDestination now customer server = .ok outcome) {coord : Coordinate}
    (found : outcome.value = some coord) : Fine coord := by
  obtain ⟨middle, last, queried, continued, rfl⟩ := Effect.bind_eq_ok_iff.mp ran
  cases queried
  simp only [DbConnectionHandler.query_one] at continued
  suffices stored : server.db.destinationOf customer = some coord from
    keeps.told (.destination stored) holds
  by_cases outage : server.outages.head? = some true
  · rw [if_pos outage] at continued
    cases continued
    cases found
  · rw [if_neg outage] at continued
    by_cases literal : Statement.quotable customer = true
    · cases stored : server.db.destinationOf customer with
      | none => simp_all [Statement.selectDestination, Statement.quoting, Statement.select]
      | some place =>
          obtain ⟨x, y⟩ := place
          simp_all [Statement.selectDestination, Statement.quoting, Statement.select, Field.empty,
            stoi, Effect.bind_eq_ok_iff]
    · simp_all [Statement.selectDestination, Statement.quoting]

omit keeps in
/-- `assign` leaves the response which it produced last. -/
theorem assign_response_subject {taxi : TaxiId} {customer : Id} {server : KafkaServer}
    {outcome : Outcome KafkaServer Act Unit} (ran : assign now taxi customer server = .ok outcome) :
    outcome.state.response.subject = .response .customerServiceAccepted := by
  simp only [assign, respond, produce, setResponse, Effect.bind_eq_ok_iff, Effect.modify_eq_ok_iff,
    Effect.get_eq_ok_iff, Effect.record_eq_ok_iff] at ran
  obtain ⟨_, _, _, ⟨_, _, _, ⟨_, _, _, ⟨_, _, _, ⟨_, _, _, ⟨_, last, _, ⟨_, _, _, ⟨_, _, rfl, ⟨_, _, rfl,
    rfl, rfl⟩, rfl⟩, rfl⟩, rfl⟩, rfl⟩, rfl⟩, rfl⟩, rfl⟩, rfl⟩ := ran
  rfl

/-! ### The cases of the switch

Each case keeps what the statements issued for its subject keep. -/

theorem onTaxiArrival_maintains : Maintains Inv Produced (onTaxiArrival now request) := by
  refine checkQueue_maintains.bind fun found => ?_
  cases found with
  | none => exact Effect.maintains_pure
  | some customer => exact keeps.assign_maintains

theorem setOnboard_maintains {customer : Id} {val : Bool} :
    Maintains Inv Produced (setOnboard now customer request.taxiId val) := by
  apply run_maintains
  simpa using ⟨keeps.statements _ (.flagged _ _), keeps.statements _ (.carried _)⟩

theorem reportPosition_maintains (reports : Reports subject) :
    Maintains Inv Produced (reportPosition now request) := by
  refine firstChar_maintains.bind fun carried => (run_maintains ?_).bind fun _ =>
    Effect.maintains_pure
  cases carried with
  | none => simpa using keeps.statements _ (.moved reports)
  | some customer =>
      simpa using ⟨keeps.statements _ (.moved reports), keeps.statements _ (.movedCustomer _ reports)⟩

theorem completeService_maintains {customer : Id} :
    Maintains Inv Produced (completeService now request customer) := by
  refine (setOnboard_maintains keeps).bind fun _ =>
    (setResponse_maintains fun _ _ => keeps.id).bind fun _ =>
    (keeps.respond_maintains rfl).bind fun _ => checkQueue_maintains.bind fun found => ?_
  cases found with
  | none => exact Effect.maintains_pure
  | some customer => exact keeps.assign_maintains

/-- The taxi is sent to what was read as the destination of the customer. -/
theorem pickUp_maintains : Maintains Inv Produced (pickUp now request) := by
  refine firstChar_maintains.bind fun service => Effect.maintains_demand.bind fun customer =>
    fun server holds => ?_
  refine (getDestination_maintains server holds).bind_of fun outcome ran holds' => ?_
  obtain ⟨coord, server, acts⟩ := outcome
  refine ((setOnboard_maintains keeps).bind fun _ =>
    (setResponse_maintains fun _ _ => keeps.id).bind fun _ => ?_ : Maintains _ _ _) _ holds'
  cases coord with
  | none => exact keeps.respond_maintains rfl
  | some coord =>
      have there : Fine coord := keeps.getDestination_fine holds ran rfl
      exact (keeps.respond_maintains rfl).bind fun _ =>
        (setResponse_maintains fun _ _ => keeps.taxiId).bind fun _ =>
        (setResponse_maintains fun _ _ => keeps.coord there).bind fun _ =>
        keeps.respond_maintains rfl

theorem onDestinationReached_maintains (reports : Reports subject) :
    Maintains Inv Produced (onDestinationReached now request) := by
  refine (reportPosition_maintains keeps reports).bind fun carried => ?_
  cases carried with
  | none => exact pickUp_maintains keeps
  | some customer => exact completeService_maintains keeps

theorem onTaxiGoTo_maintains {coord : Coordinate}
    (ordered : Ordered request subject coord) :
    Maintains Inv Produced (onTaxiGoTo now { request with coord := coord }) := by
  refine (run_maintains ?_).bind fun _ => (setResponse_maintains fun db response holds => ?_).bind
    fun _ => (keeps.respond_maintains rfl)
  · simpa using ⟨keeps.statements _ (.redirected ordered), keeps.statements _ .landed⟩
  · have known : Inv db { response with taxiId := request.taxiId } := keeps.taxiId holds
    exact keeps.coord (keeps.told (.ordered ordered) holds) known

theorem runOne_maintains {statement : Statement} (issued : Issued request subject statement) :
    Maintains Inv Produced (run now [statement]) := by
  apply run_maintains
  simpa using keeps.statements _ issued

/-- The identifier which is echoed is that of the request. -/
theorem updateAndRespond_maintains {statement : Statement} {answer : SubjResponse}
    (issued : Issued request subject statement) (echoes : echo? subject = some answer) :
    Maintains Inv Produced (updateAndRespond now statement request.taxiId answer) := by
  refine (runOne_maintains keeps issued).bind fun _ server holds => ?_
  have known : Inv server.db { server.response with taxiId := request.taxiId } := keeps.taxiId holds
  have told : Inv server.db
      { server.response with taxiId := request.taxiId, subject := .response answer } :=
    keeps.subject known
  exact .modify_bind known (.modify_bind told
    (produce_stays told (keeps.produced (.echoes echoes rfl rfl) told)))

omit keeps

/-- `response` as the first statement of `newCustomer` leaves it, and as it is for another
subject. -/
def responseFor (request : Message) (subject : SubjRequest) (response : Message) : Message :=
  { response with session := if subject = .newCustomer then request.session else response.session }

/-- `newCustomer` stores the session of the request before anything else. -/
theorem newCustomer_stays {server : KafkaServer} (keeps : Keeps request .newCustomer Inv Fine Produced)
    (holds : Inv server.db (responseFor request .newCustomer server.response)) :
    Stays Inv Produced (newCustomer now session request) server := by
  have renamed : Stays Inv Produced
      (setResponse fun response => { response with session := request.session }) server :=
    ⟨holds, by simp⟩
  refine renamed.bind fun _ => (query_maintains ?_).bind fun answer => ?_
  · simpa [Statement.selectCustomerExists] using quotedSelect_keeps _ _
  · cases answer with
    | error error => exact Effect.maintains_pure
    | ok results =>
        simp only
        split
        · refine (query_maintains ?_).bind fun inserted => ?_
          · simpa using keeps.statements _ .inserted
          · cases inserted with
            | error error => exact Effect.maintains_pure
            | ok _ =>
                intro server holds
                have accepted : Inv server.db { server.response with subject := .response .accept } :=
                  keeps.subject holds
                have told : Inv server.db
                    ({ server.response with subject := .response .accept }.setUuidData session) :=
                  keeps.data accepted
                exact .modify_bind told (produce_stays told (keeps.produced (.plain rfl rfl) told))
        · exact (keeps.respond_maintains rfl)

theorem onServiceRequest_maintains (keeps : Keeps request .customerServiceRequest Inv Fine Produced) :
    Maintains Inv Produced (onServiceRequest now request) := by
  refine checkAvailableTaxis_maintains.bind fun found =>
    (setResponse_maintains fun _ _ => keeps.id).bind fun _ => ?_
  cases found with
  | none => exact (runOne_maintains keeps .enqueued).bind fun _ => (keeps.respond_maintains rfl)
  | some taxi =>
      refine (?_ : Maintains Inv Produced (setDestination now request.id request.charFromData)).bind
        fun stored => ?_
      · refine (query_maintains ?_).bind fun answer => ?_
        · simpa using keeps.statements _ .destined
        · cases answer <;> exact Effect.maintains_pure
      · cases stored with
        | true =>
            intro server holds
            refine (keeps.assign_maintains server holds).bind_of fun outcome ran holds => ?_
            have accepted : outcome.state.response.subject = .response .customerServiceAccepted :=
              assign_response_subject ran
            exact produce_stays holds (keeps.produced (.plain accepted rfl) holds)
        | false => exact (keeps.respond_maintains rfl)

theorem onCustomerDisconnect_maintains
    (keeps : Keeps request .orderCustomerDisconnect Inv Fine Produced) :
    Maintains Inv Produced (onCustomerDisconnect now request) :=
  (runOne_maintains keeps .deleted).bind fun _ =>
    (setResponse_maintains fun _ _ => keeps.id).bind fun _ => (keeps.respond_maintains rfl)

theorem onCustomerPriority_maintains
    (keeps : Keeps request .orderCustomerPriority Inv Fine Produced) :
    Maintains Inv Produced (onCustomerPriority now request) :=
  (runOne_maintains keeps .prioritized).bind fun _ =>
    (setResponse_maintains fun _ _ => keeps.id).bind fun _ => (keeps.respond_maintains rfl)

/-- The switch stays within what its subject cannot break. -/
theorem handle_stays {server : KafkaServer} (keeps : Keeps request subject Inv Fine Produced)
    (holds : Inv server.db (responseFor request subject server.response)) :
    Stays Inv Produced (handle now session subject request) server := by
  by_cases joins : subject = .newCustomer
  · subst joins
    exact (newCustomer_stays keeps holds).bind fun _ => Effect.maintains_pure
  · rw [responseFor, if_neg joins] at holds
    suffices maintains : Maintains Inv Produced (handle now session subject request) from
      maintains _ holds
    cases subject with
    | newCustomer => exact absurd rfl joins
    | taxiReconnected | newTaxi =>
        exact (onTaxiArrival_maintains keeps).bind fun _ => Effect.maintains_pure
    | orderCustomerDisconnect =>
        exact (onCustomerDisconnect_maintains keeps).bind fun _ => Effect.maintains_pure
    | orderTaxiDisconnect =>
        exact (updateAndRespond_maintains keeps .disconnected rfl).bind fun _ => Effect.maintains_pure
    | taxiPing => exact (runOne_maintains keeps .pingedTaxi).bind fun _ => Effect.maintains_pure
    | taxiDestinationReached =>
        exact (onDestinationReached_maintains keeps (.inr rfl)).bind fun _ => Effect.maintains_pure
    | taxiMove =>
        exact ((reportPosition_maintains keeps (.inl rfl)).bind fun _ =>
          Effect.maintains_pure).bind fun _ => Effect.maintains_pure
    | taxiReady | taxiNotReady =>
        exact (runOne_maintains keeps (.readied rfl)).bind fun _ => Effect.maintains_pure
    | customerPing =>
        exact (runOne_maintains keeps .pingedCustomer).bind fun _ => Effect.maintains_pure
    | customerServiceRequest =>
        exact (onServiceRequest_maintains keeps).bind fun _ => Effect.maintains_pure
    | customerUpdateNextRequest =>
        exact (runOne_maintains keeps .nextRequested).bind fun _ => Effect.maintains_pure
    | taxiUpdateWaitTime =>
        exact (runOne_maintains keeps .waited).bind fun _ => Effect.maintains_pure
    | orderTaxiReturnToBase =>
        exact (onTaxiGoTo_maintains keeps .base).bind fun _ => Effect.maintains_pure
    | orderTaxiGoTo =>
        exact (onTaxiGoTo_maintains keeps .goTo).bind fun _ => Effect.maintains_pure
    | orderTaxiStop | orderTaxiContinue =>
        exact (updateAndRespond_maintains keeps (.stopped rfl) rfl).bind fun _ =>
          Effect.maintains_pure
    | orderLocationMove =>
        exact (runOne_maintains keeps .movedLocation).bind fun _ => Effect.maintains_pure
    | orderCustomerPriority =>
        exact (onCustomerPriority_maintains keeps).bind fun _ => Effect.maintains_pure
    | unlisted code undeclared => exact Effect.maintains_pure

/-- A message which is let through stays within what its subject cannot break. -/
theorem process_keeps {server : KafkaServer} (accepted : accepted? session request = some subject)
    (keeps : Keeps request subject Inv Fine Produced)
    (holds : Inv server.db (responseFor request subject server.response)) :
    Stays Inv Produced (process now session request) server := by
  have handled : Stays Inv Produced
      (handle now session subject request >>= fun refresh =>
        if refresh then refreshMap now else pure ()) server := by
    refine (handle_stays keeps holds).bind fun refresh => ?_
    cases refresh with
    | true => exact refreshMap_maintains
    | false => exact Effect.maintains_pure
  simp only [process, accepted]
  exact .record_bind trivial handled

end Maintains

/-- What is put on `responses` for a message answers it. -/
theorem process_answered {now : Timestamp} {session : Uuid} {request answer : Message}
    {server : KafkaServer} (produced : .produce answer ∈ (process now session request).acts server) :
    ∃ subject, accepted? session request = some subject ∧ Answered request subject answer := by
  cases accepted : accepted? session request with
  | none =>
      simp only [process, accepted] at produced
      cases produced
  | some subject =>
      have kept : Keeps request subject (fun _ _ => True) (fun _ => True) (Answered request subject) :=
        { statements := fun _ _ _ _ _ _ _ _ _ => trivial
          produced := fun answered _ => answered
          told := fun _ _ => trivial
          coord := fun _ _ => trivial
          id := fun _ => trivial
          taxiId := fun _ => trivial
          subject := fun _ => trivial
          data := fun _ => trivial }
      exact ⟨subject, rfl, (process_keeps accepted kept trivial).holds.2 _ produced⟩

/-! ### Sessions

An invariant which looks at nothing but the session of `response`. -/

/-- A message put on `responses` has a session for which an invariant held. -/
def Carries (Inv : Db → List UInt8 → Prop) : Act → Prop
  | .produce message => ∃ db, Inv db message.session
  | _ => True

/-- The session of `response` once the switch has looked at the subject. -/
def sessionFor (request : Message) (subject : SubjRequest) (response : Message) : List UInt8 :=
  if subject = .newCustomer then request.session else response.session

/-- A message which is let through stays within what the statements of its subject keep. -/
theorem process_stays {Inv : Db → List UInt8 → Prop} {now : Timestamp} {session : Uuid}
    {request : Message} {subject : SubjRequest} {server : KafkaServer}
    (accepted : accepted? session request = some subject)
    (keeps : ∀ statement, Issued request subject statement →
      ∀ held, statement.Maintains (Inv · held))
    (holds : Inv server.db (sessionFor request subject server.response)) :
    Effect.Stays (fun server => Inv server.db server.response.session) (Carries Inv)
      (process now session request) server := by
  have same : Carries Inv = Produces fun message => ∃ db, Inv db message.session := by
    funext act
    cases act <;> rfl
  rw [same]
  have kept : Keeps request subject (fun db message => Inv db message.session) (fun _ => True)
      fun message => ∃ db, Inv db message.session :=
    { statements := fun statement issued response => keeps statement issued response.session
      told := fun _ _ => trivial
      coord := fun _ holds => holds
      id := fun holds => holds
      taxiId := fun holds => holds
      subject := fun holds => holds
      data := fun holds => holds
      produced := fun _ holds => ⟨_, holds⟩ }
  exact process_keeps accepted kept holds

/-- Consuming a message keeps an invariant of the database which its statements keep. -/
theorem process_maintains {Inv : Db → Prop} {now : Timestamp} {session : Uuid} {request : Message}
    {server : KafkaServer} {outcome : Outcome KafkaServer Act Unit}
    (keeps : ∀ subject ∈ accepted? session request, ∀ statement,
      Issued request subject statement → statement.Maintains Inv)
    (ran : process now session request server = .ok outcome) (holds : Inv server.db) :
    Inv outcome.state.db := by
  cases accepted : accepted? session request with
  | none =>
      simp only [process, accepted, Effect.pure_eq_ok_iff] at ran
      subst ran
      exact holds
  | some subject =>
      have stays := @process_stays (fun db _ => Inv db) now session request subject server accepted
        (fun statement issued _ => keeps subject accepted statement issued) holds
      simp only [Effect.Stays, ran] at stays
      exact stays.1

end KafkaServer

end EasyCab
