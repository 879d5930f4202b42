import EasyCab.Central.Departure
import EasyCab.Central.Failures

/-!
# What a response announces

A response says that something was stored. `recording` is the query which stores it: the handler
is run up to where this query is sent, so the query meets the database and the outages which the
handler leaves for it. Most handlers log that a query failed and respond all the same.
`Recordable` says when nothing is announced which is not stored.
-/

namespace EasyCab

open Library
open DbConnectionHandler (OutAt)

/-- The responses which announce a change. -/
def SubjResponse.announces : SubjResponse → Bool
  | .taxiStop | .taxiContinue | .taxiDisconnect | .customerDisconnect | .taxiGoTo
  | .customerServiceAccepted | .customerPickedUp | .customerServiceCompleted | .customerPriority
  | .customerEnqueued => true
  | _ => false

/-- A query which is sent to a database while these outages are to come. -/
structure Sent where
  statements : List Statement
  outages : List Bool
  db : Db

/-- No statement of the query fails. -/
def Sent.Succeeds (now : Timestamp) (sent : Sent) : Prop :=
  (DbConnectionHandler.query now sent.statements sent.outages sent.db).failures = []

namespace KafkaServer

section Recording

variable (now : Timestamp)

/-- What is done after a part of a handler, from where this part ends. -/
def after {Value : Type} (handler : Handler Value) (server : KafkaServer)
    (rest : Value → KafkaServer → Option Sent) : Option Sent :=
  match handler server with
  | .error _ => none
  | .ok outcome => rest outcome.value outcome.state

/-- The query of these statements records what these responses announce. -/
def recordedBy (statements : List Statement) (answers : List SubjResponse) (answer : SubjResponse)
    (server : KafkaServer) : Option Sent :=
  if answer ∈ answers then some ⟨statements, server.outages, server.db⟩ else none

/-- The statements of `assign`. -/
def assigning (taxi : TaxiId) (customer : Id) : List Statement :=
  [.assignTaxi taxi customer, .selectDest taxi]

/-- The statements of `setOnboard`. -/
def boarding (customer : Id) (taxi : TaxiId) (val : Bool) : List Statement :=
  [.setOnboardFlag customer val, .setCustomerId taxi (if val then some customer else none)]

/-- A taxi which has nothing to do is assigned to the head of the queue. -/
def arrivalRecording (taxi : TaxiId) (answer : SubjResponse) (server : KafkaServer) : Option Sent :=
  after (checkQueue now) server fun found server =>
    match found with
    | none => none
    | some customer =>
        recordedBy (assigning taxi customer) [.taxiGoTo, .customerServiceAccepted] answer server

/-- `CUSTOMER_SERVICE_REQUEST`. -/
def serviceRecording (request : Message) (answer : SubjResponse) (server : KafkaServer) :
    Option Sent :=
  after (checkAvailableTaxis now) server fun found server =>
    match found with
    | none => recordedBy [.enqueue request.id] [.customerEnqueued] answer server
    | some taxi =>
        after (setDestination now request.id request.charFromData) server fun _ server =>
          recordedBy (assigning taxi request.id) [.taxiGoTo, .customerServiceAccepted] answer server

/-- `TAXI_DESTINATION_REACHED`. No query stores where a taxi is sent with the customer whom it
picked up: either this counts as recorded when the customer `boards`, or as never recorded. -/
def reachedRecording (boards : Bool) (request : Message) (answer : SubjResponse)
    (server : KafkaServer) : Option Sent :=
  after (reportPosition now request) server fun carried server =>
    match carried with
    | some customer =>
        if answer = .customerServiceCompleted then
          recordedBy (boarding customer request.taxiId false) [answer] answer server
        else
          after (setOnboard now customer request.taxiId false) server fun _ server =>
            arrivalRecording now request.taxiId answer server
    | none =>
        after (getService now request.taxiId) server fun service server =>
          match service with
          | none => none
          | some customer =>
              after (getDestination now customer) server fun _ server =>
                recordedBy (boarding customer request.taxiId true)
                  (.customerPickedUp :: if boards then [.taxiGoTo] else []) answer server

/-- The query which records what a response to a request announces. -/
def recording (boards : Bool) (request : Message) (server : KafkaServer) (subject : SubjRequest)
    (answer : SubjResponse) : Option Sent :=
  match subject with
  | .taxiReconnected | .newTaxi => arrivalRecording now request.taxiId answer server
  | .orderCustomerDisconnect =>
      recordedBy [.deleteCustomer request.id] [.customerDisconnect] answer server
  | .orderTaxiDisconnect =>
      recordedBy [.setConnected request.taxiId false] [.taxiDisconnect] answer server
  | .orderTaxiStop => recordedBy [.setStopped request.taxiId true] [.taxiStop] answer server
  | .orderTaxiContinue => recordedBy [.setStopped request.taxiId false] [.taxiContinue] answer server
  | .orderCustomerPriority =>
      recordedBy [.clearInQueue request.id] [.customerPriority] answer server
  | .orderTaxiGoTo =>
      recordedBy [.redirectTaxi request.taxiId request.coord, .landNamesake request.taxiId]
        [.taxiGoTo] answer server
  | .orderTaxiReturnToBase =>
      recordedBy [.redirectTaxi request.taxiId ⟨0, 0⟩, .landNamesake request.taxiId]
        [.taxiGoTo] answer server
  | .customerServiceRequest => serviceRecording now request answer server
  | .taxiDestinationReached => reachedRecording now boards request answer server
  | _ => none

/-- The query which records what the response announces succeeds. -/
def Backed (boards : Bool) (request : Message) (server : KafkaServer) (subject : SubjRequest)
    (answer : SubjResponse) : Prop :=
  ∃ sent ∈ recording now boards request server subject answer, sent.Succeeds now

end Recording

/-! ### When everything announced is recorded -/

/-- The customer whom a taxi picks up while `TAXI_DESTINATION_REACHED` is treated, after the
position was reported: its service and its destination can be read. -/
def PicksUp (request : Message) (server : KafkaServer) (customer : Id) : Prop :=
  ¬ OutAt server.outages 2 ∧ server.db.serviceOf request.taxiId = some customer ∧
    ¬ OutAt server.outages 3 ∧ Statement.quotable customer = true ∧
    (server.db.destinationOf customer).isSome

/-- The query by which a request records what it announces succeeds, if it announces anything. -/
def Recordable (boards : Bool) (request : Message) (server : KafkaServer) : SubjRequest → Prop
  | .orderTaxiStop | .orderTaxiContinue | .orderTaxiDisconnect => ¬ OutAt server.outages 0
  | .orderCustomerPriority => ¬ OutAt server.outages 0 ∧ Statement.quotable request.id = true
  | .orderCustomerDisconnect =>
      ¬ OutAt server.outages 0 ∧ Statement.quotable request.id = true ∧
        ∀ row ∈ server.db.taxis.rows, row.customerId ≠ some request.id
  | .orderTaxiGoTo | .orderTaxiReturnToBase =>
      ¬ OutAt server.outages 0 ∧ ¬ OutAt server.outages 1
  | .customerServiceRequest =>
      unlessOut server server.db.available = none →
        ¬ OutAt server.outages 1 ∧ Statement.quotable request.id = true
  | .taxiDestinationReached =>
      match unlessOut server (server.db.customerIdOf request.taxiId) with
      | some customer =>
          -- A position which is not stored leaves out that of the customer.
          Statement.quotable customer = true ∧
            if OutAt server.outages 1 then ¬ OutAt server.outages 2 ∧ ¬ OutAt server.outages 3
            else ¬ OutAt server.outages 3 ∧ ¬ OutAt server.outages 4
      | none =>
          ∀ customer, PicksUp request server customer →
            boards = true ∧ ¬ OutAt server.outages 4 ∧ ¬ OutAt server.outages 5
  | _ => True

/-! ### What the handlers announce -/

/-- The message announces nothing, or something which is recorded. -/
def Announced (backed : SubjResponse → Prop) (message : Message) : Prop :=
  ∀ answer, message.subject = .response answer → answer.announces = true → backed answer

/-- The handler announces only what is recorded. -/
abbrev AnnouncesOnly {Value : Type} (backed : SubjResponse → Prop) (handler : Handler Value)
    (server : KafkaServer) : Prop :=
  handler.Records (Produces (Announced backed)) server

section AnnouncesOnly

variable {now : Timestamp} {server : KafkaServer} {backed : SubjResponse → Prop} {Value Result : Type}

/-- A part of a handler which responds nothing may be left out. -/
theorem announcesOnly_bind_iff {first : Handler Value} {next : Value → Handler Result} {value : Value}
    {last : KafkaServer} {failures : List SqlError}
    (ran : first server = .ok ⟨value, last, failures.map .failed⟩) :
    AnnouncesOnly backed (first >>= next) server ↔ AnnouncesOnly backed (next value) last := by
  refine (Effect.records_bind_iff ran).trans (and_iff_right fun act member => ?_)
  obtain ⟨error, _, rfl⟩ := List.mem_map.mp member
  trivial

theorem Reads.announcesOnly_bind_iff {handler : Handler Value} {next : Value → Handler Result}
    {value : Value} {failures : List SqlError} (reads : Reads handler server value failures) :
    AnnouncesOnly backed (handler >>= next) server ↔
      AnnouncesOnly backed (next value) { server with outages := server.outages.tail } :=
  KafkaServer.announcesOnly_bind_iff reads

theorem announcesOnly_run_bind_iff {statements : List Statement} {next : Unit → Handler Result} :
    AnnouncesOnly backed (run now statements >>= next) server ↔
      AnnouncesOnly backed (next ()) (queried now statements server) := by
  obtain ⟨failures, ran⟩ := @run_eq now server statements
  exact announcesOnly_bind_iff ran

theorem announcesOnly_setResponse_bind_iff {update : Message → Message}
    {next : Unit → Handler Result} :
    AnnouncesOnly backed (setResponse update >>= next) server ↔
      AnnouncesOnly backed (next ()) { server with response := update server.response } :=
  Effect.records_modify_bind_iff

theorem announcesOnly_produce_iff :
    AnnouncesOnly backed produce server ↔ Announced backed server.response := by
  have ran : produce server = .ok ⟨(), server, [.produce server.response]⟩ := rfl
  rw [AnnouncesOnly, Effect.records_iff ran, List.forall_mem_singleton]
  rfl

theorem announced_told_iff {response : Message} {answer : SubjResponse} :
    Announced backed { response with subject := .response answer } ↔
      (answer.announces = true → backed answer) := by
  simp [Announced]

/-- A response is to be recorded, if it announces anything. -/
theorem announcesOnly_respond_iff {answer : SubjResponse} :
    AnnouncesOnly backed (respond answer) server ↔ (answer.announces = true → backed answer) := by
  rw [respond, announcesOnly_setResponse_bind_iff, announcesOnly_produce_iff, announced_told_iff]

theorem announcesOnly_respond_bind_iff {answer : SubjResponse} {next : Unit → Handler Result} :
    AnnouncesOnly backed (respond answer >>= next) server ↔
      (answer.announces = true → backed answer) ∧ AnnouncesOnly backed (next ())
        { server with response := { server.response with subject := .response answer } } := by
  have ran : respond answer server = .ok ⟨(),
      { server with response := { server.response with subject := .response answer } },
      [.produce { server.response with subject := .response answer }]⟩ := rfl
  rw [AnnouncesOnly, Effect.records_bind_iff ran, List.forall_mem_singleton]
  exact and_congr_left' announced_told_iff

/-! ### Handlers -/

variable {request : Message}

/-- A case which stores something and responds, whether or not it is stored. -/
theorem runAndRespond_announcesOnly_iff {statements : List Statement} {update : Message → Message}
    {answer : SubjResponse} (announces : answer.announces = true) :
    AnnouncesOnly backed (do run now statements; setResponse update; respond answer) server ↔
      backed answer := by
  rw [announcesOnly_run_bind_iff, announcesOnly_setResponse_bind_iff, announcesOnly_respond_iff,
    forall_prop_of_true announces]

theorem updateAndRespond_announcesOnly_iff {statement : Statement} {taxi : TaxiId}
    {answer : SubjResponse} (announces : answer.announces = true) :
    AnnouncesOnly backed (updateAndRespond now statement taxi answer) server ↔ backed answer :=
  runAndRespond_announcesOnly_iff announces

theorem onCustomerDisconnect_announcesOnly_iff :
    AnnouncesOnly backed (onCustomerDisconnect now request) server ↔ backed .customerDisconnect :=
  runAndRespond_announcesOnly_iff rfl

theorem onCustomerPriority_announcesOnly_iff :
    AnnouncesOnly backed (onCustomerPriority now request) server ↔ backed .customerPriority :=
  runAndRespond_announcesOnly_iff rfl

theorem onTaxiGoTo_announcesOnly_iff :
    AnnouncesOnly backed (onTaxiGoTo now request) server ↔ backed .taxiGoTo :=
  runAndRespond_announcesOnly_iff rfl

/-- `assign` reads the row which it wrote before it announces anything. -/
theorem assigning_succeeds {taxi : TaxiId} {customer : Id} {results : DbResults} {x : Int32}
    (answered : (DbConnectionHandler.query now (assigning taxi customer) server.outages
      server.db).value.mapError (fun _ => Fault.badExpectedAccess) = .ok results)
    (read : intColumn results.getRow.1 0 = .ok x) :
    Sent.Succeeds now ⟨assigning taxi customer, server.outages, server.db⟩ := by
  have value : (DbConnectionHandler.query now (assigning taxi customer) server.outages
      server.db).value = .ok results := by
    revert answered
    cases answer : (DbConnectionHandler.query now (assigning taxi customer) server.outages
        server.db).value with
    | error error => exact fun refused => by cases refused
    | ok stored => exact fun taken => by cases taken; rfl
  have silent {next : Db} {rows : Option ResultSet}
      (ran : Statement.assignTaxi taxi customer now server.db = .ok (next, rows)) : rows = none :=
    (Statement.update_eq_ok_iff.mp (Statement.quoting_eq_ok_iff.mp ran).2).2
  have found : results.getRow.1 ≠ [] := by
    intro empty
    rw [empty] at read
    cases read
  exact DbConnectionHandler.query_update_select_failures silent value found

theorem assign_announcesOnly {taxi : TaxiId} {customer : Id}
    (recorded : Sent.Succeeds now ⟨assigning taxi customer, server.outages, server.db⟩ →
      backed .taxiGoTo ∧ backed .customerServiceAccepted) :
    AnnouncesOnly backed (assign now taxi customer) server := by
  refine Effect.records_record_bind_iff.mpr ⟨trivial, (announcesOnly_bind_iff rfl).mpr ?_⟩
  refine Effect.records_demand_bind_iff.mpr fun results answered =>
    Effect.records_demand_bind_iff.mpr fun x read => Effect.records_demand_bind_iff.mpr fun y _ => ?_
  obtain ⟨told, accepted⟩ := recorded (assigning_succeeds answered read)
  refine announcesOnly_setResponse_bind_iff.mpr (announcesOnly_respond_bind_iff.mpr ⟨fun _ => told, ?_⟩)
  exact announcesOnly_respond_iff.mpr fun _ => accepted

/-- An assignment which does not kill Central was stored. -/
theorem assign_succeeds {taxi : TaxiId} {customer : Id} {outcome : Outcome KafkaServer Act Unit}
    (ran : assign now taxi customer server = .ok outcome) :
    Sent.Succeeds now ⟨assigning taxi customer, server.outages, server.db⟩ := by
  simp only [assign, Effect.bind_eq_ok_iff, Effect.record_eq_ok_iff, Effect.demand_eq_ok_iff] at ran
  obtain ⟨_, _, rfl, ⟨_, _, queried, ⟨_, _, ⟨results, answered, rfl⟩, ⟨_, _, ⟨x, read, rfl⟩, _⟩, _⟩, _⟩,
    _⟩ := ran
  cases queried
  exact assigning_succeeds answered read

/-- A taxi which arrives announces only what `assign` does. -/
theorem onTaxiArrival_announcesOnly
    (recorded : ∀ customer ∈ unlessOut server server.db.queueHead,
      Sent.Succeeds now ⟨assigning request.taxiId customer, server.outages.tail, server.db⟩ →
        backed .taxiGoTo ∧ backed .customerServiceAccepted) :
    AnnouncesOnly backed (onTaxiArrival now request) server := by
  apply checkQueue_reads.announcesOnly_bind_iff.mpr
  cases found : unlessOut server server.db.queueHead with
  | none => exact Effect.records_pure
  | some customer => exact assign_announcesOnly (recorded customer found)

/-- A customer is told to wait where no taxi is found. -/
theorem onServiceRequest_announcesOnly_iff (none : unlessOut server server.db.available = none) :
    AnnouncesOnly backed (onServiceRequest now request) server ↔ backed .customerEnqueued := by
  rw [onServiceRequest, checkAvailableTaxis_reads.announcesOnly_bind_iff, none,
    announcesOnly_setResponse_bind_iff, enqueue, announcesOnly_run_bind_iff,
    announcesOnly_respond_iff]
  exact forall_prop_of_true rfl

/-- Where a taxi is found only `assign` announces anything, and what it said last is said again. -/
theorem onServiceRequest_announcesOnly {taxi : TaxiId} {stored : KafkaServer}
    (found : unlessOut server server.db.available = some taxi)
    (left : queried now [.setDestination request.id request.charFromData]
      { server with outages := server.outages.tail } = stored)
    (recorded : Sent.Succeeds now ⟨assigning taxi request.id, stored.outages, stored.db⟩ →
      backed .taxiGoTo ∧ backed .customerServiceAccepted) :
    AnnouncesOnly backed (onServiceRequest now request) server := by
  subst left
  rw [onServiceRequest, checkAvailableTaxis_reads.announcesOnly_bind_iff, found,
    announcesOnly_setResponse_bind_iff]
  let named : KafkaServer :=
    { server with
      outages := server.outages.tail
      response := { server.response with id := request.id } }
  obtain ⟨written, failures, ran⟩ := @setDestination_eq now named request.id request.charFromData
  have told : AnnouncesOnly backed (assign now taxi request.id)
      (queried now [.setDestination request.id request.charFromData] named) :=
    assign_announcesOnly recorded
  apply (announcesOnly_bind_iff ran).mpr
  cases written with
  | false => exact announcesOnly_respond_iff.mpr fun announces => by cases announces
  | true =>
      refine told.bind fun outcome assigned => announcesOnly_produce_iff.mpr fun answer said _ => ?_
      rw [assign_response_subject assigned] at said
      cases said
      have clean := assign_succeeds assigned
      exact (recorded clean).2

/-- A completion is announced, and then what `assign` does. -/
theorem completeService_announcesOnly_iff {customer : Id} {landed : KafkaServer}
    (left : queried now (boarding customer request.taxiId false) server = landed)
    (recorded : ∀ next ∈ unlessOut landed landed.db.queueHead,
      Sent.Succeeds now ⟨assigning request.taxiId next, landed.outages.tail, landed.db⟩ →
        backed .taxiGoTo ∧ backed .customerServiceAccepted) :
    AnnouncesOnly backed (completeService now request customer) server ↔
      backed .customerServiceCompleted := by
  subst left
  have announces : SubjResponse.announces .customerServiceCompleted = true := rfl
  rw [completeService, setOnboard, announcesOnly_run_bind_iff, announcesOnly_setResponse_bind_iff,
    announcesOnly_respond_bind_iff, forall_prop_of_true announces]
  exact and_iff_left (onTaxiArrival_announcesOnly recorded)

/-- A pick-up is announced where the customer and its destination can be read. -/
theorem pickUp_announcesOnly_iff :
    AnnouncesOnly backed (pickUp now request) server ↔
      ∀ customer ∈ unlessOut server (server.db.serviceOf request.taxiId),
        (unlessOut { server with outages := server.outages.tail }
          (if Statement.quotable customer = true then server.db.destinationOf customer
            else none)).isSome → backed .customerPickedUp ∧ backed .taxiGoTo := by
  rw [pickUp, (getService_reads request.taxiId).announcesOnly_bind_iff, AnnouncesOnly,
    Effect.records_demand_bind_iff]
  cases unlessOut server (server.db.serviceOf request.taxiId) with
  | none => simp
  | some customer =>
      simp only [Option.elim_some, Except.ok.injEq, forall_eq', Option.mem_some_iff]
      obtain ⟨_, reads⟩ := getDestination_reads customer
      apply reads.announcesOnly_bind_iff.trans
      cases unlessOut { server with outages := server.outages.tail }
          (if Statement.quotable customer = true then server.db.destinationOf customer else none) with
      | none =>
          rw [setOnboard, announcesOnly_run_bind_iff, announcesOnly_setResponse_bind_iff,
            announcesOnly_respond_iff]
          simp [SubjResponse.announces]
      | some coord =>
          rw [setOnboard, announcesOnly_run_bind_iff, announcesOnly_setResponse_bind_iff,
            announcesOnly_respond_bind_iff, announcesOnly_setResponse_bind_iff,
            announcesOnly_setResponse_bind_iff, announcesOnly_respond_iff]
          simp [SubjResponse.announces]

/-- What a taxi announces which reached its destination depends on whom it is known to carry. -/
theorem onDestinationReached_announcesOnly_iff :
    AnnouncesOnly backed (onDestinationReached now request) server ↔
      match unlessOut server (server.db.customerIdOf request.taxiId) with
      | some customer =>
          AnnouncesOnly backed (completeService now request customer) (reported now request server)
      | none => AnnouncesOnly backed (pickUp now request) (reported now request server) := by
  obtain ⟨failures, ran⟩ := @reportPosition_eq now server request
  rw [onDestinationReached, announcesOnly_bind_iff ran]
  cases unlessOut server (server.db.customerIdOf request.taxiId) <;> rfl

/-- A registration is answered, and nothing is announced. -/
theorem newCustomer_announcesOnly {session : Uuid} :
    AnnouncesOnly backed (newCustomer now session request) server := by
  refine announcesOnly_setResponse_bind_iff.mpr ((announcesOnly_bind_iff rfl).mpr ?_)
  cases (DbConnectionHandler.query now [.selectCustomerExists request.id] server.outages
      server.db).value with
  | error error => exact Effect.records_pure
  | ok results =>
      simp only
      split
      · apply (announcesOnly_bind_iff rfl).mpr
        split
        · exact Effect.records_pure
        · refine announcesOnly_setResponse_bind_iff.mpr (announcesOnly_produce_iff.mpr ?_)
          intro answer said announces
          cases said
          cases announces
      · exact announcesOnly_respond_iff.mpr fun announces => by cases announces

/-- A case which only stores something announces nothing. -/
theorem run_announcesOnly {statements : List Statement} :
    AnnouncesOnly backed (run now statements) server := by
  obtain ⟨failures, ran⟩ := @run_eq now server statements
  refine (Effect.records_iff ran).mpr fun act member => ?_
  obtain ⟨error, _, rfl⟩ := List.mem_map.mp member
  trivial

theorem onTaxiMove_announcesOnly : AnnouncesOnly backed (onTaxiMove now request) server := by
  obtain ⟨failures, ran⟩ := @reportPosition_eq now server request
  exact (announcesOnly_bind_iff ran).mpr Effect.records_pure

end AnnouncesOnly

/-! ### The queries which record -/

section Recorded

variable {now : Timestamp} {server : KafkaServer} {request : Message} {answer : SubjResponse}
  {taxi : TaxiId}

theorem after_of_ok {Value : Type} {handler : Handler Value} {value : Value} {last : KafkaServer}
    {acts : List Act} {rest : Value → KafkaServer → Option Sent}
    (ran : handler server = .ok ⟨value, last, acts⟩) : after handler server rest = rest value last := by
  rw [after, ran]

theorem Reads.after_eq {Value : Type} {handler : Handler Value} {value : Value}
    {failures : List SqlError} {rest : Value → KafkaServer → Option Sent}
    (reads : Reads handler server value failures) :
    after handler server rest = rest value { server with outages := server.outages.tail } :=
  after_of_ok reads

@[simp] theorem recordedBy_eq_some_iff {statements : List Statement} {answers : List SubjResponse}
    {sent : Sent} : recordedBy statements answers answer server = some sent ↔
      answer ∈ answers ∧ ⟨statements, server.outages, server.db⟩ = sent := by
  rw [recordedBy]
  split
  · next listed => simp [listed]
  · next other => simp [other]

theorem arrivalRecording_eq_some_iff {sent : Sent} :
    arrivalRecording now taxi answer server = some sent ↔
      ∃ customer ∈ unlessOut server server.db.queueHead,
        (answer = .taxiGoTo ∨ answer = .customerServiceAccepted) ∧
          ⟨assigning taxi customer, server.outages.tail, server.db⟩ = sent := by
  rw [arrivalRecording, checkQueue_reads.after_eq]
  cases unlessOut server server.db.queueHead <;> simp

/-! ### Statements which are stored -/

/-- A customer who is stored can be taken aboard, and anybody can be set down. -/
theorem boarding_succeeds_iff {customer : Id} {val : Bool} {outages : List Bool} {db : Db}
    (present : val = true → (db.customers.lookup customer).isSome) :
    Sent.Succeeds now ⟨boarding customer taxi val, outages, db⟩ ↔
      ¬ OutAt outages 0 ∧ ¬ OutAt outages 1 ∧ Statement.quotable customer = true := by
  rw [Sent.Succeeds, boarding, DbConnectionHandler.query_two_failures_iff]
  refine and_congr_right fun _ => and_congr_right fun _ => ?_
  constructor
  · rintro ⟨next, rows, ran, _⟩
    simpa using (Statement.quoting_eq_ok_iff.mp ran).1
  · intro literal
    have flagged : (db.setOnboardFlag now customer val).ForeignKeys :=
      db.foreignKeys.updateCustomer fun _ => rfl
    refine ⟨⟨_, flagged⟩, none, Statement.quoting_eq_ok_iff.mpr
      ⟨by simp [literal], Statement.update_eq_ok_iff.mpr ⟨rfl, rfl⟩⟩,
      Statement.runs_quoting_iff.mpr ⟨?_, Statement.runs_update_iff.mpr ?_⟩⟩
    · cases val <;> simp [literal]
    · refine flagged.updateTaxi_of (fun row _ other carried => ?_) flagged.service
      cases val with
      | false => cases carried
      | true =>
          obtain rfl : customer = other := by simpa using carried
          simpa [Tables.setOnboardFlag, Tables.updateCustomer, apply_ite Option.isSome] using
            present rfl

/-- A taxi can always be redirected. -/
theorem redirecting_succeeds_iff {coord : Coordinate} {outages : List Bool} {db : Db} :
    Sent.Succeeds now ⟨[.redirectTaxi taxi coord, .landNamesake taxi], outages, db⟩ ↔
      ¬ OutAt outages 0 ∧ ¬ OutAt outages 1 := by
  rw [Sent.Succeeds, DbConnectionHandler.query_two_failures_iff]
  refine and_congr_right fun _ => and_iff_left ?_
  have redirected : (db.redirectTaxi now taxi coord).ForeignKeys :=
    db.foreignKeys.updateTaxi_of (fun _ _ _ carried => by cases carried) db.foreignKeys.service
  refine ⟨⟨_, redirected⟩, none, Statement.update_eq_ok_iff.mpr ⟨rfl, rfl⟩,
    Statement.runs_update_iff.mpr ?_⟩
  rw [Tables.landNamesake]
  split
  · exact redirected
  · exact redirected.updateCustomer fun _ => rfl

/-- A query of one statement succeeds if the statement runs and meets no outage. -/
theorem succeeds_one_iff {statement : Statement} {outages : List Bool} {db : Db} :
    Sent.Succeeds now ⟨[statement], outages, db⟩ ↔ ¬ OutAt outages 0 ∧ statement.Runs now db :=
  DbConnectionHandler.query_one_failures_iff

theorem setInQueue_runs_iff {customer : Id} {inQueue : Timestamp → Option Timestamp} {db : Db} :
    (Statement.quoting [customer] (.update fun now =>
      Tables.setInQueue now customer (inQueue now))).Runs now db ↔
      Statement.quotable customer = true := by
  rw [Statement.runs_quoting_iff, Statement.runs_update_iff]
  have kept : (db.setInQueue now customer (inQueue now)).ForeignKeys :=
    db.foreignKeys.updateCustomer fun _ => rfl
  simp [kept]

theorem enqueue_runs_iff {customer : Id} {db : Db} :
    (Statement.enqueue customer).Runs now db ↔ Statement.quotable customer = true :=
  @setInQueue_runs_iff now customer some db

theorem clearInQueue_runs_iff {customer : Id} {db : Db} :
    (Statement.clearInQueue customer).Runs now db ↔ Statement.quotable customer = true :=
  @setInQueue_runs_iff now customer (fun _ => none) db

theorem deleteCustomer_runs_iff {customer : Id} {db : Db} :
    (Statement.deleteCustomer customer).Runs now db ↔ Statement.quotable customer = true ∧
      ∀ row ∈ db.taxis.rows, row.customerId ≠ some customer := by
  rw [Statement.deleteCustomer, Statement.runs_quoting_iff, Statement.runs_update_iff,
    Tables.foreignKeys_deleteCustomer_iff]
  simp

theorem setConnected_runs {connected : Bool} {db : Db} :
    (Statement.setConnected taxi connected).Runs now db :=
  Statement.runs_updateTaxi fun _ => ⟨rfl, rfl⟩

theorem setStopped_runs {stopped : Bool} {db : Db} :
    (Statement.setStopped taxi stopped).Runs now db :=
  Statement.runs_updateTaxi fun _ => ⟨rfl, rfl⟩

/-! ### When a request announces only what is recorded -/

variable {session : Uuid} {boards : Bool} {subject : SubjRequest}

/-- What `assign` announces is recorded where it succeeds. -/
theorem backed_of_assigning {customer : Id}
    (found : unlessOut server server.db.queueHead = some customer)
    (clean : Sent.Succeeds now ⟨assigning taxi customer, server.outages.tail, server.db⟩) :
    (∃ sent ∈ arrivalRecording now taxi .taxiGoTo server, sent.Succeeds now) ∧
      ∃ sent ∈ arrivalRecording now taxi .customerServiceAccepted server, sent.Succeeds now :=
  ⟨⟨_, arrivalRecording_eq_some_iff.mpr ⟨customer, found, .inl rfl, rfl⟩, clean⟩,
    ⟨_, arrivalRecording_eq_some_iff.mpr ⟨customer, found, .inr rfl, rfl⟩, clean⟩⟩

theorem onTaxiArrival_recorded :
    AnnouncesOnly (fun answer => ∃ sent ∈ arrivalRecording now request.taxiId answer server,
      sent.Succeeds now) (onTaxiArrival now request) server :=
  onTaxiArrival_announcesOnly fun _ found clean => backed_of_assigning found clean

theorem onServiceRequest_recorded_iff :
    AnnouncesOnly (fun answer => ∃ sent ∈ serviceRecording now request answer server,
      sent.Succeeds now) (onServiceRequest now request) server ↔
      Recordable boards request server .customerServiceRequest := by
  cases found : unlessOut server server.db.available with
  | none =>
      rw [onServiceRequest_announcesOnly_iff found]
      simp [serviceRecording, checkAvailableTaxis_reads.after_eq, found, Recordable, succeeds_one_iff,
        enqueue_runs_iff]
  | some taxi =>
      refine iff_of_true (onServiceRequest_announcesOnly found rfl fun clean => ?_) (by simp [Recordable, found])
      obtain ⟨stored, failures, ran⟩ := @setDestination_eq now
        { server with outages := server.outages.tail } request.id request.charFromData
      simpa [serviceRecording, checkAvailableTaxis_reads.after_eq, found, after_of_ok ran] using clean

theorem reachedRecording_carrying {customer : Id} {landed : KafkaServer}
    (carrying : unlessOut server (server.db.customerIdOf request.taxiId) = some customer)
    (left : queried now (boarding customer request.taxiId false) (reported now request server) =
      landed) :
    reachedRecording now boards request answer server =
      if answer = .customerServiceCompleted then
        recordedBy (boarding customer request.taxiId false) [answer] answer
          (reported now request server)
      else arrivalRecording now request.taxiId answer landed := by
  subst left
  obtain ⟨_, ran⟩ := @reportPosition_eq now server request
  obtain ⟨_, landed⟩ := @run_eq now (reported now request server)
    (boarding customer request.taxiId false)
  rw [reachedRecording, after_of_ok ran, carrying]
  exact if_congr Iff.rfl rfl (after_of_ok landed)

theorem reachedRecording_alone {customer : Id}
    (alone : unlessOut server (server.db.customerIdOf request.taxiId) = none)
    (serves : unlessOut (reported now request server)
      ((reported now request server).db.serviceOf request.taxiId) = some customer) :
    reachedRecording now boards request answer server =
      recordedBy (boarding customer request.taxiId true)
        (.customerPickedUp :: if boards then [.taxiGoTo] else []) answer
        { reported now request server with
          outages := (reported now request server).outages.tail.tail } := by
  obtain ⟨_, ran⟩ := @reportPosition_eq now server request
  rw [reachedRecording, after_of_ok ran, alone]
  simp only [(getService_reads request.taxiId).after_eq, serves]
  obtain ⟨_, reads⟩ := getDestination_reads customer
  exact reads.after_eq

/-- Who is picked up is read from what was stored before the request. -/
theorem picksUp_iff {customer : Id}
    (alone : unlessOut server (server.db.customerIdOf request.taxiId) = none) :
    PicksUp request server customer ↔
      unlessOut (reported now request server)
        ((reported now request server).db.serviceOf request.taxiId) = some customer ∧
      (unlessOut
        { reported now request server with outages := (reported now request server).outages.tail }
        (if Statement.quotable customer = true then
          (reported now request server).db.destinationOf customer else none)).isSome := by
  obtain ⟨outages, customers, locations, service⟩ := @reported_alone now server request alone
  have destination : (reported now request server).db.destinationOf customer =
      server.db.destinationOf customer := by
    rw [Tables.destinationOf, Tables.destinationOf, customers]
    unfold Tables.locationCoord
    rw [locations]
  simp only [PicksUp, unlessOut, outages, service, destination, DbConnectionHandler.outAt_tail]
  by_cases first : OutAt server.outages 2
  · simp [first]
  · by_cases second : OutAt server.outages 3
    · simp [second]
    · by_cases literal : Statement.quotable customer = true <;> simp [first, second, literal]

/-- A customer with a destination is stored. -/
theorem lookup_of_destinationOf {tables : Tables} {customer : Id}
    (named : (tables.destinationOf customer).isSome) : (tables.customers.lookup customer).isSome := by
  cases found : tables.customers.lookup customer with
  | none => simp [Tables.destinationOf, found] at named
  | some row => rfl

theorem onDestinationReached_recorded_iff :
    AnnouncesOnly (fun answer => ∃ sent ∈ reachedRecording now boards request answer server,
      sent.Succeeds now) (onDestinationReached now request) server ↔
      Recordable boards request server .taxiDestinationReached := by
  rw [onDestinationReached_announcesOnly_iff]
  cases carried : unlessOut server (server.db.customerIdOf request.taxiId) with
  | some customer =>
      have outages := @reported_carrying now server request customer carried
      simp only
      rw [completeService_announcesOnly_iff rfl]
      · simp only [reachedRecording_carrying carried rfl, if_true, Option.mem_def,
          recordedBy_eq_some_iff, List.mem_singleton, true_and, exists_eq_left', Recordable, carried]
        rw [boarding_succeeds_iff (by simp), outages]
        split <;> simp [and_comm, and_assoc]
      · intro next found clean
        simp only [reachedRecording_carrying carried rfl, reduceCtorEq, if_false]
        exact backed_of_assigning found clean
  | none =>
      obtain ⟨outages, customers, _, _⟩ := @reported_alone now server request carried
      simp only [Recordable, carried]
      rw [pickUp_announcesOnly_iff]
      refine forall_congr' fun customer => ?_
      rw [@picksUp_iff now server request customer carried, and_imp]
      refine imp_congr_right fun serves => imp_congr_right fun read => ?_
      obtain ⟨_, _, _, literal, named⟩ := (picksUp_iff carried).mpr ⟨serves, read⟩
      have stored : ((reported now request server).db.customers.lookup customer).isSome := by
        rw [customers]
        exact lookup_of_destinationOf named
      have clean : Sent.Succeeds now ⟨boarding customer request.taxiId true,
          (reported now request server).outages.tail.tail, (reported now request server).db⟩ ↔
          ¬ OutAt server.outages 4 ∧ ¬ OutAt server.outages 5 := by
        rw [boarding_succeeds_iff fun _ => stored, outages]
        simp [literal]
      simp only [reachedRecording_alone carried serves, Option.mem_def, recordedBy_eq_some_iff]
      cases boards <;> simp [clean]

/-- A case of the switch which treats a request announces what its handler does. -/
theorem announcesOnly_return_iff {backed : SubjResponse → Prop} {handler : Handler Unit} {refresh : Bool} :
    AnnouncesOnly backed (do handler; return refresh) server ↔ AnnouncesOnly backed handler server :=
  Effect.records_bind_of_forall fun _ _ => Effect.records_pure

theorem handle_announcesOnly_iff :
    AnnouncesOnly (Backed now boards request server subject) (handle now session subject request)
      server ↔ Recordable boards request server subject := by
  cases subject with
  | taxiReconnected => exact announcesOnly_return_iff.trans (iff_of_true onTaxiArrival_recorded trivial)
  | newTaxi => exact announcesOnly_return_iff.trans (iff_of_true onTaxiArrival_recorded trivial)
  | orderCustomerDisconnect =>
      refine announcesOnly_return_iff.trans (onCustomerDisconnect_announcesOnly_iff.trans ?_)
      simp [Backed, recording, Recordable, succeeds_one_iff, deleteCustomer_runs_iff]
  | orderTaxiDisconnect =>
      refine announcesOnly_return_iff.trans ((updateAndRespond_announcesOnly_iff rfl).trans ?_)
      simp [Backed, recording, Recordable, succeeds_one_iff, setConnected_runs]
  | newCustomer => exact announcesOnly_return_iff.trans (iff_of_true newCustomer_announcesOnly trivial)
  | taxiDestinationReached =>
      exact announcesOnly_return_iff.trans onDestinationReached_recorded_iff
  | taxiMove => exact announcesOnly_return_iff.trans (iff_of_true onTaxiMove_announcesOnly trivial)
  | customerServiceRequest => exact announcesOnly_return_iff.trans onServiceRequest_recorded_iff
  | orderTaxiReturnToBase =>
      refine announcesOnly_return_iff.trans (onTaxiGoTo_announcesOnly_iff.trans ?_)
      simp [Backed, recording, Recordable, redirecting_succeeds_iff]
  | orderTaxiGoTo =>
      refine announcesOnly_return_iff.trans (onTaxiGoTo_announcesOnly_iff.trans ?_)
      simp [Backed, recording, Recordable, redirecting_succeeds_iff]
  | orderTaxiStop =>
      refine announcesOnly_return_iff.trans ((updateAndRespond_announcesOnly_iff rfl).trans ?_)
      simp [Backed, recording, Recordable, succeeds_one_iff, setStopped_runs]
  | orderTaxiContinue =>
      refine announcesOnly_return_iff.trans ((updateAndRespond_announcesOnly_iff rfl).trans ?_)
      simp [Backed, recording, Recordable, succeeds_one_iff, setStopped_runs]
  | orderCustomerPriority =>
      refine announcesOnly_return_iff.trans (onCustomerPriority_announcesOnly_iff.trans ?_)
      simp [Backed, recording, Recordable, succeeds_one_iff, clearInQueue_runs_iff]
  | unlisted code undeclared => exact iff_of_true Effect.records_pure trivial
  | _ => exact announcesOnly_return_iff.trans (iff_of_true run_announcesOnly trivial)

/-- The map which is refreshed after a request is no response. -/
theorem refreshMap_announcesOnly {backed : SubjResponse → Prop} :
    AnnouncesOnly backed (refreshMap now) server :=
  (@refreshMap_maintains (fun _ _ => True) _ now server trivial).holds.2

theorem process_announcesOnly_iff {backed : SubjResponse → Prop}
    (accepted : accepted? session request = some subject) :
    AnnouncesOnly backed (process now session request) server ↔
      AnnouncesOnly backed (handle now session subject request) server := by
  simp only [process, accepted]
  refine Effect.records_record_bind_iff.trans ((and_iff_right trivial).trans ?_)
  refine Effect.records_bind_of_forall fun refresh server => ?_
  cases refresh with
  | true => exact refreshMap_announcesOnly
  | false => exact Effect.records_pure

end Recorded

end KafkaServer

/-- Every response of Central which announces a change is produced only if the query which records
the change succeeded, exactly if the request is dropped or can be recorded. -/
theorem announced_only_if_recorded_iff (boards : Bool) (now : Timestamp) (session : Uuid)
    (request : Message) (server : KafkaServer) :
    (∀ message answer, .produce message ∈ (KafkaServer.process now session request).acts server →
      message.subject = .response answer → answer.announces = true →
        ∃ subject sent, request.subject = .request subject ∧
          KafkaServer.recording now boards request server subject answer = some sent ∧
            sent.Succeeds now) ↔
      ∀ subject, KafkaServer.accepted? session request = some subject →
        KafkaServer.Recordable boards request server subject := by
  cases accepted : KafkaServer.accepted? session request with
  | none =>
      refine iff_of_true (fun message answer produced => ?_) (by simp)
      simp only [KafkaServer.process, accepted] at produced
      cases produced
  | some subject =>
      have asked := KafkaServer.subject_of_accepted accepted
      simp only [Option.some.injEq, forall_eq']
      rw [← @KafkaServer.handle_announcesOnly_iff now server request session,
        ← KafkaServer.process_announcesOnly_iff accepted]
      constructor
      · intro claimed act member
        cases act with
        | produce message =>
            intro answer told announces
            obtain ⟨other, sent, asks, recorded, succeeds⟩ := claimed message answer member told announces
            obtain rfl : other = subject := by simpa [asked, eq_comm] using asks
            exact ⟨sent, recorded, succeeds⟩
        | _ => trivial
      · intro announced message answer produced told announces
        obtain ⟨sent, recorded, succeeds⟩ := announced _ produced answer told announces
        exact ⟨subject, sent, asked, recorded, succeeds⟩

/-- The taxi 1, which is on its way. -/
def drivingDb : Db where
  locations := .empty
  customers := .empty
  taxis := ⟨[⟨1, 1, 1, some 7, some 7, none, none, true, true, false, 0, 0⟩], by decide⟩
  foreignKeys := by decide

/-- The operator stops a taxi. -/
def stopTaxi (taxi : TaxiId) : Message := { Message.request [] .orderTaxiStop with taxiId := taxi }

/-- While the database is out a taxi is told to stop, and its row still says that it drives. -/
theorem stop_announced_unrecorded :
    ¬ ∃ boards : Bool, ∀ message answer,
      .produce message ∈ (KafkaServer.process 0 Town.session (stopTaxi 1)).acts
          ⟨drivingDb, [true], .new⟩ →
        message.subject = .response answer → answer.announces = true →
          ∃ subject sent, (stopTaxi 1).subject = .request subject ∧
            KafkaServer.recording 0 boards (stopTaxi 1) ⟨drivingDb, [true], .new⟩ subject answer =
              some sent ∧ sent.Succeeds 0 := by
  rintro ⟨boards, claimed⟩
  have told : .produce { Message.new with taxiId := 1, subject := .response .taxiStop } ∈
      (KafkaServer.process 0 Town.session (stopTaxi 1)).acts ⟨drivingDb, [true], .new⟩ := by
    decide +kernel
  obtain ⟨subject, sent, asked, recorded, succeeds⟩ := claimed _ .taxiStop told rfl rfl
  cases asked
  cases recorded
  cases succeeds

end EasyCab
