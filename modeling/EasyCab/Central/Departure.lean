import EasyCab.Central.Survival

/-!
# Customers who are disconnected

`ORDER_CUSTOMER_DISCONNECT` deletes the row of a customer and says so, whether or not the
row could be deleted. `fk_customer_id` keeps the row of a customer who is aboard, and
`fk_service`, which is declared on the locations, lets a customer go to whom a taxi is still
assigned. `customer_gone_iff` says when the customer is really gone.
-/

namespace EasyCab

open Library

/-- No taxi carries the customer or is assigned to it. -/
def Tables.Untied (tables : Tables) (customer : Id) : Prop :=
  ∀ row ∈ tables.taxis.rows, row.customerId ≠ some customer ∧ row.service ≠ some customer

instance (tables : Tables) (customer : Id) : Decidable (tables.Untied customer) := by
  unfold Tables.Untied
  infer_instance

/-- A customer can be deleted exactly if no taxi carries it. -/
theorem Tables.foreignKeys_deleteCustomer_iff {db : Db} {customer : Id} :
    (db.toTables.deleteCustomer customer).ForeignKeys ↔
      ∀ row ∈ db.taxis.rows, row.customerId ≠ some customer := by
  constructor
  · intro keys row member carried
    have stored := keys.customerId row member customer carried
    simp [deleteCustomer] at stored
  · intro untied
    refine ⟨?_, ?_, db.foreignKeys.service⟩
    · intro row member
      exact db.foreignKeys.destination row (List.mem_of_mem_filter member)
    · intro row member other carried
      have different : other ≠ customer := by
        rintro rfl
        exact untied row member carried
      simpa [deleteCustomer, different] using db.foreignKeys.customerId row member other carried

/-- The tables after the `DELETE` of a customer whose identifier can be quoted. -/
theorem DbConnectionHandler.query_deleteCustomer {now : Timestamp} {outages : List Bool} {db : Db}
    {customer : Id} (literal : Statement.quotable customer = true) :
    (query now [.deleteCustomer customer] outages db).db.toTables =
      if outages.head? ≠ some true ∧ ∀ row ∈ db.taxis.rows, row.customerId ≠ some customer then
        db.toTables.deleteCustomer customer
      else db.toTables := by
  rw [query_one]
  by_cases outage : outages.head? = some true
  · simp [outage]
  · simp only [outage, if_false, not_false_eq_true, ne_eq, true_and]
    by_cases untied : ∀ row ∈ db.taxis.rows, ¬ row.customerId = some customer
    · have keys := Tables.foreignKeys_deleteCustomer_iff.mpr untied
      simp only [Statement.deleteCustomer, Statement.quoting, Statement.update, List.all_cons,
        literal, List.all_nil, Bool.and_self, if_true, Tables.commit, dif_pos keys, if_pos untied]
    · have broken := mt Tables.foreignKeys_deleteCustomer_iff.mp untied
      simp only [Statement.deleteCustomer, Statement.quoting, Statement.update, List.all_cons,
        literal, List.all_nil, Bool.and_self, if_true, Tables.commit, dif_neg broken,
        if_neg untied]

namespace KafkaServer

variable {now : Timestamp} {session : Uuid} {server : KafkaServer} {request : Message}
  {subject : SubjRequest}

/-- `refreshMap` leaves the database as it is. -/
theorem refreshMap_db {outcome : Outcome KafkaServer Act Unit}
    (ran : refreshMap now server = .ok outcome) : outcome.state.db = server.db := by
  have stays := @refreshMap_maintains (fun db _ => db = server.db) (fun _ => True) now server rfl
  simp only [Effect.Stays, ran] at stays
  exact stays.1

/-- After the switch the map is refreshed, which changes nothing. -/
theorem process_of_handle {handled : Outcome KafkaServer Act Bool}
    (accepted : accepted? session request = some subject)
    (ran : handle now session subject request server = .ok handled) :
    ∃ outcome, process now session request server = .ok outcome ∧
      outcome.state.db = handled.state.db ∧ ∀ act ∈ handled.acts, act ∈ outcome.acts := by
  have recorded : (Effect.record (.handled request) : Handler Unit) server =
      .ok ⟨(), server, [.handled request]⟩ := rfl
  obtain ⟨last, refreshed, same⟩ : ∃ last,
      (if handled.value then refreshMap now else pure () : Handler Unit) handled.state = .ok last ∧
        last.state.db = handled.state.db := by
    cases handled.value with
    | true =>
        obtain ⟨last, refreshed⟩ : (refreshMap now).Ends handled.state := refreshMap_ends _
        exact ⟨last, refreshed, refreshMap_db refreshed⟩
    | false => exact ⟨_, rfl, rfl⟩
  simp only [process, accepted]
  refine ⟨_, Effect.bind_eq_ok_iff.mpr ⟨_, _, recorded,
    Effect.bind_eq_ok_iff.mpr ⟨_, last, ran, refreshed, rfl⟩, rfl⟩, same, fun act member => ?_⟩
  simp [member]

/-- A request which is treated by one query leaves what the query leaves. -/
theorem process_run {statement : Statement} {outcome : Outcome KafkaServer Act Unit}
    (accepted : accepted? session request = some subject)
    (handles : handle now session subject request = do run now [statement]; return true)
    (ran : process now session request server = .ok outcome) :
    outcome.state.db = (DbConnectionHandler.query now [statement] server.outages server.db).db := by
  let answer := DbConnectionHandler.query now [statement] server.outages server.db
  have handled : handle now session subject request server =
      .ok ⟨true, ⟨answer.db, answer.outages, server.response⟩, answer.failures.map .failed⟩ := by
    simp [handles, run, query, Effect.bind_eq_ok_iff, answer]
  obtain ⟨other, ranToo, same, _⟩ := process_of_handle accepted handled
  rw [ran] at ranToo
  cases ranToo
  exact same

/-- An order to disconnect a customer is always answered, and leaves what its query leaves. -/
theorem process_customerDisconnect
    (accepted : accepted? session request = some .orderCustomerDisconnect) :
    ∃ outcome, process now session request server = .ok outcome ∧
      outcome.state.db = (DbConnectionHandler.query now [.deleteCustomer request.id] server.outages
        server.db).db ∧
      ∃ answer, .produce answer ∈ outcome.acts ∧
        answer.subject = .response .customerDisconnect ∧ answer.id = request.id := by
  let answer := DbConnectionHandler.query now [.deleteCustomer request.id] server.outages server.db
  let told : Message :=
    { server.response with id := request.id, subject := .response .customerDisconnect }
  have handled : handle now session .orderCustomerDisconnect request server = .ok
      ⟨true, ⟨answer.db, answer.outages, told⟩, answer.failures.map .failed ++ [.produce told]⟩ := by
    simp [handle, onCustomerDisconnect, run, query, setResponse, respond, produce,
      Effect.bind_eq_ok_iff, answer, told]
  obtain ⟨outcome, ran, same, acts⟩ := process_of_handle accepted handled
  exact ⟨outcome, ran, same, told, acts _ (by simp), rfl, rfl⟩

/-- A free identifier which can be quoted is stored. -/
theorem insertCustomer_stored {db : Db} {customer : Id} (coord : Coordinate)
    (absent : db.customers.lookup customer = none)
    (literal : Statement.quotable customer = true) :
    ∃ stored : Db, Statement.insertCustomer customer coord now db = .ok (stored, none) := by
  obtain ⟨customers, added⟩ : ∃ customers,
      db.customers.insert? (.inserted now customer coord) = some customers := by
    refine Option.ne_none_iff_exists'.mp fun refused => ?_
    obtain ⟨old, found⟩ := Table.insert?_eq_none_iff.mp refused
    exact absurd (absent.symm.trans found) (by simp)
  have lookup : ∀ other, customers.lookup other = if other = customer then
      some (.inserted now customer coord) else db.customers.lookup other :=
    Table.lookup_insert? added
  have keys : Tables.ForeignKeys { db.toTables with customers := customers } := by
    refine ⟨fun row member location wanted => ?_, fun row member other carried => ?_,
      db.foreignKeys.service⟩
    · have found : customers.lookup row.id = some row := Table.lookup_of_mem member
      rw [lookup] at found
      by_cases same : row.id = customer
      · rw [if_pos same, Option.some.injEq] at found
        rw [← found] at wanted
        cases wanted
      · rw [if_neg same] at found
        exact db.foreignKeys.destination row (Table.mem_of_lookup found) location wanted
    · have stored := db.foreignKeys.customerId row member other carried
      change (customers.lookup other).isSome
      rw [lookup]
      by_cases same : other = customer
      · rw [if_pos same]
        rfl
      · rw [if_neg same]
        exact stored
  refine ⟨⟨_, keys⟩, ?_⟩
  simp only [Statement.insertCustomer, Statement.quoting, List.all_cons, literal, List.all_nil,
    Bool.and_self, if_true, Statement.insert_eq_ok_iff, Tables.insertCustomer, added,
    Option.map_some, and_true]

/-- Where nobody has the identifier of a new customer, the customer is accepted. -/
theorem process_newCustomer {db : Db} {response : Message}
    (accepted : accepted? session request = some .newCustomer)
    (absent : db.customers.lookup request.id = none)
    (literal : Statement.quotable request.id = true) :
    ∃ outcome, process now session request ⟨db, [], response⟩ = .ok outcome ∧
      ∃ answer, .produce answer ∈ outcome.acts ∧
        answer.subject = .response .accept ∧ answer.session = request.session := by
  obtain ⟨stored, inserted⟩ := @insertCustomer_stored now db request.id request.coord absent literal
  have exists_ : DbConnectionHandler.query now [.selectCustomerExists request.id] [] db =
      ⟨.ok (.ofResults [[]]), db, [], []⟩ := by
    simp [DbConnectionHandler.query_one, Statement.selectCustomerExists, Statement.quoting,
      Statement.select, literal, absent]
  have insert : DbConnectionHandler.query now [.insertCustomer request.id request.coord] [] db =
      ⟨.ok (.ofResults []), stored, [], []⟩ := by
    simp [DbConnectionHandler.query_one, inserted]
  let told : Message :=
    { response with session := request.session, subject := .response .accept }.setUuidData session
  have handled : handle now session .newCustomer request ⟨db, [], response⟩ = .ok
      ⟨true, ⟨stored, [], told⟩, [.produce told]⟩ := by
    simp [handle, newCustomer, query, setResponse, produce, Effect.bind_eq_ok_iff, exists_, insert,
      told]
  obtain ⟨outcome, ran, _, acts⟩ := process_of_handle accepted handled
  exact ⟨outcome, ran, told, acts _ (by simp), rfl, rfl⟩

end KafkaServer

/-! ### What becomes of the customer -/

/-- The step puts a response on `responses` which satisfies this. -/
def CentralStep.Answers (taken : CentralStep) (expected : Message → Prop) : Prop :=
  ∃ answer, .produce answer ∈ taken.recorded ∧ expected answer

namespace System

/-- Whatever comes before it registers again, the customer is accepted then. -/
def Welcomes (session : Uuid) (system : System) (customer : Id) : Prop :=
  ∀ events, (∀ event ∈ events, ¬ Event.Joins customer event) →
    ∀ later, (machine session).exec system events = some later →
      ∀ now message, Event.Joins customer (.request now message []) →
        ∃ after, (machine session).step later (.request now message []) = some after ∧
          CentralStep.Answers ⟨later, .request now message [], after⟩ fun answer =>
            answer.subject = .response .accept ∧ answer.session = message.session

/-- Nothing is left of a customer. -/
structure Gone (session : Uuid) (system : System) (customer : Id) : Prop where
  absent : system.db.customers.lookup customer = none
  untied : system.db.Untied customer
  welcome : system.Welcomes session customer

variable {session : Uuid} {system : System} {customer : Id} {now : Timestamp} {message : Message}
  {outages : List Bool}

/-- What the switch ends with is the next state, and what it does is recorded. -/
theorem step_of_process {outcome : Outcome KafkaServer Act Unit}
    (ran : KafkaServer.process now session message ⟨system.db, outages, system.response⟩ =
      .ok outcome) :
    ∃ after, (machine session).step system (.request now message outages) = some after ∧
      after.db = outcome.state.db ∧
      ∀ act ∈ outcome.acts,
        act ∈ CentralStep.recorded ⟨system, .request now message outages, after⟩ := by
  refine ⟨⟨outcome.state.db, outcome.state.response, outcome.acts.reverse ++ system.trace⟩, ?_, rfl,
    fun act member => ?_⟩
  · simp [machine, step, ran]
  · rw [CentralStep.recorded_append rfl]
    exact List.mem_reverse.mpr member

/-- A customer without a row, whose identifier can be quoted, is welcome. -/
theorem welcomes_of_absent (absent : system.db.customers.lookup customer = none)
    (literal : Statement.quotable customer = true) : system.Welcomes session customer := by
  intro events others later executed now message joins
  obtain ⟨subject, rfl⟩ := joins
  have named : system.db.Named (· ≠ message.id) := by
    rintro other present rfl
    simp [Tables.trips, Tables.customerCoord, absent] at present
  have kept : later.db.Named (· ≠ message.id) := by
    refine Machine.exec_invariant (fun system => system.db.Named (· ≠ message.id)) ?_ named others
      executed
    intro system event next stepped stranger named
    refine named_of_step stepped (fun other joins _ => ?_) named
    rintro rfl
    exact stranger joins
  have free : later.db.customers.lookup message.id = none := by
    by_contra stored
    refine kept message.id ?_ rfl
    simpa [Tables.trips, Tables.customerCoord, Option.isSome_iff_ne_none] using stored
  have accepted : KafkaServer.accepted? session message = some .newCustomer := by
    simp [KafkaServer.accepted?, subject, KafkaServer.greenList]
  obtain ⟨outcome, ran, answer, told, kind, same⟩ :=
    @KafkaServer.process_newCustomer now session message later.db later.response accepted free
      literal
  obtain ⟨after, stepped, _, acts⟩ := step_of_process ran
  exact ⟨after, stepped, answer, acts _ told, kind, same⟩

end System

/-- The answer to an order to disconnect a customer. -/
def Message.Dismisses (customer : Id) (answer : Message) : Prop :=
  answer.subject = .response .customerDisconnect ∧ answer.id = customer

/-- An order to disconnect a stored customer is answered, whether or not its `DELETE` is
executed. -/
theorem System.customerDisconnect_step {session : Uuid} {system : System} {now : Timestamp}
    {message : Message} {outages : List Bool} (quoted : system.db.Quoted)
    (ordered : message.subject = .request .orderCustomerDisconnect)
    (present : (system.db.customers.lookup message.id).isSome) :
    ∃ after, (machine session).step system (.request now message outages) = some after ∧
      CentralStep.Answers ⟨system, .request now message outages, after⟩
        (Message.Dismisses message.id) ∧
      Statement.quotable message.id = true ∧
      after.db.toTables =
        if outages.head? ≠ some true ∧
            ∀ row ∈ system.db.taxis.rows, row.customerId ≠ some message.id then
          system.db.toTables.deleteCustomer message.id
        else system.db.toTables := by
  have literal : Statement.quotable message.id = true := by
    apply quoted message.id
    simpa [Tables.trips, Tables.customerCoord] using present
  have accepted : KafkaServer.accepted? session message = some .orderCustomerDisconnect := by
    simp [KafkaServer.accepted?, ordered, KafkaServer.greenList]
  obtain ⟨outcome, ran, stored, answer, told, dismisses⟩ :=
    @KafkaServer.process_customerDisconnect now session ⟨system.db, outages, system.response⟩ message
      accepted
  obtain ⟨after, stepped, db, acts⟩ := step_of_process ran
  refine ⟨after, stepped, ⟨answer, acts _ told, dismisses⟩, literal, ?_⟩
  rw [db, stored]
  exact DbConnectionHandler.query_deleteCustomer literal

/-- In every state which Central can reach, whatever outages there are, an order to disconnect a
stored customer is answered, and the customer is gone exactly if its `DELETE` is executed and no
taxi carries the customer or is assigned to it. -/
theorem customer_gone_iff (session : Uuid) (locations : Table LocationRow.id) (system : System)
    (reachable : (System.machine session).Reachable (System.start locations) system)
    (now : Timestamp) (message : Message) (outages : List Bool)
    (ordered : message.subject = .request .orderCustomerDisconnect)
    (present : (system.db.customers.lookup message.id).isSome) :
    ∃ after, (System.machine session).step system (.request now message outages) = some after ∧
      CentralStep.Answers ⟨system, .request now message outages, after⟩
        (Message.Dismisses message.id) ∧
      (after.Gone session message.id ↔
        outages.head? ≠ some true ∧ system.db.Untied message.id) := by
  obtain ⟨after, stepped, told, literal, tables⟩ := @System.customerDisconnect_step session system now
    message outages (System.quoted_of_reachable reachable) ordered present
  refine ⟨after, stepped, told, ?_⟩
  constructor
  · intro gone
    have deleted : outages.head? ≠ some true ∧
        ∀ row ∈ system.db.taxis.rows, row.customerId ≠ some message.id := by
      by_contra kept
      rw [if_neg kept] at tables
      have absent := gone.absent
      rw [tables] at absent
      simp [absent] at present
    refine ⟨deleted.1, ?_⟩
    have untied := gone.untied
    rw [tables, if_pos deleted] at untied
    exact untied
  · rintro ⟨executed, untied⟩
    rw [if_pos ⟨executed, fun row member => (untied row member).1⟩] at tables
    have absent : after.db.customers.lookup message.id = none := by
      rw [tables]
      simp [Tables.deleteCustomer]
    refine ⟨absent, ?_, System.welcomes_of_absent absent literal⟩
    rw [tables]
    exact untied

/-- The order to disconnect customer 65. -/
def dismissal : Message := { Message.request [] .orderCustomerDisconnect with id := 65 }

/-- A customer who registered. -/
def registered : List System.Event := [Town.register 65 ⟨1, 1⟩]

/-- A customer to whom a taxi was assigned. -/
def expected : List System.Event :=
  Town.join 1 ++ [Town.register 65 ⟨1, 1⟩, Town.ask 65 74]

theorem registered_survives :
    ((System.machine Town.session).exec (System.start Town.locations) registered).isSome := by
  decide +kernel

theorem expected_survives :
    ((System.machine Town.session).exec (System.start Town.locations) expected).isSome := by
  decide +kernel

/-- A customer without a taxi is gone. -/
theorem registered_customer_gone :
    ∃ after, (System.machine Town.session).step (Town.reach registered registered_survives)
        (.request 0 dismissal []) = some after ∧ after.Gone Town.session 65 := by
  obtain ⟨after, stepped, _, gone⟩ := customer_gone_iff Town.session Town.locations
    (Town.reach registered registered_survives) (Town.reachable_reach _ _) 0 dismissal [] rfl
    (by decide +kernel)
  exact ⟨after, stepped, gone.mpr (by decide +kernel)⟩

/-- A customer to whom a taxi is assigned is told to be disconnected, and the taxi stays
assigned. -/
theorem expected_customer_stays :
    ¬ ∀ (session : Uuid) (locations : Table LocationRow.id) (system : System),
      (System.machine session).Reachable (System.start locations) system →
      ∀ (now : Timestamp) (message : Message) (outages : List Bool),
        message.subject = .request .orderCustomerDisconnect →
        (system.db.customers.lookup message.id).isSome →
        ∀ after, (System.machine session).step system (.request now message outages) = some after →
          CentralStep.Answers ⟨system, .request now message outages, after⟩
              (Message.Dismisses message.id) →
            after.Gone session message.id := by
  intro claimed
  have reachable := Town.reachable_reach expected expected_survives
  obtain ⟨after, stepped, told, _, tables⟩ := @System.customerDisconnect_step Town.session
    (Town.reach expected expected_survives) 0 dismissal [] (System.quoted_of_reachable reachable) rfl
    (by decide +kernel)
  have gone := claimed Town.session Town.locations _ reachable 0 dismissal [] rfl (by decide +kernel)
    after stepped told
  have tied : ¬ (Town.reach expected expected_survives).db.Untied 65 := by decide +kernel
  apply tied
  have untied := gone.untied
  rw [tables] at untied
  split at untied <;> exact untied

end EasyCab
