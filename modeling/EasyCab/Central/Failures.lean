import EasyCab.Central.KafkaServer

/-!
# What the helpers answer while statements fail

Each helper which reads the tables is one `SELECT`. It takes one place of the outages and leaves
everything else alone, and it answers what is stored, or nothing where the outage is due:
`KafkaServer.Reads`. A query which writes leaves its own database and outages behind,
`KafkaServer.queried`, and a handler goes on from there whether or not it failed.
-/

namespace EasyCab

open Library
open DbConnectionHandler (OutAt)

namespace KafkaServer

/-- The helper is one `SELECT`, which answers this value and meets these failures. -/
def Reads {Value : Type} (handler : Handler Value) (server : KafkaServer) (value : Value)
    (failures : List SqlError) : Prop :=
  handler server = .ok ⟨value, { server with outages := server.outages.tail }, failures.map .failed⟩

/-- What is stored, where no outage keeps it from being read. -/
def unlessOut {Value : Type} (server : KafkaServer) (stored : Option Value) : Option Value :=
  if OutAt server.outages 0 then none else stored

/-- The outage which the next statement meets, if it meets one. -/
def outage (server : KafkaServer) : List SqlError :=
  if OutAt server.outages 0 then [.unavailable] else []

/-- The server after a query. -/
def queried (now : Timestamp) (statements : List Statement) (server : KafkaServer) : KafkaServer :=
  { server with
    db := (DbConnectionHandler.query now statements server.outages server.db).db
    outages := (DbConnectionHandler.query now statements server.outages server.db).outages }

section Helpers

variable {now : Timestamp} {server : KafkaServer}

/-- A query which is only logged leaves its database and the outages still to come. -/
theorem run_eq (statements : List Statement) : ∃ failures : List SqlError,
    run now statements server = .ok ⟨(), queried now statements server, failures.map .failed⟩ := by
  refine ⟨(DbConnectionHandler.query now statements server.outages server.db).failures,
    Effect.bind_eq_ok_iff.mpr ⟨_, ⟨(), _, []⟩, rfl, rfl, ?_⟩⟩
  rw [List.append_nil]
  rfl

/-- A helper answers what it makes of the answer to its query, if the query changes nothing. -/
theorem reads_of_answer {Value : Type} {statement : Statement} {answer : Except SqlError DbResults}
    {failures : List SqlError} {next : Except SqlError DbResults → Handler Value} {value : Value}
    (asked : DbConnectionHandler.query now [statement] server.outages server.db =
      ⟨answer, server.db, server.outages.tail, failures⟩)
    (continues : ∀ state, next answer state = .ok ⟨value, state, []⟩) :
    Reads (query now [statement] >>= next) server value failures := by
  have ran : query now [statement] server =
      .ok ⟨answer, { server with outages := server.outages.tail }, failures.map .failed⟩ := by
    rw [query, asked]
  refine Effect.bind_eq_ok_iff.mpr ⟨_, _, ran, continues _, ?_⟩
  rw [List.append_nil]

/-- A helper answers nothing where its `SELECT` meets an outage, and elsewhere what it makes of the
rows. -/
theorem reads_select {Value : Type} {rows : Tables → ResultSet}
    {next : Except SqlError DbResults → Handler (Option Value)} {stored : Option Value}
    (refused : ∀ error, next (.error error) = pure none)
    (answered : ∀ state, next (.ok (.ofResults [rows server.db.toTables])) state =
      .ok ⟨stored, state, []⟩) :
    Reads (query now [.select rows] >>= next) server (unlessOut server stored) (outage server) := by
  have asked := DbConnectionHandler.query_select now rows server.outages server.db
  unfold unlessOut KafkaServer.outage
  by_cases outage : OutAt server.outages 0
  · rw [if_pos outage] at asked
    rw [if_pos outage, if_pos outage]
    apply reads_of_answer asked
    intro state
    rw [refused]
    rfl
  · rw [if_neg outage] at asked
    rw [if_neg outage, if_neg outage]
    exact reads_of_answer asked answered

theorem checkAvailableTaxis_reads : Reads (checkAvailableTaxis now) server
    (unlessOut server server.db.available) (outage server) := by
  apply reads_select
  · exact fun error => rfl
  · intro state
    cases server.db.available with
    | none => rfl
    | some taxi =>
        have read : (Effect.demand (intColumn [.int taxi.toInt32] 0) : Handler Int32) state =
            .ok ⟨taxi.toInt32, state, []⟩ := rfl
        refine Effect.bind_eq_ok_iff.mpr ⟨_, ⟨some taxi, state, []⟩, read, ?_, rfl⟩
        simp

theorem checkQueue_reads : Reads (checkQueue now) server
    (unlessOut server server.db.queueHead) (outage server) := by
  apply reads_select
  · exact fun error => rfl
  · intro state
    cases server.db.queueHead <;> rfl

theorem firstChar_reads (taxi : TaxiId) (read : TaxiRow → Option Id) :
    Reads (firstChar now (.select fun tables =>
      (tables.taxis.lookup taxi).toList.map fun row => [.ofChar? (read row)])) server
      (unlessOut server ((server.db.taxis.lookup taxi).bind read)) (outage server) := by
  apply reads_select
  · exact fun error => rfl
  · intro state
    cases server.db.taxis.lookup taxi with
    | none => rfl
    | some row => cases stored : read row <;> simp [stored, Field.ofChar?, Field.empty, Field.front]

theorem carryingClient_reads (taxi : TaxiId) : Reads (carryingClient now taxi) server
    (unlessOut server (server.db.customerIdOf taxi)) (outage server) :=
  firstChar_reads taxi _

theorem getService_reads (taxi : TaxiId) : Reads (getService now taxi) server
    (unlessOut server (server.db.serviceOf taxi)) (outage server) :=
  firstChar_reads taxi _

/-- The key of a destination stands between quotes. -/
theorem getDestination_reads (customer : Id) : ∃ failures, Reads (getDestination now customer) server
    (unlessOut server
      (if Statement.quotable customer = true then server.db.destinationOf customer else none))
    failures := by
  by_cases literal : Statement.quotable customer = true
  · have plain : Statement.quoting [customer] = id := by
      funext statement now db
      simp [Statement.quoting, literal]
    simp only [getDestination, Statement.selectDestination, plain, id_eq, if_pos literal]
    refine ⟨_, reads_select ?_ ?_⟩
    · exact fun error => rfl
    · intro state
      cases server.db.destinationOf customer <;> rfl
  · have asked : DbConnectionHandler.query now [.selectDestination customer] server.outages
        server.db = if OutAt server.outages 0 then
          ⟨.error .unavailable, server.db, server.outages.tail, [.unavailable]⟩
        else ⟨.error .malformed, server.db, server.outages.tail, [.malformed]⟩ := by
      rw [DbConnectionHandler.query_one, List.head?_eq_getElem?]
      simp [Statement.selectDestination, Statement.quoting, literal, OutAt]
    rw [if_neg literal, unlessOut, ite_self]
    split at asked <;> exact ⟨_, reads_of_answer asked fun state => rfl⟩

/-- Whether a destination was stored is answered, and the rest of the query is left behind. -/
theorem setDestination_eq (customer service : Id) : ∃ (stored : Bool) (failures : List SqlError),
    setDestination now customer service server =
      .ok ⟨stored, queried now [.setDestination customer service] server, failures.map .failed⟩ := by
  let answer := DbConnectionHandler.query now [.setDestination customer service] server.outages
    server.db
  have ran : query now [.setDestination customer service] server =
      .ok ⟨answer.value, queried now [.setDestination customer service] server,
        answer.failures.map .failed⟩ := rfl
  cases value : answer.value with
  | error error =>
      rw [value] at ran
      exact ⟨false, answer.failures,
        Effect.bind_eq_ok_iff.mpr ⟨_, ⟨false, _, []⟩, ran, rfl, by rw [List.append_nil]⟩⟩
  | ok results =>
      rw [value] at ran
      exact ⟨true, answer.failures,
        Effect.bind_eq_ok_iff.mpr ⟨_, ⟨true, _, []⟩, ran, rfl, by rw [List.append_nil]⟩⟩

/-! ### Reports of a position -/

/-- The server after the report of a position: that of a carried customer is stored after that of
its taxi, if it is known whom the taxi carries. -/
def reported (now : Timestamp) (request : Message) (server : KafkaServer) : KafkaServer :=
  queried now (.moveTaxi request.taxiId request.coord ::
      ((unlessOut server (server.db.customerIdOf request.taxiId)).map fun customer =>
        Statement.moveCustomer customer request.coord).toList)
    { server with outages := server.outages.tail }

variable {request : Message}

theorem reportPosition_eq : ∃ failures : List SqlError, reportPosition now request server =
    .ok ⟨unlessOut server (server.db.customerIdOf request.taxiId), reported now request server,
      failures.map .failed⟩ := by
  have read := @carryingClient_reads now server request.taxiId
  obtain ⟨late, moved⟩ := @run_eq now { server with outages := server.outages.tail }
    (.moveTaxi request.taxiId request.coord ::
      ((unlessOut server (server.db.customerIdOf request.taxiId)).map fun customer =>
        Statement.moveCustomer customer request.coord).toList)
  refine ⟨outage server ++ late, Effect.bind_eq_ok_iff.mpr ⟨_, _, read,
    Effect.bind_eq_ok_iff.mpr ⟨_, ⟨_, _, []⟩, moved, rfl, rfl⟩, ?_⟩⟩
  rw [List.append_nil, List.map_append]
  rfl

/-- The position of a taxi which carries nobody is not the business of a customer. -/
theorem reported_alone (alone : unlessOut server (server.db.customerIdOf request.taxiId) = none) :
    (reported now request server).outages = server.outages.tail.tail ∧
      (reported now request server).db.customers = server.db.customers ∧
      (reported now request server).db.locations = server.db.locations ∧
      (reported now request server).db.serviceOf request.taxiId =
        server.db.serviceOf request.taxiId := by
  rw [reported, alone]
  refine ⟨DbConnectionHandler.query_one_outages _ _ _ _, ?_⟩
  refine @DbConnectionHandler.query_maintains (fun db => db.customers = server.db.customers ∧
    db.locations = server.db.locations ∧
      db.serviceOf request.taxiId = server.db.serviceOf request.taxiId) now _ _ _ ?_ ⟨rfl, rfl, rfl⟩
  rw [Option.map_none, Option.toList_none, List.forall_mem_singleton]
  refine Statement.maintains_update fun now db next stored kept => ?_
  rw [stored]
  exact ⟨kept.1, kept.2.1, Tables.serviceOf_moveTaxi.trans kept.2.2⟩

/-- The position of the customer is not stored where that of the taxi meets an outage. -/
theorem reported_carrying {customer : Id}
    (carrying : unlessOut server (server.db.customerIdOf request.taxiId) = some customer) :
    (reported now request server).outages =
      server.outages.drop (if OutAt server.outages 1 then 2 else 3) := by
  have runs : (Statement.moveTaxi request.taxiId request.coord).Runs now server.db :=
    Statement.runs_updateTaxi fun _ => ⟨rfl, rfl⟩
  rw [reported, carrying]
  apply (DbConnectionHandler.query_two_outages runs).trans
  simp only [DbConnectionHandler.outAt_tail, List.drop_tail]
  split <;> rfl

end Helpers

end KafkaServer

end EasyCab
