import EasyCab.Central.Failures
import EasyCab.Central.Trips

/-!
# What the helpers of Central compute when every statement succeeds

`Yields` fixes an outcome of a helper in which no statement failed. One lemma for
each helper says what the outcome is in terms of the columns the helper reads, so
that no later proof looks at rows, cursors or result sets again. `outages` is the
only part of the server whose value is left open.
-/

namespace EasyCab

open Library

/-- The act of a failing statement. -/
def Act.IsFailure : Act → Prop
  | .failed _ => True
  | _ => False

instance : DecidablePred Act.IsFailure := fun act => by
  cases act <;> unfold Act.IsFailure <;> infer_instance

@[simp] theorem Act.not_isFailure_handled (request : Message) :
    ¬ (Act.handled request).IsFailure := id
@[simp] theorem Act.not_isFailure_produce (message : Message) :
    ¬ (Act.produce message).IsFailure := id
@[simp] theorem Act.not_isFailure_publishMap (map : Map) : ¬ (Act.publishMap map).IsFailure := id
@[simp] theorem Act.not_isFailure_assign (taxi : TaxiId) (customer : Id) :
    ¬ (Act.assign taxi customer).IsFailure := id
@[simp] theorem Act.not_isFailure_announce (message : Message) :
    ¬ (Act.announce message).IsFailure := id
@[simp] theorem Act.isFailure_failed (error : SqlError) : (Act.failed error).IsFailure := trivial

/-- What is put on `responses` was produced. -/
@[simp] theorem Act.mem_responses_iff {acts : List Act} {message : Message} :
    message ∈ Act.responses acts ↔ .produce message ∈ acts := by
  rw [responses, List.mem_filterMap]
  constructor
  · rintro ⟨act, member, found⟩
    cases act with
    | produce other =>
        cases found
        exact member
    | _ => cases found
  · exact fun member => ⟨_, member, rfl⟩

@[simp] theorem Act.responses_append (first second : List Act) :
    Act.responses (first ++ second) = Act.responses first ++ Act.responses second :=
  List.filterMap_append

namespace KafkaServer

/-- An outcome of a computation of Central in which every statement succeeded. -/
abbrev Yields {Value : Type} (handler : Handler Value) (server : KafkaServer)
    (outcome : Outcome KafkaServer Act Value) : Prop :=
  Effect.Yields Act.IsFailure handler server outcome

/-- A computation which ends and in which nothing fails comes to its state and its acts. -/
theorem yields_of_ends {Value : Type} (handler : Handler Value) (server : KafkaServer)
    (ends : (handler server).isOk = true) (clean : ∀ act ∈ handler.acts server, ¬ act.IsFailure) :
    ∃ outcome, Yields handler server outcome ∧ outcome.state = handler.last server ∧
      outcome.acts = handler.acts server :=
  Effect.yields_of_ends ends clean

variable {now : Timestamp} {server : KafkaServer}

/-! ### Queries -/

/-- A query in which nothing fails runs all of its statements. -/
theorem query_yields {statements : List Statement}
    {outcome : Outcome KafkaServer Act (Except SqlError DbResults)}
    (ran : Yields (query now statements) server outcome) :
    ∃ db results outages,
      DbConnectionHandler.runAll now statements server.db = .ok (db, results) ∧
      outcome = ⟨.ok (.ofResults results), { server with db := db, outages := outages }, []⟩ := by
  obtain ⟨equal, allowed⟩ := ran
  simp only [query, Except.ok.injEq] at equal
  have clean : (DbConnectionHandler.query now statements server.outages server.db).failures = [] := by
    apply List.eq_nil_iff_forall_not_mem.mpr
    intro error member
    refine allowed (.failed error) ?_ (Act.isFailure_failed error)
    rw [← equal]
    exact List.mem_map.mpr ⟨error, member, rfl⟩
  obtain ⟨db, results, all, answer⟩ := DbConnectionHandler.query_clean clean
  refine ⟨db, results, server.outages.drop statements.length, all, ?_⟩
  rw [← equal, answer]
  rfl

/-- A query whose failure is only logged runs all of its statements. -/
theorem run_yields {statements : List Statement} {outcome : Outcome KafkaServer Act Unit}
    (ran : Yields (run now statements) server outcome) :
    ∃ db results outages,
      DbConnectionHandler.runAll now statements server.db = .ok (db, results) ∧
      outcome = ⟨(), { server with db := db, outages := outages }, []⟩ := by
  simp only [run, Yields, Effect.yields_bind, Effect.yields_pure] at ran
  obtain ⟨middle, last, queried, rfl, rfl⟩ := ran
  obtain ⟨db, results, outages, all, rfl⟩ := query_yields queried
  exact ⟨db, results, outages, all, rfl⟩

/-- A query of one update leaves the tables which the update computes. -/
theorem run_update_yields {effect : Timestamp → Tables → Tables}
    {outcome : Outcome KafkaServer Act Unit}
    (ran : Yields (run now [.update effect]) server outcome) :
    ∃ db outages, db.toTables = effect now server.db.toTables ∧
      outcome = ⟨(), { server with db := db, outages := outages }, []⟩ := by
  obtain ⟨db, results, outages, all, rfl⟩ := run_yields ran
  simp only [DbConnectionHandler.runAll_cons, Statement.update_eq_ok_iff,
    DbConnectionHandler.runAll_nil] at all
  obtain ⟨next, _, _, ⟨stored, _⟩, ⟨rfl, _⟩, _⟩ := all
  exact ⟨_, outages, stored, rfl⟩

/-- A query of one update whose text quotes characters leaves the tables which the update
computes. -/
theorem run_quoting_yields {chars : List Id} {effect : Timestamp → Tables → Tables}
    {outcome : Outcome KafkaServer Act Unit}
    (ran : Yields (run now [.quoting chars (.update effect)]) server outcome) :
    ∃ db outages, db.toTables = effect now server.db.toTables ∧
      outcome = ⟨(), { server with db := db, outages := outages }, []⟩ := by
  obtain ⟨db, results, outages, all, rfl⟩ := run_yields ran
  simp only [DbConnectionHandler.runAll_cons, Statement.quoting_eq_ok_iff,
    Statement.update_eq_ok_iff, DbConnectionHandler.runAll_nil] at all
  obtain ⟨next, _, _, ⟨_, stored, _⟩, ⟨rfl, _⟩, _⟩ := all
  exact ⟨_, outages, stored, rfl⟩

/-! ### Responses -/

@[simp] theorem setResponse_yields {update : Message → Message}
    {outcome : Outcome KafkaServer Act Unit} :
    Yields (setResponse update) server outcome ↔
      outcome = ⟨(), { server with response := update server.response }, []⟩ :=
  Effect.yields_modify

@[simp] theorem produce_yields {outcome : Outcome KafkaServer Act Unit} :
    Yields produce server outcome ↔ outcome = ⟨(), server, [.produce server.response]⟩ := by
  simp only [produce, Yields, Effect.yields_bind, Effect.yields_get, Effect.yields_record]
  constructor
  · rintro ⟨_, _, rfl, ⟨_, rfl⟩, rfl⟩
    rfl
  · rintro rfl
    exact ⟨_, _, rfl, ⟨Act.not_isFailure_produce _, rfl⟩, rfl⟩

@[simp] theorem respond_yields {subject : SubjResponse} {outcome : Outcome KafkaServer Act Unit} :
    Yields (respond subject) server outcome ↔
      outcome = ⟨(), { server with response := { server.response with subject := .response subject } },
        [.produce { server.response with subject := .response subject }]⟩ := by
  simp only [respond, Yields, Effect.yields_bind]
  constructor
  · rintro ⟨_, _, changed, produced, rfl⟩
    rw [setResponse_yields.mp changed] at produced ⊢
    rw [produce_yields.mp produced]
    rfl
  · rintro rfl
    exact ⟨_, _, setResponse_yields.mpr rfl, produce_yields.mpr rfl, rfl⟩

/-! ### Reading helpers -/

/-- A helper in which nothing fails answers what is stored. -/
theorem Reads.yields {Value : Type} {handler : Handler (Option Value)} {stored : Option Value}
    {outcome : Outcome KafkaServer Act (Option Value)}
    (reads : Reads handler server (unlessOut server stored) (outage server))
    (ran : Yields handler server outcome) :
    ∃ outages, outcome = ⟨stored, { server with outages := outages }, []⟩ := by
  obtain ⟨equal, allowed⟩ := ran
  rw [Reads] at reads
  rw [reads] at equal
  cases equal
  by_cases due : DbConnectionHandler.OutAt server.outages 0
  · have failed : Act.failed .unavailable ∈ (outage server).map Act.failed := by
      simp [outage, due]
    exact absurd (Act.isFailure_failed _) (allowed _ failed)
  · exact ⟨server.outages.tail, by simp [unlessOut, outage, due]⟩

/-- `checkAvailableTaxis` answers the first connected taxi. -/
theorem checkAvailableTaxis_yields {outcome : Outcome KafkaServer Act (Option TaxiId)}
    (ran : Yields (checkAvailableTaxis now) server outcome) :
    ∃ outages, outcome = ⟨server.db.available, { server with outages := outages }, []⟩ :=
  checkAvailableTaxis_reads.yields ran

/-- `checkQueue` answers the customer who has waited longest. -/
theorem checkQueue_yields {outcome : Outcome KafkaServer Act (Option Id)}
    (ran : Yields (checkQueue now) server outcome) :
    ∃ outages, outcome = ⟨server.db.queueHead, { server with outages := outages }, []⟩ :=
  checkQueue_reads.yields ran

/-- `carryingClient` answers the carried customer. -/
theorem carryingClient_yields {taxi : TaxiId} {outcome : Outcome KafkaServer Act (Option Id)}
    (ran : Yields (carryingClient now taxi) server outcome) :
    ∃ outages, outcome = ⟨server.db.customerIdOf taxi, { server with outages := outages }, []⟩ :=
  (carryingClient_reads taxi).yields ran

/-- `getService` answers the service of the taxi. -/
theorem getService_yields {taxi : TaxiId} {outcome : Outcome KafkaServer Act (Option Id)}
    (ran : Yields (getService now taxi) server outcome) :
    ∃ outages, outcome = ⟨server.db.serviceOf taxi, { server with outages := outages }, []⟩ :=
  (getService_reads taxi).yields ran

/-- `getDestination` answers the position of the stored destination. -/
theorem getDestination_yields {customer : Id}
    {outcome : Outcome KafkaServer Act (Option Coordinate)}
    (ran : Yields (getDestination now customer) server outcome) :
    ∃ outages,
      outcome = ⟨server.db.destinationOf customer, { server with outages := outages }, []⟩ := by
  simp only [getDestination, Yields, Effect.yields_bind] at ran
  obtain ⟨middle, last, queried, continued, rfl⟩ := ran
  obtain ⟨db, results, outages, all, rfl⟩ := query_yields queried
  simp only [Statement.selectDestination, DbConnectionHandler.runAll_cons,
    Statement.quoting_eq_ok_iff, Statement.select_eq_ok_iff, DbConnectionHandler.runAll_nil] at all
  obtain ⟨_, _, _, ⟨_, rfl, rfl⟩, ⟨rfl, rfl⟩, rfl⟩ := all
  refine ⟨outages, ?_⟩
  suffices ended : last =
      ⟨server.db.destinationOf customer, { server with outages := outages }, []⟩ by
    rw [ended]; rfl
  cases found : server.db.destinationOf customer with
  | none => simpa [found] using continued
  | some coord => simpa [found, Field.empty, stoi] using continued

/-- `refreshMap` publishes one map. -/
theorem refreshMap_yields {outcome : Outcome KafkaServer Act Unit}
    (ran : Yields (refreshMap now) server outcome) :
    ∃ outages map, outcome = ⟨(), { server with outages := outages }, [.publishMap map]⟩ := by
  simp only [refreshMap, Yields, Effect.yields_bind] at ran
  obtain ⟨_, _, queried, continued, rfl⟩ := ran
  obtain ⟨db, results, outages, all, rfl⟩ := query_yields queried
  simp only [Statement.selectLocations, Statement.selectCustomers, Statement.selectTaxis,
    DbConnectionHandler.runAll_cons, Statement.select_eq_ok_iff,
    DbConnectionHandler.runAll_nil] at all
  obtain ⟨_, _, _, ⟨rfl, _⟩, ⟨_, _, _, ⟨rfl, _⟩, ⟨_, _, _, ⟨rfl, _⟩, ⟨rfl, _⟩, _⟩, _⟩, _⟩ := all
  simp only [Effect.yields_bind, Effect.yields_demand, Effect.yields_record] at continued
  obtain ⟨_, _, ⟨map, _, rfl⟩, ⟨_, rfl⟩, rfl⟩ := continued
  exact ⟨outages, map, rfl⟩

/-! ### Writing helpers -/

/-- The tables after `setOnboard`. -/
def onboardTables (now : Timestamp) (customer : Id) (taxi : TaxiId) (val : Bool)
    (tables : Tables) : Tables :=
  (tables.setOnboardFlag now customer val).setCustomerId now taxi
    (if val then some customer else none)

/-- `setOnboard` writes both tables. -/
theorem setOnboard_yields {customer : Id} {taxi : TaxiId} {val : Bool}
    {outcome : Outcome KafkaServer Act Unit}
    (ran : Yields (setOnboard now customer taxi val) server outcome) :
    ∃ db outages, db.toTables = onboardTables now customer taxi val server.db.toTables ∧
      outcome = ⟨(), { server with db := db, outages := outages }, []⟩ := by
  obtain ⟨db, results, outages, all, rfl⟩ := run_yields ran
  simp only [Statement.setOnboardFlag, Statement.setCustomerId, DbConnectionHandler.runAll_cons,
    Statement.quoting_eq_ok_iff, Statement.update_eq_ok_iff,
    DbConnectionHandler.runAll_nil] at all
  obtain ⟨middle, _, _, ⟨_, flagged, _⟩, ⟨last, _, _, ⟨_, carried, _⟩, ⟨rfl, _⟩, _⟩, _⟩ := all
  refine ⟨_, outages, ?_, rfl⟩
  rw [carried, flagged]
  rfl

/-- `setDestination` answers true and stores the destination. -/
theorem setDestination_yields {customer service : Id} {outcome : Outcome KafkaServer Act Bool}
    (ran : Yields (setDestination now customer service) server outcome) :
    ∃ db outages, db.toTables = server.db.toTables.setDestination now customer service ∧
      outcome = ⟨true, { server with db := db, outages := outages }, []⟩ := by
  simp only [setDestination, Yields, Effect.yields_bind] at ran
  obtain ⟨middle, last, queried, continued, rfl⟩ := ran
  obtain ⟨db, results, outages, all, rfl⟩ := query_yields queried
  simp only [Statement.setDestination, DbConnectionHandler.runAll_cons,
    Statement.quoting_eq_ok_iff, Statement.update_eq_ok_iff,
    DbConnectionHandler.runAll_nil] at all
  obtain ⟨next, _, _, ⟨_, stored, _⟩, ⟨rfl, _⟩, _⟩ := all
  refine ⟨_, outages, stored, ?_⟩
  have ended : last = ⟨true, { server with db := db, outages := outages }, []⟩ := by
    simpa using continued
  rw [ended]
  rfl

/-- A call of `assign`: the taxi is sent to its stored destination and both responses
name the taxi and the customer. -/
structure Assigned (now : Timestamp) (taxi : TaxiId) (customer : Id) (before after : KafkaServer)
    (acts : List Act) : Prop where
  tables : after.db.toTables = before.db.toTables.assignTaxi now taxi customer
  sent : ∃ coord, after.db.destOf taxi = some coord ∧
    after.response = { before.response with
      taxiId := taxi, id := customer, coord := coord,
      subject := .response .customerServiceAccepted }
  acts : acts = [.assign taxi customer,
    .produce { after.response with subject := .response .taxiGoTo }, .produce after.response]

/-- `assign` is a call of `assign`. -/
theorem assign_yields {taxi : TaxiId} {customer : Id} {outcome : Outcome KafkaServer Act Unit}
    (ran : Yields (assign now taxi customer) server outcome) :
    Assigned now taxi customer server outcome.state outcome.acts := by
  simp only [assign, Yields, Effect.yields_bind, Effect.yields_record, Effect.yields_demand] at ran
  obtain ⟨_, _, ⟨_, rfl⟩, ⟨_, _, queried, continued, rfl⟩, rfl⟩ := ran
  obtain ⟨db, results, outages, all, rfl⟩ := query_yields queried
  simp only [Statement.assignTaxi, Statement.selectDest, DbConnectionHandler.runAll_cons,
    Statement.quoting_eq_ok_iff, Statement.update_eq_ok_iff, Statement.select_eq_ok_iff,
    DbConnectionHandler.runAll_nil] at all
  obtain ⟨stored, _, _, ⟨_, assigned, rfl⟩, ⟨_, _, _, ⟨rfl, rfl⟩, ⟨rfl, rfl⟩, rfl⟩, rfl⟩ := all
  obtain ⟨_, _, ⟨read, taken, rfl⟩, continued, rfl⟩ := continued
  obtain ⟨_, _, ⟨x, readX, rfl⟩, ⟨_, _, ⟨y, readY, rfl⟩, continued, rfl⟩, rfl⟩ := continued
  obtain ⟨_, _, set, ⟨_, _, goTo, accepted, rfl⟩, rfl⟩ := continued
  cases taken
  rw [setResponse_yields.mp set] at goTo
  rw [respond_yields.mp goTo] at accepted ⊢
  rw [respond_yields.mp accepted]
  have sent : db.destOf taxi = some ⟨x, y⟩ := by
    cases found : db.taxis.lookup taxi with
    | none => simp [found, intColumn, column] at readX
    | some row =>
        cases destX : row.destX <;> cases destY : row.destY <;>
          simp_all [intColumn, column, Field.ofInt?, stoi, Tables.destOf]
  refine ⟨assigned, ⟨⟨x, y⟩, sent, ?_⟩, ?_⟩
  · rfl
  · rw [setResponse_yields.mp set]
    rfl

end KafkaServer

end EasyCab
