import EasyCab.Central.Columns
import EasyCab.Central.Departure

/-!
# What the row of a taxi says of its place and of its stop flag

Central writes the place of a taxi when the taxi reports it, and the flag when the operator orders
the taxi to stop or to go on. Nothing else touches the two columns of a stored taxi, whatever
queries fail, and only these orders are answered with `TAXI_STOP` and `TAXI_CONTINUE`.
-/

namespace EasyCab

open Library

/-- The place of a taxi and whether it is stopped. -/
def TaxiRow.standing (row : TaxiRow) : Coordinate × Bool := (row.coord, row.stopped)

namespace Tables

/-- What the row of a taxi says, if there is one. -/
def standingOf (tables : Tables) (taxi : TaxiId) : Option (Coordinate × Bool) :=
  (tables.taxis.lookup taxi).map (·.standing)

variable {tables : Tables} {now : Timestamp} {taxi other : TaxiId}

/-- An update of a taxi changes what its row says, and that of no other taxi. -/
theorem standingOf_updateTaxi {update : TaxiRow → TaxiRow} {keeps : ∀ row, (update row).id = row.id}
    (change : Coordinate × Bool → Coordinate × Bool)
    (changes : ∀ row, (update row).standing = change row.standing) :
    (tables.updateTaxi now taxi update keeps).standingOf other =
      if other = taxi then (tables.standingOf other).map change else tables.standingOf other :=
  taxiColumn_updateTaxi (fun _ _ => rfl) change changes

theorem standingOf_moveTaxi {coord : Coordinate} :
    (tables.moveTaxi now taxi coord).standingOf other =
      if other = taxi then (tables.standingOf other).map fun standing => (coord, standing.2)
      else tables.standingOf other :=
  standingOf_updateTaxi (fun standing => (coord, standing.2)) fun _ => rfl

theorem standingOf_setStopped {stopped : Bool} :
    (tables.setStopped now taxi stopped).standingOf other =
      if other = taxi then (tables.standingOf other).map fun standing => (standing.1, stopped)
      else tables.standingOf other :=
  standingOf_updateTaxi (fun standing => (standing.1, stopped)) fun _ => rfl

end Tables

namespace KafkaServer

variable {now : Timestamp} {session : Uuid} {server : KafkaServer} {request : Message}
  {subject : SubjRequest} {taxi : TaxiId} {standing : Option (Coordinate × Bool)}

/-- A request for a taxi under this subject agrees with what its row is to say. -/
structure Agrees (request : Message) (subject : SubjRequest) (standing : Coordinate × Bool) : Prop where
  coord : Reports subject → standing.1 = request.coord
  stopped : ∀ stop, stop? subject = some stop → standing.2 = stop

theorem update_maintains_standing {effect : Timestamp → Tables → Tables}
    (same : ∀ now tables, (effect now tables).standingOf taxi = tables.standingOf taxi) :
    (Statement.update effect).Maintains fun db => db.standingOf taxi = standing := by
  refine Statement.maintains_update fun now db next stored holds => ?_
  rw [stored, same, holds]

/-- What a request writes to the row of its taxi leaves what the row says, if they agree. -/
theorem Updated.standing_kept {update : TaxiRow → TaxiRow} {row : TaxiRow}
    (updated : Updated request subject update) (agrees : Agrees request subject row.standing) :
    (update row).standing = row.standing := by
  cases updated with
  | moved reports => exact Prod.ext (agrees.coord reports).symm rfl
  | stopped orders => exact Prod.ext rfl (agrees.stopped _ orders).symm
  | _ => rfl

/-- A request which agrees with what the row of a taxi says, or is for another taxi, changes
nothing of it. -/
theorem Issued.maintains_standing {statement : Statement} (issued : Issued request subject statement)
    (agrees : request.taxiId = taxi → ∀ said ∈ standing, Agrees request subject said) :
    statement.Maintains fun db => db.standingOf taxi = standing := by
  refine @Issued.maintains_column _ TaxiRow.standing (· = standing) request subject taxi
    (fun _ _ => rfl) (fun _ _ _ _ => rfl) (fun update updated same row holds => ?_) statement issued
  rw [updated.standing_kept (agrees same _ holds.symm), holds]

/-- What the row of a taxi says is kept by whole requests which agree with it, and what they put on
`responses` answers them. -/
theorem standing_keeps
    (agrees : request.taxiId = taxi → ∀ said ∈ standing, Agrees request subject said) :
    Keeps request subject (fun db _ => db.standingOf taxi = standing) (fun _ => True)
      (Answered request subject) where
  statements _ issued _ := issued.maintains_standing agrees
  produced answered _ := answered
  told _ _ := trivial
  coord _ holds := holds
  id holds := holds
  taxiId holds := holds
  subject holds := holds
  data holds := holds

/-! ### Whole requests -/

variable {outcome : Outcome KafkaServer Act Unit}

/-- A message which agrees with what the row of a taxi says, or is for another taxi, leaves it. -/
theorem process_standing (ran : process now session request server = .ok outcome)
    (agrees : ∀ subject ∈ accepted? session request, request.taxiId = taxi →
      ∀ said ∈ server.db.standingOf taxi, Agrees request subject said) :
    outcome.state.db.standingOf taxi = server.db.standingOf taxi := by
  cases accepted : accepted? session request with
  | none =>
      rw [process_dropped accepted ran]
  | some subject =>
      have stays : Stays (fun db _ => db.standingOf taxi = server.db.standingOf taxi)
          (Answered request subject) (process now session request) server :=
        process_keeps accepted (standing_keeps (agrees subject accepted)) rfl
      simp only [Effect.Stays, ran] at stays
      exact stays.1

/-- `carryingClient` takes one query and nothing else. -/
theorem carryingClient_state {outcome : Outcome KafkaServer Act (Option Id)}
    (ran : carryingClient now taxi server = .ok outcome) :
    outcome.state = { server with outages := server.outages.tail } :=
  (firstChar_answers ran).1

/-- A report whose `UPDATE` is executed is written to the row of its taxi. -/
theorem reportPosition_standing {outcome : Outcome KafkaServer Act (Option Id)}
    (executed : server.outages.tail.head? ≠ some true)
    (ran : reportPosition now request server = .ok outcome) :
    outcome.state.db.standingOf request.taxiId =
      (server.db.standingOf request.taxiId).map fun said => (request.coord, said.2) := by
  obtain ⟨⟨carried, state, acts⟩, last, read, continued, rfl⟩ := Effect.bind_eq_ok_iff.mp ran
  obtain rfl := carryingClient_state read
  obtain ⟨middle, _, written, returned, rfl⟩ := Effect.bind_eq_ok_iff.mp continued
  cases returned
  obtain ⟨_, _, queried, ended, rfl⟩ := Effect.bind_eq_ok_iff.mp written
  cases queried
  cases ended
  obtain ⟨reached, _, moved⟩ : (Statement.moveTaxi request.taxiId request.coord).Runs now server.db :=
    Statement.runs_updateTaxi fun _ => ⟨rfl, rfl⟩
  obtain ⟨tables, rfl⟩ := Statement.update_eq_ok_iff.mp moved
  simp only [DbConnectionHandler.query_executed executed moved]
  refine @DbConnectionHandler.moreResults_maintains
    (fun db => db.standingOf request.taxiId =
      (server.db.standingOf request.taxiId).map fun said => (request.coord, said.2)) _ _ _ _ ?_ ?_
  · intro statement member
    rw [Option.mem_toList, Option.map_eq_some_iff] at member
    obtain ⟨customer, _, rfl⟩ := member
    exact Statement.maintains_quoting fun _ => update_maintains_standing fun _ _ => rfl
  · simp [tables, Tables.standingOf_moveTaxi]

/-- After a handler which ends and which agrees with what the row is to say, the row still says
it. -/
theorem standing_of_ends {Value : Type} {handler : Handler Value} {said : Coordinate × Bool}
    {ended : Outcome KafkaServer Act Value}
    (maintains : Maintains (fun db _ => db.standingOf taxi = some said) (Answered request subject)
      handler)
    (holds : server.db.standingOf taxi = some said) (ran : handler server = .ok ended) :
    ended.state.db.standingOf taxi = some said := by
  have stays := maintains server holds
  simp only [Effect.Stays, ran] at stays
  exact stays.1

/-- A report whose `UPDATE` is executed is written to the row of its taxi. -/
theorem process_report (accepted : accepted? session request = some subject)
    (reports : Reports subject) (executed : server.outages.tail.head? ≠ some true)
    (ran : process now session request server = .ok outcome) {said : Coordinate × Bool}
    (stored : server.db.standingOf request.taxiId = some said) :
    outcome.state.db.standingOf request.taxiId = some (request.coord, said.2) := by
  have keeps : Keeps request subject
      (fun db _ => db.standingOf request.taxiId = some (request.coord, said.2)) (fun _ => True)
      (Answered request subject) := by
    refine standing_keeps fun _ standing same => ?_
    obtain rfl := Option.mem_some_iff.mp same
    refine ⟨fun _ => rfl, fun stop orders => ?_⟩
    obtain rfl | rfl := reports <;> cases orders
  have written {position : Outcome KafkaServer Act (Option Id)}
      (reported : reportPosition now request server = .ok position) :
      position.state.db.standingOf request.taxiId = some (request.coord, said.2) := by
    rw [reportPosition_standing executed reported, stored]
    rfl
  simp only [process, accepted] at ran
  obtain ⟨_, rest, recorded, continued, rfl⟩ := Effect.bind_eq_ok_iff.mp ran
  obtain rfl := Effect.record_eq_ok_iff.mp recorded
  obtain ⟨handled, last, treated, refreshed, rfl⟩ := Effect.bind_eq_ok_iff.mp continued
  have after : last.state.db = handled.state.db := by
    cases refresh : handled.value with
    | true =>
        rw [refresh, if_pos rfl] at refreshed
        exact refreshMap_db refreshed
    | false =>
        rw [refresh] at refreshed
        cases refreshed
        rfl
  rw [after]
  obtain rfl | rfl := reports
  · obtain ⟨_, _, moved, returned, rfl⟩ := Effect.bind_eq_ok_iff.mp treated
    cases returned
    obtain ⟨_, _, reported, returned, rfl⟩ := Effect.bind_eq_ok_iff.mp moved
    cases returned
    exact written reported
  · obtain ⟨_, _, reached, returned, rfl⟩ := Effect.bind_eq_ok_iff.mp treated
    cases returned
    obtain ⟨position, _, reported, served, rfl⟩ := Effect.bind_eq_ok_iff.mp reached
    cases carried : position.value with
    | none =>
        rw [carried] at served
        have kept := standing_of_ends (pickUp_maintains keeps) (written reported) served
        exact kept
    | some customer =>
        rw [carried] at served
        have kept := standing_of_ends (completeService_maintains keeps) (written reported) served
        exact kept

/-- An order to stop or to go on whose `UPDATE` is executed is written to the row of its taxi, and
the taxi is told. -/
theorem process_stop {stop : Bool} (accepted : accepted? session request = some subject)
    (orders : stop? subject = some stop) (executed : server.outages.head? ≠ some true) :
    ∃ outcome, process now session request server = .ok outcome ∧
      outcome.state.db.standingOf request.taxiId =
        (server.db.standingOf request.taxiId).map (fun said => (said.1, stop)) ∧
      ∃ answer, .produce answer ∈ outcome.acts ∧ answer.taxiId = request.taxiId ∧
        answer.subject = .response (if stop then .taxiStop else .taxiContinue) := by
  let statement : Statement := .setStopped request.taxiId stop
  let answer := DbConnectionHandler.query now [statement] server.outages server.db
  let told : Message :=
    { server.response with
      taxiId := request.taxiId
      subject := .response (if stop then .taxiStop else .taxiContinue) }
  have handled : handle now session subject request server = .ok
      ⟨true, ⟨answer.db, answer.outages, told⟩, answer.failures.map .failed ++ [.produce told]⟩ := by
    cases subject <;> cases orders <;>
      simp [handle, onTaxiStop, onTaxiContinue, updateAndRespond, run, query, setResponse, respond,
        produce, Effect.bind_eq_ok_iff, answer, told, statement]
  obtain ⟨outcome, ran, same, acts⟩ := process_of_handle accepted handled
  refine ⟨outcome, ran, ?_, told, acts _ (by simp), rfl, rfl⟩
  have stored : outcome.state.db.toTables =
      server.db.toTables.setStopped now request.taxiId stop := by
    rw [same]
    exact DbConnectionHandler.query_updateTaxi executed fun _ => ⟨rfl, rfl⟩
  rw [stored, Tables.standingOf_setStopped, if_pos rfl]

end KafkaServer

end EasyCab
