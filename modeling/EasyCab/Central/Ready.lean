import EasyCab.Central.WaitTime
import EasyCab.De.Turns

/-!
# Ready and waiting

`ready` and `wait_time` describe one condition: a taxi is ready when it has nothing left
to wait. `TAXI_UPDATE_WAIT_TIME` writes both columns and keeps them together, `TAXI_NOT_READY`
clears the flag, but `TAXI_READY` sets the flag and leaves the waiting time of an earlier
connection of the sensor where it is. `ready_settled_iff` says that nothing else breaks the
condition.
-/

namespace EasyCab

open Library

/-- A taxi which is ready has nothing left to wait. -/
def Tables.Settled (tables : Tables) : Prop :=
  ∀ taxi row, tables.taxis.lookup taxi = some row → row.ready = true → row.waitTime = 0

/-- The taxi, if it is stored, has nothing left to wait. -/
def Tables.NothingToWait (tables : Tables) (taxi : TaxiId) : Prop :=
  ∀ row ∈ tables.taxis.lookup taxi, row.waitTime = 0

instance (tables : Tables) (taxi : TaxiId) : Decidable (tables.NothingToWait taxi) :=
  inferInstanceAs (Decidable (∀ row ∈ tables.taxis.lookup taxi, row.waitTime = 0))

namespace Tables

variable {tables : Tables} {now : Timestamp} {taxi : TaxiId}

/-- The two columns of a taxi do not say both that it waits and that it is ready. -/
def NotBoth (waiting : Option (Int32 × Bool)) : Prop :=
  ∀ columns ∈ waiting, columns.2 = true → columns.1 = 0

theorem notBoth_some {row : TaxiRow} :
    NotBoth (some row.waiting) ↔ (row.ready = true → row.waitTime = 0) := by
  simp [NotBoth, TaxiRow.waiting]

/-- Settled tables are those in which no row says both. -/
theorem settled_iff : tables.Settled ↔ ∀ taxi, NotBoth (tables.taxiColumn TaxiRow.waiting taxi) := by
  constructor
  · intro settled taxi columns said
    obtain ⟨row, found, rfl⟩ := Option.map_eq_some_iff.mp (Option.mem_def.mp said)
    exact settled taxi row found
  · intro notBoth taxi row found
    exact notBoth taxi row.waiting (Option.map_eq_some_iff.mpr ⟨row, found, rfl⟩)

/-- An update of a taxi is fine where it leaves its row settled. -/
theorem Settled.updateTaxi {update : TaxiRow → TaxiRow} {keeps : ∀ row, (update row).id = row.id}
    (settled : tables.Settled)
    (kept : ∀ row, tables.taxis.lookup taxi = some row → (row.ready = true → row.waitTime = 0) →
      (update row).ready = true → (update row).waitTime = 0) :
    (tables.updateTaxi now taxi update keeps).Settled := by
  intro other row found ready
  simp only [Tables.updateTaxi, Table.lookup_modify] at found
  by_cases same : other = taxi
  · subst same
    rw [if_pos rfl] at found
    obtain ⟨old, stored, rfl⟩ := Option.map_eq_some_iff.mp found
    rw [TaxiRow.stamped_ready] at ready
    rw [TaxiRow.stamped_waitTime]
    exact kept old stored (settled other old stored) ready
  · rw [if_neg same] at found
    exact settled other row found ready

/-- A new row is not ready. -/
theorem Settled.insertTaxi {next : Tables} (settled : tables.Settled)
    (added : tables.insertTaxi now taxi = some next) : next.Settled := by
  rw [settled_iff] at settled ⊢
  intro other
  rw [taxiColumn_insertTaxi added]
  by_cases same : other = taxi
  · rw [if_pos same, notBoth_some]
    rintro ⟨⟩
  · rw [if_neg same]
    exact settled other

/-- After `TAXI_READY` the tables are settled exactly when its taxi had nothing left to wait. -/
theorem settled_setReady_iff (settled : tables.Settled) :
    (tables.setReady now taxi true).Settled ↔ tables.NothingToWait taxi := by
  constructor
  · intro after row stored
    have found : (tables.setReady now taxi true).taxis.lookup taxi =
        some (row.stamped now fun row => { row with ready := true }) := by
      simp [setReady, Tables.updateTaxi, Option.mem_def.mp stored]
    simpa using after taxi _ found (by simp)
  · exact fun nothing => settled.updateTaxi fun row stored _ _ => nothing row stored

end Tables

namespace KafkaServer

variable {now : Timestamp} {session : Uuid} {server : KafkaServer} {request : Message}
  {subject : SubjRequest} {outcome : Outcome KafkaServer Act Unit}

/-- An update of a taxi which writes neither column keeps the tables settled. -/
theorem settled_updateTaxi_kept {tables : Tables} {taxi : TaxiId} {update : TaxiRow → TaxiRow}
    {keeps : ∀ row, (update row).id = row.id}
    (kept : ∀ row, (update row).ready = row.ready ∧ (update row).waitTime = row.waitTime)
    (settled : tables.Settled) : (tables.updateTaxi now taxi update keeps).Settled :=
  settled.updateTaxi fun row _ before ready => by
    rw [(kept row).1] at ready
    rw [(kept row).2]
    exact before ready

/-- A statement whose update keeps the tables settled keeps the database settled. -/
theorem update_maintains_settled {effect : Timestamp → Tables → Tables}
    (kept : ∀ now tables, tables.Settled → (effect now tables).Settled) :
    (Statement.update effect).Maintains fun db => db.Settled := by
  refine Statement.maintains_update fun now db next stored settled => ?_
  rw [stored]
  exact kept now _ settled

/-- Only `TAXI_READY` sets the flag. -/
theorem taxiReady_of_ready? (readies : ready? subject = some true) : subject = .taxiReady := by
  cases subject <;> first | rfl | cases readies

/-- What a request writes to the row of its taxi keeps it settled, unless it is `TAXI_READY`. -/
theorem Updated.settled_kept {update : TaxiRow → TaxiRow} {row : TaxiRow}
    (updated : Updated request subject update) (other : subject ≠ .taxiReady)
    (settled : row.ready = true → row.waitTime = 0) :
    (update row).ready = true → (update row).waitTime = 0 := by
  cases updated with
  | @readied _ ready readies =>
      cases ready with
      | true => exact absurd (taxiReady_of_ready? readies) other
      | false => exact fun ready => by cases ready
  | waited => exact fun ready => by simpa using ready
  | _ => exact settled

/-- No statement but that of `TAXI_READY` unsettles the tables. -/
theorem Issued.maintains_settled {statement : Statement} (issued : Issued request subject statement)
    (other : subject ≠ .taxiReady) : statement.Maintains fun db => db.Settled := by
  intro now db next rows ran settled
  rw [Tables.settled_iff] at settled ⊢
  intro taxi
  refine @Issued.maintains_column _ TaxiRow.waiting Tables.NotBoth request subject taxi
    (fun _ _ => rfl) (fun _ _ _ _ => rfl) (fun update updated _ row before => ?_) statement issued
    now db next rows ran (settled taxi)
  rw [Tables.notBoth_some] at before ⊢
  exact updated.settled_kept other before

/-- A consumed `TAXI_READY` leaves what its query leaves. -/
theorem process_taxiReady (accepted : accepted? session request = some .taxiReady)
    (ran : process now session request server = .ok outcome) :
    outcome.state.db = (DbConnectionHandler.query now [.setReady request.taxiId true]
      server.outages server.db).db :=
  process_run accepted rfl ran

/-- What the query of `TAXI_READY` leaves is settled exactly when it fails or its taxi had
nothing left to wait. -/
theorem settled_query_setReady_iff {taxi : TaxiId} {outages : List Bool} {db : Db}
    (settled : db.Settled) :
    (DbConnectionHandler.query now [.setReady taxi true] outages db).db.Settled ↔
      (outages.head? ≠ some true → db.NothingToWait taxi) := by
  by_cases outage : outages.head? = some true
  · rw [DbConnectionHandler.query_one]
    simpa [outage] using settled
  · have stored : (DbConnectionHandler.query now [.setReady taxi true] outages db).db.toTables =
        db.setReady now taxi true :=
      DbConnectionHandler.query_updateTaxi outage fun _ => ⟨rfl, rfl⟩
    rw [stored, Tables.settled_setReady_iff settled]
    simp [outage]

end KafkaServer

namespace CentralStep

/-- Whenever the step executes a `TAXI_READY`, its taxi has nothing left to wait. -/
def ReadyFindsNoWait (session : Uuid) (taken : CentralStep) : Prop :=
  match taken.event with
  | .addTaxi .. => True
  | .request _ message outages =>
      KafkaServer.accepted? session message = some .taxiReady → outages.head? ≠ some true →
        taken.before.db.NothingToWait message.taxiId

instance (session : Uuid) (taken : CentralStep) : Decidable (taken.ReadyFindsNoWait session) := by
  unfold ReadyFindsNoWait
  split <;> infer_instance

variable {session : Uuid} {taken : CentralStep}

/-- From settled tables a step leaves settled tables exactly when every `TAXI_READY` that it
executes finds nothing to wait. -/
theorem settled_iff
    (stepped : (System.machine session).step taken.before taken.event = some taken.after)
    (settled : taken.before.db.Settled) :
    taken.after.db.Settled ↔ taken.ReadyFindsNoWait session := by
  obtain ⟨before, event, after⟩ := taken
  change System.step session before event = some after at stepped
  cases System.stepped_of_step stepped with
  | added now taxiId reconnect outages =>
      have kept : (AuthServer.addTaxiStatement taxiId reconnect).Maintains fun db => db.Settled := by
        cases reconnect with
        | true =>
            exact KafkaServer.update_maintains_settled fun now tables settled =>
              KafkaServer.settled_updateTaxi_kept (fun _ => ⟨rfl, rfl⟩) settled
        | false =>
            exact Statement.maintains_insert fun now db next stored settled =>
              Tables.Settled.insertTaxi settled stored
      refine iff_of_true ?_ trivial
      exact DbConnectionHandler.query_maintains (List.forall_mem_singleton.mpr kept) settled
  | @consumed now message outages outcome ran =>
      by_cases asked : KafkaServer.accepted? session message = some .taxiReady
      · have left := KafkaServer.process_taxiReady asked ran
        simp only [ReadyFindsNoWait, asked, true_imp_iff, left]
        exact KafkaServer.settled_query_setReady_iff settled
      · have kept : outcome.state.db.Settled := by
          refine @KafkaServer.process_maintains (fun db => db.Settled) now session message _ outcome
            (fun subject accepted statement issued => ?_) ran settled
          exact issued.maintains_settled fun same => asked (same ▸ accepted)
        exact iff_of_true kept fun accepted => absurd accepted asked

end CentralStep

/-- In a run of Central every state is settled exactly when every executed `TAXI_READY` finds its
taxi with nothing left to wait. -/
theorem ready_settled_iff (session : Uuid) (locations : Table LocationRow.id)
    (events : List System.Event) :
    (∀ taken ∈ (System.machine session).run (System.start locations) events,
        taken.after.db.Settled) ↔
      ∀ taken ∈ (System.machine session).run (System.start locations) events,
        CentralStep.ReadyFindsNoWait session taken := by
  have exactly (taken : CentralStep)
      (stepped : (System.machine session).step taken.before taken.event = some taken.after)
      (settled : taken.before.db.Settled) :
      taken.after.db.Settled ↔ taken.ReadyFindsNoWait session :=
    CentralStep.settled_iff stepped settled
  have empty : (System.start locations).db.Settled := by
    intro taxi row found
    cases found
  apply Machine.run_exactly (fun system => system.db.Settled) exactly _ empty
  intro taken stepped finds settled
  exact (exactly taken stepped settled).mpr finds

/-! ### A sensor that drops -/

/-- Central consumes the announcement of a new taxi and then what the taxi sends. -/
def consumption (session : Uuid) (id : TaxiId) (events : List EcDe.Event) : List System.Event :=
  .addTaxi 0 id false [] :: (AuthServer.announcement session id false ::
    ((EcDe.start id session).sentIn events).map Subtype.val).map Town.consume

/-- The sensor connects, announces a wait of five seconds, drops, and connects again. -/
def droppedSensor : List EcDe.Event :=
  [.check, .connect, .tick 0 true, .tick 5 false, .leave, .check, .connect]

/-- The taxi is ready, and four seconds of its wait are left in its row. -/
theorem ready_taxi_waits :
    ¬ ∀ (session : Uuid) (locations : Table LocationRow.id) (id : TaxiId)
        (events : List EcDe.Event),
      ∀ taken ∈ (System.machine session).run (System.start locations)
          (consumption session id events), taken.after.db.Settled := by
  intro claimed
  have last : ((System.machine Town.session).run (System.start Town.locations)
      (consumption Town.session 1 droppedSensor)).getLast?.any (fun taken =>
        (taken.after.db.taxis.lookup 1).any fun row => row.ready && row.waitTime = 4) = true := by
    decide +kernel
  obtain ⟨taken, found, waits⟩ := (Option.any_eq_true _ _).mp last
  obtain ⟨row, stored, holds⟩ := (Option.any_eq_true _ _).mp waits
  simp only [Bool.and_eq_true, decide_eq_true_eq] at holds
  have nothing := claimed Town.session Town.locations 1 droppedSensor taken
    (List.mem_of_getLast? found) 1 row stored holds.1
  rw [holds.2] at nothing
  cases nothing

end EasyCab
