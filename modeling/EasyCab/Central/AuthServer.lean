import EasyCab.Central.Statements

/-!
# The authentication server of Central

The two queries of `AuthServer.cpp` for a petition of a taxi. Each of them runs
under `mtx_db` and is one atomic step; nothing is locked between them.
-/

namespace EasyCab

open Library

namespace AuthServer

/-- `checkId`: `none` refuses the taxi, otherwise the answer is `reconnect`. -/
def checkId (now : Timestamp) (taxiId : TaxiId) (outages : List Bool) (db : Db) : Option Bool :=
  match (DbConnectionHandler.query now [.selectConnected taxiId] outages db).value with
  | .error _ => none
  | .ok results =>
      match results.getRow.1 with
      | [] => some false
      | connected :: _ => if connected = .int 0 then some true else none

/-- The message `addTaxi` puts on `requests`. -/
def announcement (session : Uuid) (taxiId : TaxiId) (reconnect : Bool) : Message :=
  { Message.request session.1 (if reconnect then .taxiReconnected else .newTaxi) with
    taxiId := taxiId }

/-- The query of `addTaxi`. -/
def addTaxiStatement (taxiId : TaxiId) (reconnect : Bool) : Statement :=
  if reconnect then .setConnected taxiId true else .insertTaxi taxiId

/-- `addTaxi`: the value is the message it produced, if its query succeeded. -/
def addTaxi (now : Timestamp) (session : Uuid) (taxiId : TaxiId) (reconnect : Bool)
    (outages : List Bool) (db : Db) : Answer (Option Message) :=
  let answer := DbConnectionHandler.query now [addTaxiStatement taxiId reconnect] outages db
  { answer with
    value :=
      match answer.value with
      | .error _ => none
      | .ok _ => some (announcement session taxiId reconnect) }

variable {now : Timestamp} {session : Uuid} {taxiId : TaxiId} {outages : List Bool} {db : Db}

/-- The tables after a query of `addTaxi` which succeeded. -/
def addedTables (now : Timestamp) (taxiId : TaxiId) (reconnect : Bool) (tables : Tables) :
    Option Tables :=
  if reconnect then some (tables.setConnected now taxiId true) else tables.insertTaxi now taxiId

/-- A query of `addTaxi` in which nothing fails stores the taxi and announces it. -/
theorem addTaxi_clean {reconnect : Bool}
    (clean : (addTaxi now session taxiId reconnect outages db).failures = []) :
    addedTables now taxiId reconnect db.toTables =
        some (addTaxi now session taxiId reconnect outages db).db.toTables ∧
      (addTaxi now session taxiId reconnect outages db).value =
        some (announcement session taxiId reconnect) := by
  obtain ⟨last, results, all, answered⟩ := DbConnectionHandler.query_clean clean
  simp only [DbConnectionHandler.runAll_cons, DbConnectionHandler.runAll_nil] at all
  obtain ⟨next, rows, _, ran, ⟨rfl, _⟩, _⟩ := all
  simp only [addTaxi, answered, and_true]
  cases reconnect with
  | true =>
      simp only [addTaxiStatement, if_true, Statement.setConnected,
        Statement.update_eq_ok_iff] at ran
      rw [addedTables, if_pos rfl, ran.1]
  | false =>
      simp only [addTaxiStatement, Bool.false_eq_true, if_false, Statement.insertTaxi,
        Statement.insert_eq_ok_iff] at ran
      exact ran.1

/-- A registration changes no column of a stored taxi but `connected` and `last_update`. -/
theorem addTaxi_taxiColumn {Column : Type} {column : TaxiRow → Column} {value : Column}
    {reconnect : Bool} {other : TaxiId}
    (blind : ∀ row time, column { row with lastUpdate := time } = column row)
    (kept : ∀ row connected, column { row with connected := connected } = column row)
    (stored : db.taxiColumn column other = some value) :
    (addTaxi now session taxiId reconnect outages db).db.taxiColumn column other = some value := by
  have maintains : (addTaxiStatement taxiId reconnect).Maintains
      fun db => db.taxiColumn column other = some value := by
    cases reconnect with
    | true =>
        refine Statement.maintains_update fun now db next updated holds => ?_
        rw [updated, Tables.setConnected, Tables.taxiColumn_updateTaxi_kept blind fun row => kept row _,
          holds]
    | false =>
        refine Statement.maintains_insert fun now db next inserted holds => ?_
        rw [Tables.taxiColumn_insertTaxi inserted]
        by_cases same : other = taxiId
        · obtain ⟨taxis, added, _⟩ := Option.map_eq_some_iff.mp inserted
          have free : db.taxis.lookup other = none := same ▸ Table.lookup_of_insert? added
          simp [Tables.taxiColumn, free] at holds
        · rw [if_neg same, holds]
  exact DbConnectionHandler.query_maintains (List.forall_mem_singleton.mpr maintains) stored

end AuthServer

end EasyCab
