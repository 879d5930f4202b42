import EasyCab.Central.Issued

/-!
# The columns of a taxi under a request

`Updated` lists what the statements of a request write to the row of its taxi. Besides these, only
`assign` writes to the row of a taxi, its destination and its service. So what is true of any other
column of a stored taxi stays true if the listed updates keep it, whatever queries fail.
-/

namespace EasyCab

open Library

namespace KafkaServer

/-- What a request writes to the row of its taxi. -/
inductive Updated (request : Message) : SubjRequest → (TaxiRow → TaxiRow) → Prop where
  | disconnected : Updated request .orderTaxiDisconnect fun row => { row with connected := false }
  | pinged (now : Timestamp) : Updated request .taxiPing fun row => { row with lastUpdate := now }
  | moved {subject : SubjRequest} (reports : Reports subject) :
      Updated request subject fun row => { row with x := request.coord.x, y := request.coord.y }
  | carried {subject : SubjRequest} (customer : Option Id) :
      Updated request subject fun row => { row with customerId := customer }
  | readied {subject : SubjRequest} {ready : Bool} (readies : ready? subject = some ready) :
      Updated request subject fun row => { row with ready := ready }
  | waited : Updated request .taxiUpdateWaitTime fun row =>
      { row with waitTime := request.intFromData, ready := decide (request.intFromData = 0) }
  | redirected {subject : SubjRequest} {coord : Coordinate}
      (ordered : Ordered request subject coord) :
      Updated request subject fun row =>
        { row with destX := some coord.x, destY := some coord.y, customerId := none }
  | stopped {subject : SubjRequest} {stop : Bool} (orders : stop? subject = some stop) :
      Updated request subject fun row => { row with stopped := stop }

section Columns

variable {Column : Type} {column : TaxiRow → Column} {Inv : Option Column → Prop}
  {request : Message} {subject : SubjRequest} {taxi : TaxiId}

/-- An update of a taxi keeps what is true of a column, if it does so in the row of the taxi. -/
theorem updateTaxi_maintains_column {other : TaxiId} {update : Timestamp → TaxiRow → TaxiRow}
    {keeps : ∀ now row, (update now row).id = row.id}
    (blind : ∀ row time, column { row with lastUpdate := time } = column row)
    (kept : other = taxi → ∀ now row, Inv (some (column row)) → Inv (some (column (update now row)))) :
    (Statement.update fun now tables =>
        tables.updateTaxi now other (update now) (keeps now)).Maintains
      fun db => Inv (db.taxiColumn column taxi) := by
  refine Statement.maintains_update fun now db next stored holds => ?_
  simp only [stored, Tables.taxiColumn, Tables.updateTaxi, Table.lookup_modify]
  by_cases same : taxi = other
  · rw [if_pos same, Option.map_map]
    unfold Tables.taxiColumn at holds
    cases found : db.taxis.lookup taxi with
    | none => rwa [found] at holds
    | some row =>
        rw [found] at holds
        have written := kept same.symm now row holds
        rwa [← TaxiRow.column_stamped column blind now] at written
  · rwa [if_neg same]

/-- A statement of a request keeps what is true of a column of a taxi, if the updates of its own
taxi do. -/
theorem Issued.maintains_column
    (blind : ∀ row time, column { row with lastUpdate := time } = column row)
    (unassigned : ∀ row destX destY service,
      column { row with destX := destX, destY := destY, service := service } = column row)
    (updated : ∀ update, Updated request subject update → request.taxiId = taxi →
      ∀ row, Inv (some (column row)) → Inv (some (column (update row))))
    {statement : Statement} (issued : Issued request subject statement) :
    statement.Maintains fun db => Inv (db.taxiColumn column taxi) := by
  cases issued with
  | reads rows => exact Statement.maintains_select rows
  | readsQuoted chars rows =>
      exact Statement.maintains_quoting fun _ => Statement.maintains_select rows
  | inserted =>
      refine Statement.maintains_quoting fun _ =>
        Statement.maintains_insert fun now db next stored holds => ?_
      obtain ⟨customers, _, same⟩ := Option.map_eq_some_iff.mp stored
      rwa [← same]
  | assigned other customer =>
      refine Statement.maintains_quoting fun _ =>
        Statement.maintains_update fun now db next stored holds => ?_
      rw [stored, Tables.assignTaxi]
      cases db.customers.lookup customer with
      | none => exact holds
      | some found => rwa [Tables.taxiColumn_updateTaxi_kept blind fun row => unassigned row _ _ _]
  | disconnected =>
      exact updateTaxi_maintains_column blind fun same _ => updated _ .disconnected same
  | pingedTaxi =>
      exact updateTaxi_maintains_column blind fun same now => updated _ (.pinged now) same
  | moved reports =>
      exact updateTaxi_maintains_column blind fun same _ => updated _ (.moved reports) same
  | readied readies =>
      exact updateTaxi_maintains_column blind fun same _ => updated _ (.readied readies) same
  | waited => exact updateTaxi_maintains_column blind fun same _ => updated _ .waited same
  | redirected ordered =>
      exact updateTaxi_maintains_column blind fun same _ => updated _ (.redirected ordered) same
  | stopped orders =>
      exact updateTaxi_maintains_column blind fun same _ => updated _ (.stopped orders) same
  | carried customer =>
      exact Statement.maintains_quoting fun _ =>
        updateTaxi_maintains_column blind fun same _ => updated _ (.carried customer) same
  | landed =>
      refine Statement.maintains_update fun now db next stored holds => ?_
      rw [stored, Tables.landNamesake]
      cases Tables.charOfTaxiId? request.taxiId <;> exact holds
  | deleted | pingedCustomer | movedCustomer | flagged | enqueued | destined | nextRequested
  | movedLocation | prioritized =>
      refine Statement.maintains_quoting fun _ =>
        Statement.maintains_update fun now db next stored holds => ?_
      rw [stored]
      exact holds

end Columns

end KafkaServer

end EasyCab
