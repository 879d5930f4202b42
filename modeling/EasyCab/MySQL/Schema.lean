import EasyCab.Common.Protocols
import EasyCab.Library.Table

/-!
# The database of `initialize.sql`

The three tables which the components share. A `Db` carries the proof of its
foreign keys and every table the proof of its primary key, so a database which
MySQL would not store cannot be built: a statement computes candidate `Tables`,
and `Tables.commit` stores them or reports the violated constraint. Columns which
no statement ever sets to `NULL` are plain values. A table without `ORDER BY` is
read in the order of its primary key, as its clustered index stores it.
-/

namespace EasyCab

open Library

/-- A `TIMESTAMP`, in seconds. -/
abbrev Timestamp := Nat

/-- A row of `locations`. -/
structure LocationRow where
  id : Id
  x : Int32
  y : Int32
deriving DecidableEq

/-- A row of `customers`. -/
structure CustomerRow where
  id : Id
  x : Int32
  y : Int32
  destination : Option Id
  nextRequest : Int32
  onboard : Bool
  inQueue : Option Timestamp
  lastUpdate : Timestamp
deriving DecidableEq

/-- A row of `taxis`. -/
structure TaxiRow where
  id : TaxiId
  x : Int32
  y : Int32
  destX : Option Int32
  destY : Option Int32
  customerId : Option Id
  service : Option Id
  connected : Bool
  ready : Bool
  stopped : Bool
  waitTime : Int32
  lastUpdate : Timestamp
deriving DecidableEq

/-- The position of a location. -/
def LocationRow.coord (row : LocationRow) : Coordinate := ⟨row.x, row.y⟩

/-- The position of a customer. -/
def CustomerRow.coord (row : CustomerRow) : Coordinate := ⟨row.x, row.y⟩

/-- The position of a taxi. -/
def TaxiRow.coord (row : TaxiRow) : Coordinate := ⟨row.x, row.y⟩

/-- The columns an `INSERT INTO customers (id, x, y)` leaves at their defaults. -/
def CustomerRow.inserted (now : Timestamp) (id : Id) (coord : Coordinate) : CustomerRow where
  id := id
  x := coord.x
  y := coord.y
  destination := none
  nextRequest := 0
  onboard := false
  inQueue := none
  lastUpdate := now

/-- The columns an `INSERT INTO taxis (id)` leaves at their defaults. -/
def TaxiRow.inserted (now : Timestamp) (id : TaxiId) : TaxiRow where
  id := id
  x := 0
  y := 0
  destX := none
  destY := none
  customerId := none
  service := none
  connected := true
  ready := false
  stopped := false
  waitTime := 0
  lastUpdate := now

/-! ### Row updates

`last_update` is declared `ON UPDATE CURRENT_TIMESTAMP`: it moves when an update
changes the value of some column. -/

/-- An update of a customer row, with its `ON UPDATE` column. -/
def CustomerRow.stamped (now : Timestamp) (update : CustomerRow → CustomerRow)
    (row : CustomerRow) : CustomerRow :=
  if update row = row then row else { update row with lastUpdate := now }

/-- An update of a taxi row, with its `ON UPDATE` column. -/
def TaxiRow.stamped (now : Timestamp) (update : TaxiRow → TaxiRow) (row : TaxiRow) : TaxiRow :=
  if update row = row then row else { update row with lastUpdate := now }

/-- A customer column other than `last_update` reads what the update wrote. -/
theorem CustomerRow.column_stamped {Column : Type} (column : CustomerRow → Column)
    (blind : ∀ row time, column { row with lastUpdate := time } = column row)
    (now : Timestamp) (update : CustomerRow → CustomerRow) (row : CustomerRow) :
    column (row.stamped now update) = column (update row) := by
  unfold stamped
  split
  · next unchanged => rw [unchanged]
  · exact blind _ _

/-- A taxi column other than `last_update` reads what the update wrote. -/
theorem TaxiRow.column_stamped {Column : Type} (column : TaxiRow → Column)
    (blind : ∀ row time, column { row with lastUpdate := time } = column row)
    (now : Timestamp) (update : TaxiRow → TaxiRow) (row : TaxiRow) :
    column (row.stamped now update) = column (update row) := by
  unfold stamped
  split
  · next unchanged => rw [unchanged]
  · exact blind _ _

section Stamped

variable (now : Timestamp)

@[simp] theorem CustomerRow.stamped_id (update : CustomerRow → CustomerRow) (row : CustomerRow) :
    (row.stamped now update).id = (update row).id :=
  column_stamped (·.id) (fun _ _ => rfl) now update row

@[simp] theorem CustomerRow.stamped_x (update : CustomerRow → CustomerRow) (row : CustomerRow) :
    (row.stamped now update).x = (update row).x :=
  column_stamped (·.x) (fun _ _ => rfl) now update row

@[simp] theorem CustomerRow.stamped_y (update : CustomerRow → CustomerRow) (row : CustomerRow) :
    (row.stamped now update).y = (update row).y :=
  column_stamped (·.y) (fun _ _ => rfl) now update row

@[simp] theorem CustomerRow.stamped_coord (update : CustomerRow → CustomerRow)
    (row : CustomerRow) : (row.stamped now update).coord = (update row).coord :=
  column_stamped coord (fun _ _ => rfl) now update row

@[simp] theorem CustomerRow.stamped_destination (update : CustomerRow → CustomerRow)
    (row : CustomerRow) : (row.stamped now update).destination = (update row).destination :=
  column_stamped (·.destination) (fun _ _ => rfl) now update row

@[simp] theorem CustomerRow.stamped_onboard (update : CustomerRow → CustomerRow)
    (row : CustomerRow) : (row.stamped now update).onboard = (update row).onboard :=
  column_stamped (·.onboard) (fun _ _ => rfl) now update row

@[simp] theorem CustomerRow.stamped_inQueue (update : CustomerRow → CustomerRow)
    (row : CustomerRow) : (row.stamped now update).inQueue = (update row).inQueue :=
  column_stamped (·.inQueue) (fun _ _ => rfl) now update row

@[simp] theorem TaxiRow.stamped_id (update : TaxiRow → TaxiRow) (row : TaxiRow) :
    (row.stamped now update).id = (update row).id :=
  column_stamped (·.id) (fun _ _ => rfl) now update row

@[simp] theorem TaxiRow.stamped_coord (update : TaxiRow → TaxiRow) (row : TaxiRow) :
    (row.stamped now update).coord = (update row).coord :=
  column_stamped coord (fun _ _ => rfl) now update row

@[simp] theorem TaxiRow.stamped_destX (update : TaxiRow → TaxiRow) (row : TaxiRow) :
    (row.stamped now update).destX = (update row).destX :=
  column_stamped (·.destX) (fun _ _ => rfl) now update row

@[simp] theorem TaxiRow.stamped_destY (update : TaxiRow → TaxiRow) (row : TaxiRow) :
    (row.stamped now update).destY = (update row).destY :=
  column_stamped (·.destY) (fun _ _ => rfl) now update row

@[simp] theorem TaxiRow.stamped_customerId (update : TaxiRow → TaxiRow) (row : TaxiRow) :
    (row.stamped now update).customerId = (update row).customerId :=
  column_stamped (·.customerId) (fun _ _ => rfl) now update row

@[simp] theorem TaxiRow.stamped_service (update : TaxiRow → TaxiRow) (row : TaxiRow) :
    (row.stamped now update).service = (update row).service :=
  column_stamped (·.service) (fun _ _ => rfl) now update row

@[simp] theorem TaxiRow.stamped_connected (update : TaxiRow → TaxiRow) (row : TaxiRow) :
    (row.stamped now update).connected = (update row).connected :=
  column_stamped (·.connected) (fun _ _ => rfl) now update row

@[simp] theorem TaxiRow.stamped_ready (update : TaxiRow → TaxiRow) (row : TaxiRow) :
    (row.stamped now update).ready = (update row).ready :=
  column_stamped (·.ready) (fun _ _ => rfl) now update row

@[simp] theorem TaxiRow.stamped_waitTime (update : TaxiRow → TaxiRow) (row : TaxiRow) :
    (row.stamped now update).waitTime = (update row).waitTime :=
  column_stamped (·.waitTime) (fun _ _ => rfl) now update row

end Stamped

/-! ### Tables and constraints -/

/-- The three tables, each with its primary key. -/
structure Tables where
  locations : Table LocationRow.id
  customers : Table CustomerRow.id
  taxis : Table TaxiRow.id

/-- The foreign keys `fk_destination`, `fk_customer_id` and `fk_service`. The last one
is declared on `locations`, although the column is described as a service. -/
structure Tables.ForeignKeys (tables : Tables) : Prop where
  destination : ∀ row ∈ tables.customers.rows, ∀ id ∈ row.destination,
    (tables.locations.lookup id).isSome
  customerId : ∀ row ∈ tables.taxis.rows, ∀ id ∈ row.customerId,
    (tables.customers.lookup id).isSome
  service : ∀ row ∈ tables.taxis.rows, ∀ id ∈ row.service,
    (tables.locations.lookup id).isSome

instance (tables : Tables) : Decidable tables.ForeignKeys :=
  decidable_of_iff
    ((∀ row ∈ tables.customers.rows, ∀ id ∈ row.destination,
        (tables.locations.lookup id).isSome) ∧
      (∀ row ∈ tables.taxis.rows, ∀ id ∈ row.customerId,
        (tables.customers.lookup id).isSome) ∧
      ∀ row ∈ tables.taxis.rows, ∀ id ∈ row.service, (tables.locations.lookup id).isSome)
    ⟨fun ⟨destination, customerId, service⟩ => ⟨destination, customerId, service⟩,
      fun keys => ⟨keys.destination, keys.customerId, keys.service⟩⟩

/-- A database: tables whose foreign keys hold. -/
structure Db extends Tables where
  foreignKeys : toTables.ForeignKeys

/-- Why a statement fails. -/
inductive SqlError where
  /-- The text of the statement is not SQL. -/
  | malformed
  /-- A primary key is already taken. -/
  | duplicateKey
  /-- A foreign key would be violated. -/
  | foreignKey
  /-- The server failed for a reason outside the tables. -/
  | unavailable
deriving DecidableEq

/-- Store candidate tables, or report the foreign key they violate. -/
def Tables.commit (tables : Tables) : Except SqlError Db :=
  if keys : tables.ForeignKeys then .ok ⟨tables, keys⟩ else .error .foreignKey

/-- Tables are stored exactly as they were proposed. -/
theorem Tables.commit_eq_ok_iff {tables : Tables} {db : Db} :
    tables.commit = .ok db ↔ db.toTables = tables := by
  unfold commit
  constructor
  · intro stored
    split at stored
    · cases stored
      rfl
    · cases stored
  · rintro rfl
    rw [dif_pos db.foreignKeys]

/-- Tables are refused exactly when a foreign key fails. -/
theorem Tables.commit_eq_error_iff {tables : Tables} {error : SqlError} :
    tables.commit = .error error ↔ error = .foreignKey ∧ ¬ tables.ForeignKeys := by
  unfold commit
  split
  · next keys => simp [keys]
  · next broken => simp [broken, eq_comm]

/-- A database with these locations and no customer and no taxi, as `Reset_DB` and
`readFile` leave it. -/
def Db.initial (locations : Table LocationRow.id) : Db where
  locations := locations
  customers := .empty
  taxis := .empty
  foreignKeys := ⟨by simp, by simp, by simp⟩

namespace Tables

/-! ### Updates by key -/

/-- `UPDATE customers SET … WHERE id = '{id}'`. -/
def updateCustomer (tables : Tables) (now : Timestamp) (id : Id)
    (update : CustomerRow → CustomerRow)
    (keeps : ∀ row, (update row).id = row.id := by intro _; rfl) : Tables :=
  { tables with
    customers := tables.customers.modify id (CustomerRow.stamped now update)
      fun row => by rw [CustomerRow.stamped_id, keeps] }

/-- `UPDATE taxis SET … WHERE id = {id}`. -/
def updateTaxi (tables : Tables) (now : Timestamp) (id : TaxiId) (update : TaxiRow → TaxiRow)
    (keeps : ∀ row, (update row).id = row.id := by intro _; rfl) : Tables :=
  { tables with
    taxis := tables.taxis.modify id (TaxiRow.stamped now update)
      fun row => by rw [TaxiRow.stamped_id, keeps] }

/-- An update of a taxi violates no foreign key if what it refers to afterwards is stored. -/
theorem ForeignKeys.updateTaxi_of {tables : Tables} (keys : tables.ForeignKeys) {now : Timestamp}
    {id : TaxiId} {update : TaxiRow → TaxiRow} {keeps : ∀ row, (update row).id = row.id}
    (carried : ∀ row ∈ tables.taxis.rows, ∀ customer ∈ (update row).customerId,
      (tables.customers.lookup customer).isSome)
    (served : ∀ row ∈ tables.taxis.rows, ∀ location ∈ (update row).service,
      (tables.locations.lookup location).isSome) :
    (tables.updateTaxi now id update keeps).ForeignKeys := by
  refine ⟨keys.destination, ?_, ?_⟩
  · intro row member customer names
    obtain ⟨old, stored, rfl⟩ := List.mem_map.mp member
    by_cases same : old.id = id
    · exact carried old stored customer (by simpa [same] using names)
    · exact keys.customerId old stored customer (by simpa [same] using names)
  · intro row member location names
    obtain ⟨old, stored, rfl⟩ := List.mem_map.mp member
    by_cases same : old.id = id
    · exact served old stored location (by simpa [same] using names)
    · exact keys.service old stored location (by simpa [same] using names)

/-- An update of a taxi which leaves its references alone violates no foreign key. -/
theorem ForeignKeys.updateTaxi {tables : Tables} (keys : tables.ForeignKeys) (now : Timestamp)
    (id : TaxiId) (update : TaxiRow → TaxiRow) (keeps : ∀ row, (update row).id = row.id)
    (kept : ∀ row, (update row).customerId = row.customerId ∧ (update row).service = row.service) :
    (tables.updateTaxi now id update keeps).ForeignKeys := by
  apply keys.updateTaxi_of
  · intro row stored customer names
    exact keys.customerId row stored customer ((kept row).1 ▸ names)
  · intro row stored location names
    exact keys.service row stored location ((kept row).2 ▸ names)

/-- An update of a customer which leaves its destination alone violates no foreign key. -/
theorem ForeignKeys.updateCustomer {tables : Tables} (keys : tables.ForeignKeys) {now : Timestamp}
    {id : Id} {update : CustomerRow → CustomerRow} {keeps : ∀ row, (update row).id = row.id}
    (kept : ∀ row, (update row).destination = row.destination) :
    (tables.updateCustomer now id update keeps).ForeignKeys := by
  refine ⟨?_, ?_, keys.service⟩
  · intro row member location names
    obtain ⟨old, stored, rfl⟩ := List.mem_map.mp member
    apply keys.destination old stored location
    by_cases same : old.id = id <;> simpa [same, kept] using names
  · intro row member customer carried
    have stored := keys.customerId row member customer carried
    simpa [Tables.updateCustomer, apply_ite Option.isSome] using stored

/-! ### Columns by key -/

/-- The customer a taxi carries. -/
def customerIdOf (tables : Tables) (taxi : TaxiId) : Option Id :=
  (tables.taxis.lookup taxi).bind (·.customerId)

/-- The `service` of a taxi. -/
def serviceOf (tables : Tables) (taxi : TaxiId) : Option Id :=
  (tables.taxis.lookup taxi).bind (·.service)

/-- The stored position of a taxi. -/
def taxiCoord (tables : Tables) (taxi : TaxiId) : Option Coordinate :=
  (tables.taxis.lookup taxi).map (·.coord)

/-- The stored position of a customer. -/
def customerCoord (tables : Tables) (customer : Id) : Option Coordinate :=
  (tables.customers.lookup customer).map (·.coord)

/-- The stored position of a location. -/
def locationCoord (tables : Tables) (location : Id) : Option Coordinate :=
  (tables.locations.lookup location).map (·.coord)

end Tables

end EasyCab
