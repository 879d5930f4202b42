import Mathlib.Data.List.MinMax
import EasyCab.MySQL.Query

/-!
# The statements Central issues

One definition for each SQL text of `KafkaServer.cpp` and `AuthServer.cpp`, with
the tables it computes named apart from the statement, so that proofs speak of
the tables. Every statement selects rows by primary key except the two searches,
`Tables.available` and `Tables.queueHead`.
-/

namespace EasyCab

open Library

namespace Tables

/-! ### Searches -/

/-- `wait_time < NOW() - INTERVAL 3 SECOND` compares an `INT` with a `DATETIME` as the
number `YYYYMMDDhhmmss`, which is at least the number of the first `DATETIME`. -/
def passesWait (waitTime : Int32) : Bool := waitTime.toInt < 10000101000000

/-- The first taxi that is connected, in key order. -/
def available (tables : Tables) : Option TaxiId :=
  ((tables.taxis.rows.filter fun row => row.connected && passesWait row.waitTime).head?).map (·.id)

/-- The customers in the queue. -/
def queue (tables : Tables) : List CustomerRow :=
  tables.customers.rows.filter fun row => row.inQueue.isSome

/-- The customer who entered the queue first. -/
def queueHead (tables : Tables) : Option Id :=
  ((tables.queue).argmin fun row => row.inQueue.getD 0).map (·.id)

/-- Every stored waiting time passes the availability test. -/
@[simp] theorem passesWait_eq_true (waitTime : Int32) : passesWait waitTime = true := by
  have below := waitTime.toInt_lt
  simp only [passesWait, decide_eq_true_eq]
  omega

/-! ### Updates -/

/-- The digit which is the whole decimal text of a taxi identifier, if it has one digit. -/
def charOfTaxiId? (taxi : TaxiId) : Option Id :=
  if 0 ≤ taxi.toInt ∧ taxi.toInt ≤ 9 then some (UInt8.ofNat (48 + taxi.toInt.toNat)) else none

/-- The tables after `INSERT INTO customers`. -/
def insertCustomer (now : Timestamp) (id : Id) (coord : Coordinate) (tables : Tables) :
    Option Tables :=
  (tables.customers.insert? (.inserted now id coord)).map fun customers =>
    { tables with customers := customers }

/-- The tables after `INSERT INTO taxis`. -/
def insertTaxi (now : Timestamp) (id : TaxiId) (tables : Tables) : Option Tables :=
  (tables.taxis.insert? (.inserted now id)).map fun taxis => { tables with taxis := taxis }

/-- The tables after `DELETE FROM customers`. -/
def deleteCustomer (id : Id) (tables : Tables) : Tables :=
  { tables with customers := tables.customers.erase id }

/-- The tables after `UPDATE taxis SET connected = …`. -/
def setConnected (now : Timestamp) (taxi : TaxiId) (connected : Bool) (tables : Tables) : Tables :=
  tables.updateTaxi now taxi fun row => { row with connected := connected }

/-- The tables after `UPDATE taxis SET last_update = NOW()`. -/
def pingTaxi (now : Timestamp) (taxi : TaxiId) (tables : Tables) : Tables :=
  tables.updateTaxi now taxi fun row => { row with lastUpdate := now }

/-- The tables after `UPDATE customers SET last_update = NOW()`. -/
def pingCustomer (now : Timestamp) (customer : Id) (tables : Tables) : Tables :=
  tables.updateCustomer now customer fun row => { row with lastUpdate := now }

/-- The tables after `UPDATE taxis SET x = …, y = …`. -/
def moveTaxi (now : Timestamp) (taxi : TaxiId) (coord : Coordinate) (tables : Tables) : Tables :=
  tables.updateTaxi now taxi fun row => { row with x := coord.x, y := coord.y }

/-- The tables after `UPDATE customers SET x = …, y = …`. -/
def moveCustomer (now : Timestamp) (customer : Id) (coord : Coordinate) (tables : Tables) :
    Tables :=
  tables.updateCustomer now customer fun row => { row with x := coord.x, y := coord.y }

/-- The tables after `UPDATE customers SET onboard = …`. -/
def setOnboardFlag (now : Timestamp) (customer : Id) (onboard : Bool) (tables : Tables) : Tables :=
  tables.updateCustomer now customer fun row => { row with onboard := onboard }

/-- The tables after `UPDATE taxis SET customer_id = …`. -/
def setCustomerId (now : Timestamp) (taxi : TaxiId) (customer : Option Id) (tables : Tables) :
    Tables :=
  tables.updateTaxi now taxi fun row => { row with customerId := customer }

/-- The tables after `UPDATE taxis SET ready = …`. -/
def setReady (now : Timestamp) (taxi : TaxiId) (ready : Bool) (tables : Tables) : Tables :=
  tables.updateTaxi now taxi fun row => { row with ready := ready }

/-- The tables after `UPDATE taxis SET stopped = …`. -/
def setStopped (now : Timestamp) (taxi : TaxiId) (stopped : Bool) (tables : Tables) : Tables :=
  tables.updateTaxi now taxi fun row => { row with stopped := stopped }

/-- The tables after `UPDATE taxis SET wait_time = …, ready = …`. -/
def setWaitTime (now : Timestamp) (taxi : TaxiId) (waitTime : Int32) (tables : Tables) : Tables :=
  tables.updateTaxi now taxi fun row =>
    { row with waitTime := waitTime, ready := decide (waitTime = 0) }

/-- The tables after `UPDATE taxis SET dest_x = …, dest_y = …, customer_id = NULL`. -/
def redirectTaxi (now : Timestamp) (taxi : TaxiId) (coord : Coordinate) (tables : Tables) :
    Tables :=
  tables.updateTaxi now taxi fun row =>
    { row with destX := some coord.x, destY := some coord.y, customerId := none }

/-- The tables after `UPDATE customers SET onboard = FALSE WHERE id = '{taxi}'`, which
compares a customer identifier with the decimal text of a taxi identifier. -/
def landNamesake (now : Timestamp) (taxi : TaxiId) (tables : Tables) : Tables :=
  match charOfTaxiId? taxi with
  | none => tables
  | some customer => tables.setOnboardFlag now customer false

/-- The tables after `UPDATE customers SET in_queue = …`. -/
def setInQueue (now : Timestamp) (customer : Id) (inQueue : Option Timestamp) (tables : Tables) :
    Tables :=
  tables.updateCustomer now customer fun row => { row with inQueue := inQueue }

/-- The tables after `UPDATE customers SET destination = …`. -/
def setDestination (now : Timestamp) (customer location : Id) (tables : Tables) : Tables :=
  tables.updateCustomer now customer fun row => { row with destination := some location }

/-- The tables after `UPDATE customers SET next_request = …`. -/
def setNextRequest (now : Timestamp) (customer : Id) (nextRequest : Int32) (tables : Tables) :
    Tables :=
  tables.updateCustomer now customer fun row => { row with nextRequest := nextRequest }

/-- The tables after `UPDATE locations SET x = …, y = …`. -/
def moveLocation (location : Id) (coord : Coordinate) (tables : Tables) : Tables :=
  { tables with
    locations := tables.locations.modify location fun row =>
      { row with x := coord.x, y := coord.y } }

/-- The tables after the `UPDATE taxis t JOIN customers c` of `assign`: nothing changes
unless both rows exist, and `service` takes the identifier of the customer. -/
def assignTaxi (now : Timestamp) (taxi : TaxiId) (customer : Id) (tables : Tables) : Tables :=
  match tables.customers.lookup customer with
  | none => tables
  | some found =>
      tables.updateTaxi now taxi fun row =>
        { row with destX := some found.x, destY := some found.y, service := some customer }

/-- The destination of a customer: `customers c JOIN locations l ON c.destination = l.id`. -/
def destinationOf (tables : Tables) (customer : Id) : Option Coordinate :=
  ((tables.customers.lookup customer).bind (·.destination)).bind tables.locationCoord

/-! ### Columns of a taxi -/

section TaxiColumn

variable {Column : Type}

/-- What a column of a taxi says, or some columns together, if the taxi is stored. -/
def taxiColumn (tables : Tables) (column : TaxiRow → Column) (taxi : TaxiId) : Option Column :=
  (tables.taxis.lookup taxi).map column

variable {tables : Tables} {now : Timestamp} {taxi other : TaxiId} {column : TaxiRow → Column}
  {update : TaxiRow → TaxiRow} {keeps : ∀ row, (update row).id = row.id}

/-- An update of a taxi changes what its columns say, and those of no other taxi. -/
theorem taxiColumn_updateTaxi (blind : ∀ row time, column { row with lastUpdate := time } = column row)
    (change : Column → Column) (changes : ∀ row, column (update row) = change (column row)) :
    (tables.updateTaxi now taxi update keeps).taxiColumn column other =
      if other = taxi then (tables.taxiColumn column other).map change
      else tables.taxiColumn column other := by
  simp only [taxiColumn, updateTaxi, Table.lookup_modify]
  by_cases same : other = taxi
  · simp only [if_pos same, Option.map_map]
    congr 1
    funext row
    exact (TaxiRow.column_stamped column blind now update row).trans (changes row)
  · simp only [if_neg same]

/-- An update which writes other columns changes nothing of them. -/
theorem taxiColumn_updateTaxi_kept
    (blind : ∀ row time, column { row with lastUpdate := time } = column row)
    (kept : ∀ row, column (update row) = column row) :
    (tables.updateTaxi now taxi update keeps).taxiColumn column other =
      tables.taxiColumn column other :=
  Table.map_lookup_modify column _ _ _ _ (fun row => by rw [TaxiRow.stamped_id, keeps]) fun row =>
    (TaxiRow.column_stamped column blind now update row).trans (kept row)

/-- Moving a taxi does not change whom it serves. -/
@[simp] theorem serviceOf_moveTaxi {coord : Coordinate} :
    (tables.moveTaxi now taxi coord).serviceOf other = tables.serviceOf other := by
  have kept : (tables.moveTaxi now taxi coord).taxiColumn TaxiRow.service other =
      tables.taxiColumn TaxiRow.service other :=
    taxiColumn_updateTaxi_kept (fun _ _ => rfl) fun _ => rfl
  have join (tables : Tables) :
      tables.serviceOf other = (tables.taxiColumn TaxiRow.service other).join := by
    cases found : tables.taxis.lookup other <;> simp [serviceOf, taxiColumn, found]
  rw [join, join, kept]

/-- A new taxi has its columns at their defaults, and those of the others stay. -/
theorem taxiColumn_insertTaxi {next : Tables} (inserted : tables.insertTaxi now taxi = some next) :
    next.taxiColumn column other =
      if other = taxi then some (column (.inserted now taxi)) else tables.taxiColumn column other := by
  obtain ⟨taxis, added, rfl⟩ := Option.map_eq_some_iff.mp inserted
  simp only [taxiColumn, Table.lookup_insert? added]
  by_cases same : other = taxi
  · rw [if_pos same, if_pos (show other = (TaxiRow.inserted now taxi).id from same)]
    rfl
  · rw [if_neg same, if_neg (show other ≠ (TaxiRow.inserted now taxi).id from same)]

end TaxiColumn

end Tables

namespace Statement

/-! ### Statement texts -/

/-- The availability search of `checkAvailableTaxis`. -/
def selectAvailable : Statement := select fun tables =>
  tables.available.toList.map fun taxi => [.int taxi.toInt32]

/-- The queue search of `checkQueue`. -/
def selectQueueHead : Statement := select fun tables =>
  tables.queueHead.toList.map fun customer => [.char customer]

/-- `SELECT customer_id FROM taxis WHERE id = {}`. -/
def selectCustomerId (taxi : TaxiId) : Statement := select fun tables =>
  (tables.taxis.lookup taxi).toList.map fun row => [.ofChar? row.customerId]

/-- `SELECT service FROM taxis WHERE id = {}`. -/
def selectService (taxi : TaxiId) : Statement := select fun tables =>
  (tables.taxis.lookup taxi).toList.map fun row => [.ofChar? row.service]

/-- `SELECT dest_x, dest_y FROM taxis WHERE id = {}`. -/
def selectDest (taxi : TaxiId) : Statement := select fun tables =>
  (tables.taxis.lookup taxi).toList.map fun row => [.ofInt? row.destX, .ofInt? row.destY]

/-- `SELECT l.x, l.y FROM customers c JOIN locations l … WHERE c.id = '{}'`. -/
def selectDestination (customer : Id) : Statement := quoting [customer] (select fun tables =>
  (tables.destinationOf customer).toList.map fun coord => [.int coord.x, .int coord.y])

/-- `SELECT 1 FROM customers WHERE id = '{}'`. -/
def selectCustomerExists (customer : Id) : Statement := quoting [customer] (select fun tables =>
  (tables.customers.lookup customer).toList.map fun _ => [.int 1])

/-- `SELECT connected FROM taxis WHERE id = {}`. -/
def selectConnected (taxi : TaxiId) : Statement := select fun tables =>
  (tables.taxis.lookup taxi).toList.map fun row => [.ofBool row.connected]

/-- `SELECT id, x, y FROM locations`. -/
def selectLocations : Statement := select fun tables =>
  tables.locations.rows.map fun row => [.char row.id, .int row.x, .int row.y]

/-- `SELECT id, x, y, destination, next_request, onboard, in_queue FROM customers`. -/
def selectCustomers : Statement := select fun tables =>
  tables.customers.rows.map fun row =>
    [.char row.id, .int row.x, .int row.y, .ofChar? row.destination, .int row.nextRequest,
      .ofBool row.onboard, row.inQueue.elim .null .time]

/-- `SELECT id, x, y, dest_x, dest_y, customer_id, connected, ready, stopped, wait_time
FROM taxis`. -/
def selectTaxis : Statement := select fun tables =>
  tables.taxis.rows.map fun row =>
    [.int row.id.toInt32, .int row.x, .int row.y, .ofInt? row.destX, .ofInt? row.destY,
      .ofChar? row.customerId, .ofBool row.connected, .ofBool row.ready, .ofBool row.stopped,
      .int row.waitTime]

/-- `INSERT INTO customers (id, x, y) VALUES ('{}', {}, {})`. -/
def insertCustomer (id : Id) (coord : Coordinate) : Statement :=
  quoting [id] (insert fun now => Tables.insertCustomer now id coord)

/-- `INSERT INTO taxis (id) VALUES ({})`. -/
def insertTaxi (taxi : TaxiId) : Statement := insert fun now => Tables.insertTaxi now taxi

/-- `DELETE FROM customers WHERE id = '{}'`. -/
def deleteCustomer (customer : Id) : Statement :=
  quoting [customer] (update fun _ => Tables.deleteCustomer customer)

/-- `UPDATE taxis SET connected = {} WHERE id = {}`. -/
def setConnected (taxi : TaxiId) (connected : Bool) : Statement :=
  update fun now => Tables.setConnected now taxi connected

/-- `UPDATE taxis SET last_update = NOW() WHERE id = {}`. -/
def pingTaxi (taxi : TaxiId) : Statement := update fun now => Tables.pingTaxi now taxi

/-- `UPDATE customers SET last_update = NOW() WHERE id = '{}'`. -/
def pingCustomer (customer : Id) : Statement :=
  quoting [customer] (update fun now => Tables.pingCustomer now customer)

/-- `UPDATE taxis SET x = {}, y = {} WHERE id = {}`. -/
def moveTaxi (taxi : TaxiId) (coord : Coordinate) : Statement :=
  update fun now => Tables.moveTaxi now taxi coord

/-- `UPDATE customers SET x = {}, y = {} WHERE id = '{}'`. -/
def moveCustomer (customer : Id) (coord : Coordinate) : Statement :=
  quoting [customer] (update fun now => Tables.moveCustomer now customer coord)

/-- `UPDATE customers SET onboard = {} WHERE id = '{}'`. -/
def setOnboardFlag (customer : Id) (onboard : Bool) : Statement :=
  quoting [customer] (update fun now => Tables.setOnboardFlag now customer onboard)

/-- `UPDATE taxis SET customer_id = {} WHERE id = {}`. -/
def setCustomerId (taxi : TaxiId) (customer : Option Id) : Statement :=
  quoting customer.toList (update fun now => Tables.setCustomerId now taxi customer)

/-- `UPDATE taxis SET ready = {} WHERE id = {}`. -/
def setReady (taxi : TaxiId) (ready : Bool) : Statement :=
  update fun now => Tables.setReady now taxi ready

/-- `UPDATE taxis SET stopped = {} WHERE id = {}`. -/
def setStopped (taxi : TaxiId) (stopped : Bool) : Statement :=
  update fun now => Tables.setStopped now taxi stopped

/-- `UPDATE taxis SET wait_time = {}, ready = {} WHERE id = {}`. -/
def setWaitTime (taxi : TaxiId) (waitTime : Int32) : Statement :=
  update fun now => Tables.setWaitTime now taxi waitTime

/-- `UPDATE taxis SET dest_x = {}, dest_y = {}, customer_id = NULL WHERE id = {}`. -/
def redirectTaxi (taxi : TaxiId) (coord : Coordinate) : Statement :=
  update fun now => Tables.redirectTaxi now taxi coord

/-- `UPDATE customers SET onboard = FALSE WHERE id = '{taxi}'`. -/
def landNamesake (taxi : TaxiId) : Statement := update fun now => Tables.landNamesake now taxi

/-- `UPDATE customers SET in_queue = NOW() WHERE id = '{}'`. -/
def enqueue (customer : Id) : Statement :=
  quoting [customer] (update fun now => Tables.setInQueue now customer (some now))

/-- `UPDATE customers SET in_queue = NULL WHERE id = '{}'`. -/
def clearInQueue (customer : Id) : Statement :=
  quoting [customer] (update fun now => Tables.setInQueue now customer none)

/-- `UPDATE customers SET destination = '{}' WHERE id = '{}'`. -/
def setDestination (customer location : Id) : Statement :=
  quoting [location, customer] (update fun now => Tables.setDestination now customer location)

/-- `UPDATE customers SET next_request = {} WHERE id = '{}'`. -/
def setNextRequest (customer : Id) (nextRequest : Int32) : Statement :=
  quoting [customer] (update fun now => Tables.setNextRequest now customer nextRequest)

/-- `UPDATE locations SET x = {}, y = {} WHERE id = '{}'`. -/
def moveLocation (location : Id) (coord : Coordinate) : Statement :=
  quoting [location] (update fun _ => Tables.moveLocation location coord)

/-- `UPDATE taxis t JOIN customers c ON c.id = '{0}' SET … WHERE t.id = {1}`. -/
def assignTaxi (taxi : TaxiId) (customer : Id) : Statement :=
  quoting [customer] (update fun now => Tables.assignTaxi now taxi customer)

end Statement

end EasyCab
