import Mathlib.Data.List.TakeWhile
import EasyCab.Central.KafkaServer

/-!
# The published map is always read

`refreshMap` reads three result sets with `getRow` loops. An outage may cut the
later ones off; `nextResult` then stays where it is and the loops find nothing to
read. In every case the rows are read without a fault.
-/

namespace EasyCab

open Library

namespace KafkaServer

variable {now : Timestamp}

/-- Rows which a loop over `getRow` reads one after the other without a fault. -/
def Legible {Item : Type} (read : Row → Except Fault Item) (rows : ResultSet) : Prop :=
  ∀ row ∈ rows, row.isEmpty = false ∧ ∃ item, read row = .ok item

theorem Legible.mapM {Item : Type} {read : Row → Except Fault Item} {rows : ResultSet}
    (legible : Legible read rows) : ∃ items, rows.mapM read = .ok items := by
  induction rows with
  | nil => exact ⟨[], rfl⟩
  | cons row rows inductionHypothesis =>
      obtain ⟨⟨_, item, first⟩, rest⟩ := List.forall_mem_cons.mp legible
      obtain ⟨items, others⟩ := inductionHypothesis rest
      exact ⟨item :: items, by rw [List.mapM_cons, first, others]; rfl⟩

/-- A loop at the start of a result set reads all of it. -/
theorem readRows_start {results : DbResults} {rows : ResultSet}
    (current : results.results[results.currentResult]? = some rows)
    (start : results.currentRow = 0) (filled : ∀ row ∈ rows, row.isEmpty = false) :
    readRows results = (rows, { results with currentRow := rows.length }) := by
  have all : rows.takeWhile (fun row => !row.isEmpty) = rows := by
    rw [List.takeWhile_eq_self_iff]
    intro row member
    simp [filled row member]
  simp [readRows, current, start, all]

/-- A loop at the end of a result set reads nothing. -/
theorem readRows_finished {results : DbResults} {rows : ResultSet}
    (current : results.results[results.currentResult]? = some rows)
    (finished : results.currentRow = rows.length) : readRows results = ([], results) := by
  obtain ⟨sets, set, row⟩ := results
  simp only at current finished
  simp [readRows, current, finished]

/-- The rows of `selectLocations`. -/
def locationRows (tables : Tables) : ResultSet :=
  tables.locations.rows.map fun row => [.char row.id, .int row.x, .int row.y]

/-- The rows of `selectCustomers`. -/
def customerRows (tables : Tables) : ResultSet :=
  tables.customers.rows.map fun row =>
    [.char row.id, .int row.x, .int row.y, .ofChar? row.destination, .int row.nextRequest,
      .ofBool row.onboard, row.inQueue.elim .null .time]

/-- The rows of `selectTaxis`. -/
def taxiRows (tables : Tables) : ResultSet :=
  tables.taxis.rows.map fun row =>
    [.int row.id.toInt32, .int row.x, .int row.y, .ofInt? row.destX, .ofInt? row.destY,
      .ofChar? row.customerId, .ofBool row.connected, .ofBool row.ready, .ofBool row.stopped,
      .int row.waitTime]

theorem legible_locationRows (tables : Tables) : Legible readLocation (locationRows tables) := by
  intro row member
  obtain ⟨stored, _, rfl⟩ := List.mem_map.mp member
  exact ⟨rfl, _, rfl⟩

theorem legible_customerRows (tables : Tables) : Legible readCustomer (customerRows tables) := by
  intro row member
  obtain ⟨stored, _, rfl⟩ := List.mem_map.mp member
  exact ⟨rfl, _, rfl⟩

theorem legible_taxiRows (tables : Tables) : Legible readTaxi (taxiRows tables) := by
  intro row member
  obtain ⟨stored, _, rfl⟩ := List.mem_map.mp member
  refine ⟨rfl, ?_⟩
  cases destX : stored.destX <;> cases destY : stored.destY <;> exact ⟨_, rfl⟩

/-- The three loops read the three result sets, one each. -/
theorem readRows_all {locations customers taxis : ResultSet}
    (filledPlaces : ∀ row ∈ locations, row.isEmpty = false)
    (filledPeople : ∀ row ∈ customers, row.isEmpty = false)
    (filledCabs : ∀ row ∈ taxis, row.isEmpty = false) :
    let results := [locations, customers, taxis]
    readRows (.ofResults results) = (locations, ⟨results, 0, locations.length⟩) ∧
      readRows (DbResults.nextResult ⟨results, 0, locations.length⟩).2 =
        (customers, ⟨results, 1, customers.length⟩) ∧
      readRows (DbResults.nextResult ⟨results, 1, customers.length⟩).2 =
        (taxis, ⟨results, 2, taxis.length⟩) := by
  refine ⟨?_, ?_, ?_⟩
  · exact readRows_start rfl rfl filledPlaces
  · exact readRows_start rfl rfl filledPeople
  · exact readRows_start rfl rfl filledCabs

/-- A map is read from three result sets which can be read. -/
theorem readMap_all {locations customers taxis : ResultSet}
    (filledPlaces : ∀ row ∈ locations, row.isEmpty = false)
    (filledPeople : ∀ row ∈ customers, row.isEmpty = false)
    (filledCabs : ∀ row ∈ taxis, row.isEmpty = false) {placeItems : List Location}
    {customerItems : List Customer} {taxiItems : List Taxi}
    (readPlaces : locations.mapM readLocation = .ok placeItems)
    (readCustomers : customers.mapM readCustomer = .ok customerItems)
    (readTaxis : taxis.mapM readTaxi = .ok taxiItems) :
    readMap (.ofResults [locations, customers, taxis]) =
      .ok ⟨placeItems, customerItems, taxiItems⟩ := by
  obtain ⟨first, second, third⟩ := readRows_all filledPlaces filledPeople filledCabs
  simp only [readMap, first, second, third, readPlaces, readCustomers, readTaxis]
  rfl

/-- The map is read from all three result sets, or from the first ones of them. -/
theorem readMap_ends {locations customers taxis : ResultSet}
    (places : Legible readLocation locations) (people : Legible readCustomer customers)
    (cabs : Legible readTaxi taxis) (count : Nat) :
    ∃ map, readMap (.ofResults (locations :: [customers, taxis].take count)) = .ok map := by
  obtain ⟨placeItems, readPlaces⟩ := places.mapM
  obtain ⟨customerItems, readCustomers⟩ := people.mapM
  obtain ⟨taxiItems, readTaxis⟩ := cabs.mapM
  have filledPlaces := fun row member => (places row member).1
  have filledPeople := fun row member => (people row member).1
  have filledCabs := fun row member => (cabs row member).1
  rcases count with _ | _ | count
  · change ∃ map, readMap (.ofResults [locations]) = .ok map
    have first : readRows (.ofResults [locations]) =
        (locations, ⟨[locations], 0, locations.length⟩) := readRows_start rfl rfl filledPlaces
    have done : readRows (DbResults.nextResult ⟨[locations], 0, locations.length⟩).2 =
        ([], ⟨[locations], 0, locations.length⟩) := readRows_finished rfl rfl
    refine ⟨⟨placeItems, [], []⟩, ?_⟩
    simp only [readMap, first, done, readPlaces]
    rfl
  · change ∃ map, readMap (.ofResults [locations, customers]) = .ok map
    have first : readRows (.ofResults [locations, customers]) =
        (locations, ⟨[locations, customers], 0, locations.length⟩) :=
      readRows_start rfl rfl filledPlaces
    have second : readRows (DbResults.nextResult ⟨[locations, customers], 0, locations.length⟩).2 =
        (customers, ⟨[locations, customers], 1, customers.length⟩) :=
      readRows_start rfl rfl filledPeople
    have done : readRows (DbResults.nextResult ⟨[locations, customers], 1, customers.length⟩).2 =
        ([], ⟨[locations, customers], 1, customers.length⟩) := readRows_finished rfl rfl
    refine ⟨⟨placeItems, customerItems, []⟩, ?_⟩
    simp only [readMap, first, second, done, readPlaces, readCustomers]
    rfl
  · rw [List.take_of_length_le (by simp)]
    exact ⟨_, readMap_all filledPlaces filledPeople filledCabs readPlaces readCustomers readTaxis⟩

/-- `refreshMap` never faults. -/
theorem refreshMap_ends (server : KafkaServer) : (refreshMap now).Ends server := by
  have answered := DbConnectionHandler.query_selects now locationRows [customerRows, taxiRows]
    server.outages server.db
  let answer := DbConnectionHandler.query now
    [.selectLocations, .selectCustomers, .selectTaxis] server.outages server.db
  have queried : query now [.selectLocations, .selectCustomers, .selectTaxis] server =
      .ok ⟨answer.value, ⟨answer.db, answer.outages, server.response⟩,
        answer.failures.map .failed⟩ := rfl
  unfold refreshMap
  rw [Effect.ends_bind_iff queried]
  rcases answered with ⟨error, failed⟩ | ⟨count, read⟩
  · have value : answer.value = .error error := failed
    rw [value]
    exact Effect.ends_pure
  · have value : answer.value = .ok (.ofResults (locationRows server.db.toTables ::
        [customerRows server.db.toTables, taxiRows server.db.toTables].take count)) := read
    rw [value]
    apply Effect.ends_demand_bind_iff.mpr
    obtain ⟨map, mapped⟩ := readMap_ends (legible_locationRows server.db.toTables)
      (legible_customerRows server.db.toTables) (legible_taxiRows server.db.toTables) count
    exact ⟨map, mapped, Effect.ends_record⟩

end KafkaServer

end EasyCab
