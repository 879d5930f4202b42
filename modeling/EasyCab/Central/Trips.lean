import Mathlib.Logic.Function.Basic
import EasyCab.Central.Statements

/-!
# Trips: what the tables say about who is where

`Trips` is the abstract state of the fleet: for each taxi whom it carries, whom it
serves, where it is and where it is sent; for each customer where it is, whether
it is aboard and where it wants to go; and where each location is. Identifiers
without a row have no position. Every statement which touches these columns is an
operation on `Trips`, and the other statements leave them alone, so invariants
about trips never look at rows.
-/

namespace EasyCab

open Library

/-- The columns by which taxis, customers and locations take part in trips. -/
@[ext] structure Trips where
  carried : TaxiId → Option Id
  service : TaxiId → Option Id
  dest : TaxiId → Option Coordinate
  taxiAt : TaxiId → Option Coordinate
  customerAt : Id → Option Coordinate
  onboard : Id → Option Bool
  wants : Id → Option Id
  placeAt : Id → Option Coordinate

namespace Trips

/-- A stored taxi moves. -/
def moveTaxi (trips : Trips) (taxi : TaxiId) (coord : Coordinate) : Trips :=
  { trips with
    taxiAt := Function.update trips.taxiAt taxi ((trips.taxiAt taxi).map fun _ => coord) }

/-- A stored customer moves. -/
def moveCustomer (trips : Trips) (customer : Id) (coord : Coordinate) : Trips :=
  { trips with
    customerAt := Function.update trips.customerAt customer
      ((trips.customerAt customer).map fun _ => coord) }

/-- The flag of a stored customer is set. -/
def setOnboardFlag (trips : Trips) (customer : Id) (flag : Bool) : Trips :=
  { trips with
    onboard := Function.update trips.onboard customer
      ((trips.onboard customer).map fun _ => flag) }

/-- A stored taxi takes somebody aboard, or nobody. -/
def carry (trips : Trips) (taxi : TaxiId) (customer : Option Id) : Trips :=
  { trips with
    carried := Function.update trips.carried taxi ((trips.taxiAt taxi).bind fun _ => customer) }

/-- A stored taxi is sent somewhere and carries nobody. -/
def redirect (trips : Trips) (taxi : TaxiId) (coord : Coordinate) : Trips :=
  { trips.carry taxi none with
    dest := Function.update trips.dest taxi ((trips.taxiAt taxi).map fun _ => coord) }

/-- A stored taxi is sent to a stored customer. -/
def assign (trips : Trips) (taxi : TaxiId) (customer : Id) : Trips :=
  match trips.customerAt customer with
  | none => trips
  | some coord =>
      { trips with
        service := Function.update trips.service taxi
          ((trips.taxiAt taxi).map fun _ => customer)
        dest := Function.update trips.dest taxi ((trips.taxiAt taxi).map fun _ => coord) }

/-- A stored customer names a location. -/
def setDestination (trips : Trips) (customer location : Id) : Trips :=
  { trips with
    wants := Function.update trips.wants customer
      ((trips.customerAt customer).map fun _ => location) }

/-- A stored location moves. -/
def movePlace (trips : Trips) (location : Id) (coord : Coordinate) : Trips :=
  { trips with
    placeAt := Function.update trips.placeAt location
      ((trips.placeAt location).map fun _ => coord) }

/-- A taxi moves, and whom it carries moves with it. -/
def drive (trips : Trips) (taxi : TaxiId) (coord : Coordinate) : Trips :=
  match trips.carried taxi with
  | none => trips.moveTaxi taxi coord
  | some customer => (trips.moveTaxi taxi coord).moveCustomer customer coord

/-- The flag of a customer is set and the customer is written to a taxi, or removed from it. -/
def setOnboard (trips : Trips) (customer : Id) (taxi : TaxiId) (val : Bool) : Trips :=
  (trips.setOnboardFlag customer val).carry taxi (if val then some customer else none)

/-- The flag of the customer whose identifier is the decimal text of a taxi is cleared. -/
def landNamesake (trips : Trips) (taxi : TaxiId) : Trips :=
  match Tables.charOfTaxiId? taxi with
  | none => trips
  | some customer => trips.setOnboardFlag customer false

/-- A customer gets its row. -/
def join (trips : Trips) (customer : Id) (coord : Coordinate) : Trips :=
  { trips with
    customerAt := Function.update trips.customerAt customer (some coord)
    onboard := Function.update trips.onboard customer (some false)
    wants := Function.update trips.wants customer none }

/-- A customer loses its row. -/
def leave (trips : Trips) (customer : Id) : Trips :=
  { trips with
    customerAt := Function.update trips.customerAt customer none
    onboard := Function.update trips.onboard customer none
    wants := Function.update trips.wants customer none }

/-- A taxi gets its row. -/
def register (trips : Trips) (taxi : TaxiId) : Trips :=
  { trips with
    carried := Function.update trips.carried taxi none
    service := Function.update trips.service taxi none
    dest := Function.update trips.dest taxi none
    taxiAt := Function.update trips.taxiAt taxi (some ⟨0, 0⟩) }

/-! ### Fields which an operation leaves alone -/

section Untouched

variable (trips : Trips) (taxi : TaxiId) (customer : Id) (coord : Coordinate)

@[simp] theorem drive_carried :
    (trips.drive taxi coord).carried = trips.carried := by
  unfold drive
  cases trips.carried taxi <;> rfl

@[simp] theorem drive_service :
    (trips.drive taxi coord).service = trips.service := by
  unfold drive
  cases trips.carried taxi <;> rfl

@[simp] theorem drive_dest :
    (trips.drive taxi coord).dest = trips.dest := by
  unfold drive
  cases trips.carried taxi <;> rfl

@[simp] theorem drive_onboard :
    (trips.drive taxi coord).onboard = trips.onboard := by
  unfold drive
  cases trips.carried taxi <;> rfl

@[simp] theorem drive_wants :
    (trips.drive taxi coord).wants = trips.wants := by
  unfold drive
  cases trips.carried taxi <;> rfl

@[simp] theorem drive_placeAt :
    (trips.drive taxi coord).placeAt = trips.placeAt := by
  unfold drive
  cases trips.carried taxi <;> rfl

@[simp] theorem assign_carried :
    (trips.assign taxi customer).carried = trips.carried := by
  unfold assign
  cases trips.customerAt customer <;> rfl

@[simp] theorem assign_taxiAt :
    (trips.assign taxi customer).taxiAt = trips.taxiAt := by
  unfold assign
  cases trips.customerAt customer <;> rfl

@[simp] theorem assign_customerAt :
    (trips.assign taxi customer).customerAt = trips.customerAt := by
  unfold assign
  cases trips.customerAt customer <;> rfl

@[simp] theorem assign_onboard :
    (trips.assign taxi customer).onboard = trips.onboard := by
  unfold assign
  cases trips.customerAt customer <;> rfl

@[simp] theorem assign_wants :
    (trips.assign taxi customer).wants = trips.wants := by
  unfold assign
  cases trips.customerAt customer <;> rfl

@[simp] theorem assign_placeAt :
    (trips.assign taxi customer).placeAt = trips.placeAt := by
  unfold assign
  cases trips.customerAt customer <;> rfl

@[simp] theorem landNamesake_carried :
    (trips.landNamesake taxi).carried = trips.carried := by
  unfold landNamesake
  cases Tables.charOfTaxiId? taxi <;> rfl

@[simp] theorem landNamesake_service :
    (trips.landNamesake taxi).service = trips.service := by
  unfold landNamesake
  cases Tables.charOfTaxiId? taxi <;> rfl

@[simp] theorem landNamesake_dest :
    (trips.landNamesake taxi).dest = trips.dest := by
  unfold landNamesake
  cases Tables.charOfTaxiId? taxi <;> rfl

@[simp] theorem landNamesake_taxiAt :
    (trips.landNamesake taxi).taxiAt = trips.taxiAt := by
  unfold landNamesake
  cases Tables.charOfTaxiId? taxi <;> rfl

@[simp] theorem landNamesake_customerAt :
    (trips.landNamesake taxi).customerAt = trips.customerAt := by
  unfold landNamesake
  cases Tables.charOfTaxiId? taxi <;> rfl

@[simp] theorem landNamesake_wants :
    (trips.landNamesake taxi).wants = trips.wants := by
  unfold landNamesake
  cases Tables.charOfTaxiId? taxi <;> rfl

@[simp] theorem landNamesake_placeAt :
    (trips.landNamesake taxi).placeAt = trips.placeAt := by
  unfold landNamesake
  cases Tables.charOfTaxiId? taxi <;> rfl

@[simp] theorem setOnboard_customerAt (val : Bool) :
    (trips.setOnboard customer taxi val).customerAt = trips.customerAt := rfl

@[simp] theorem setOnboard_placeAt (val : Bool) :
    (trips.setOnboard customer taxi val).placeAt = trips.placeAt := rfl

/-- Whom the taxis carry after one of them puts somebody down. -/
theorem setOnboard_false_carried : (trips.setOnboard customer taxi false).carried =
    Function.update trips.carried taxi none := by
  simp [setOnboard, carry, setOnboardFlag]

/-- Whom the taxis carry after a stored one takes somebody aboard. -/
theorem setOnboard_true_carried (stored : (trips.taxiAt taxi).isSome) :
    (trips.setOnboard customer taxi true).carried =
      Function.update trips.carried taxi (some customer) := by
  obtain ⟨coord, stored⟩ := Option.isSome_iff_exists.mp stored
  simp [setOnboard, carry, setOnboardFlag, stored]

/-- Whom the taxis carry after one of them is redirected. -/
theorem redirect_carried : ((trips.redirect taxi coord).landNamesake taxi).carried =
    Function.update trips.carried taxi none := by
  rw [landNamesake_carried]
  simp [redirect, carry]

/-- Where the taxis are after one of them drives. -/
theorem drive_taxiAt : (trips.drive taxi coord).taxiAt =
    Function.update trips.taxiAt taxi ((trips.taxiAt taxi).map fun _ => coord) := by
  unfold drive
  cases trips.carried taxi <;> rfl

/-- A taxi which drives keeps its row, and so do the others. -/
theorem drive_taxiAt_isSome (other : TaxiId) :
    ((trips.drive taxi coord).taxiAt other).isSome = (trips.taxiAt other).isSome := by
  rw [drive_taxiAt]
  by_cases same : other = taxi
  · rw [same, Function.update_self, Option.isSome_map]
  · rw [Function.update_of_ne same]

/-- An assignment leaves the other taxis alone. -/
theorem assign_service_of_ne {other : TaxiId} (different : other ≠ taxi) :
    (trips.assign taxi customer).service other = trips.service other := by
  unfold assign
  cases trips.customerAt customer with
  | none => rfl
  | some coord => exact Function.update_of_ne different _ _

/-- An assignment sends no other taxi anywhere. -/
theorem assign_dest_of_ne {other : TaxiId} (different : other ≠ taxi) :
    (trips.assign taxi customer).dest other = trips.dest other := by
  unfold assign
  cases trips.customerAt customer with
  | none => rfl
  | some coord => exact Function.update_of_ne different _ _

/-- An assignment of a stored taxi either names its customer or changes nothing. -/
theorem assign_service_self {at_ : Coordinate} (stored : trips.taxiAt taxi = some at_) :
    (trips.assign taxi customer).service taxi = some customer ∨
      trips.assign taxi customer = trips := by
  unfold assign
  cases trips.customerAt customer with
  | none => exact .inr rfl
  | some coord => exact .inl (by simp [stored])

end Untouched

section Carried

/-! ### Whom the taxis carry -/

variable {trips : Trips} {taxi other : TaxiId} {customer passenger : Id} {coord : Coordinate}

/-- A partial map from which an entry was removed has the others. -/
theorem update_none_eq_some_iff {read : TaxiId → Option Id} :
    Function.update read taxi none other = some customer ↔
      other ≠ taxi ∧ read other = some customer := by
  by_cases same : other = taxi
  · simp [same]
  · rw [Function.update_of_ne same]
    exact (and_iff_right same).symm

/-- A taxi which puts somebody down carries nobody, and the others whom they carried. -/
theorem setOnboard_false_carried_iff :
    (trips.setOnboard customer taxi false).carried other = some passenger ↔
      other ≠ taxi ∧ trips.carried other = some passenger := by
  rw [setOnboard_false_carried, update_none_eq_some_iff]

/-- A redirected taxi carries nobody, and the others whom they carried. -/
theorem redirect_carried_iff :
    ((trips.redirect taxi coord).landNamesake taxi).carried other = some passenger ↔
      other ≠ taxi ∧ trips.carried other = some passenger := by
  rw [redirect_carried, update_none_eq_some_iff]

end Carried

section Namesake

/-! ### The flag of the customer whose identifier spells a taxi -/

variable {trips : Trips} {taxi : TaxiId} {customer : Id}

/-- The flag of the namesake is cleared. -/
theorem landNamesake_onboard (spelled : Tables.charOfTaxiId? taxi = some customer) :
    (trips.landNamesake taxi).onboard customer =
      (trips.onboard customer).map fun _ => false := by
  simp [landNamesake, spelled, setOnboardFlag]

/-- The flags of all others are kept. -/
theorem landNamesake_onboard_of_ne (different : Tables.charOfTaxiId? taxi ≠ some customer) :
    (trips.landNamesake taxi).onboard customer = trips.onboard customer := by
  unfold landNamesake
  cases spelled : Tables.charOfTaxiId? taxi with
  | none => rfl
  | some namesake =>
      refine Function.update_of_ne ?_ _ _
      rintro rfl
      exact different spelled

end Namesake

/-- What the keys of the tables make sure of. -/
structure WellFormed (trips : Trips) : Prop where
  taxiOfCarried : ∀ {taxi customer}, trips.carried taxi = some customer →
    (trips.taxiAt taxi).isSome
  taxiOfService : ∀ {taxi customer}, trips.service taxi = some customer →
    (trips.taxiAt taxi).isSome
  customerOfCarried : ∀ {taxi customer}, trips.carried taxi = some customer →
    (trips.customerAt customer).isSome
  flagOfCustomer : ∀ {customer}, (trips.customerAt customer).isSome →
    (trips.onboard customer).isSome

/-- Customers keep their rows while a taxi drives. -/
theorem drive_customerAt_isSome (trips : Trips) (taxi : TaxiId) (coord : Coordinate)
    (customer : Id) :
    ((trips.drive taxi coord).customerAt customer).isSome = (trips.customerAt customer).isSome := by
  unfold drive
  cases trips.carried taxi with
  | none => rfl
  | some carried =>
      by_cases same : customer = carried
      · simp [moveCustomer, moveTaxi, same]
      · simp [moveCustomer, moveTaxi, Function.update_of_ne same]

/-- A carried customer arrives where its taxi does. -/
theorem WellFormed.drive_customerAt {trips : Trips} (wellFormed : trips.WellFormed) {taxi : TaxiId}
    {customer : Id} (carried : trips.carried taxi = some customer) (coord : Coordinate) :
    (trips.drive taxi coord).customerAt customer = some coord := by
  obtain ⟨place, stored⟩ := Option.isSome_iff_exists.mp (wellFormed.customerOfCarried carried)
  simp [Trips.drive, carried, moveCustomer, moveTaxi, stored]

/-- A taxi with a customer to serve keeps its row while it drives. -/
theorem WellFormed.drive_taxiAt {trips : Trips} (wellFormed : trips.WellFormed) {taxi : TaxiId}
    {customer : Id} (service : trips.service taxi = some customer) (coord : Coordinate) :
    ((trips.drive taxi coord).taxiAt taxi).isSome := by
  rw [drive_taxiAt_isSome]
  exact wellFormed.taxiOfService service

/-- Driving touches no key. -/
theorem WellFormed.drive {trips : Trips} (wellFormed : trips.WellFormed) (taxi : TaxiId)
    (coord : Coordinate) : (trips.drive taxi coord).WellFormed where
  taxiOfCarried := by
    intro other customer carried
    rw [drive_taxiAt_isSome]
    exact wellFormed.taxiOfCarried (by rwa [drive_carried] at carried)
  taxiOfService := by
    intro other customer service
    rw [drive_taxiAt_isSome]
    exact wellFormed.taxiOfService (by rwa [drive_service] at service)
  customerOfCarried := by
    intro other customer carried
    rw [drive_customerAt_isSome]
    exact wellFormed.customerOfCarried (by rwa [drive_carried] at carried)
  flagOfCustomer := by
    intro customer stored
    rw [drive_customerAt_isSome] at stored
    rw [drive_onboard]
    exact wellFormed.flagOfCustomer stored

end Trips

namespace Tables

/-- The stored destination of a taxi, when both of its columns are set. -/
def destOf (tables : Tables) (taxi : TaxiId) : Option Coordinate :=
  (tables.taxis.lookup taxi).bind fun row =>
    row.destX.bind fun x => row.destY.map fun y => ⟨x, y⟩

/-- The flag of a stored customer. -/
def onboardOf (tables : Tables) (customer : Id) : Option Bool :=
  (tables.customers.lookup customer).map (·.onboard)

/-- The location a customer names. -/
def wantsOf (tables : Tables) (customer : Id) : Option Id :=
  (tables.customers.lookup customer).bind (·.destination)

/-- The trips which the tables describe. -/
def trips (tables : Tables) : Trips where
  carried := tables.customerIdOf
  service := tables.serviceOf
  dest := tables.destOf
  taxiAt := tables.taxiCoord
  customerAt := tables.customerCoord
  onboard := tables.onboardOf
  wants := tables.wantsOf
  placeAt := tables.locationCoord

/-- The destination of a customer is the place of the location it names. -/
theorem destinationOf_eq (tables : Tables) (customer : Id) :
    tables.destinationOf customer =
      (tables.trips.wants customer).bind tables.trips.placeAt := rfl

variable {tables : Tables} {now : Timestamp}

/-! ### Updates of taxis -/

/-- What an update of a taxi does to the trips. -/
theorem trips_updateTaxi (taxi : TaxiId) (update : TaxiRow → TaxiRow)
    (keeps : ∀ row, (update row).id = row.id) :
    (tables.updateTaxi now taxi update keeps).trips =
      { tables.trips with
        carried := Function.update tables.customerIdOf taxi
          ((tables.taxis.lookup taxi).bind fun row => (update row).customerId)
        service := Function.update tables.serviceOf taxi
          ((tables.taxis.lookup taxi).bind fun row => (update row).service)
        dest := Function.update tables.destOf taxi
          ((tables.taxis.lookup taxi).bind fun row =>
            (update row).destX.bind fun x => (update row).destY.map fun y => ⟨x, y⟩)
        taxiAt := Function.update tables.taxiCoord taxi
          ((tables.taxis.lookup taxi).map fun row => (update row).coord) } := by
  ext1 <;> try rfl
  all_goals
    funext other
    by_cases same : other = taxi
    · subst same
      cases found : tables.taxis.lookup other <;>
        simp [trips, customerIdOf, serviceOf, destOf, taxiCoord, updateTaxi, found]
    · simp [trips, customerIdOf, serviceOf, destOf, taxiCoord, updateTaxi, same]

/-- An update which leaves the trip columns of a taxi alone. -/
theorem trips_updateTaxi_kept (taxi : TaxiId) (update : TaxiRow → TaxiRow)
    (keeps : ∀ row, (update row).id = row.id)
    (kept : ∀ row, (update row).customerId = row.customerId ∧ (update row).service = row.service ∧
      (update row).destX = row.destX ∧ (update row).destY = row.destY ∧
      (update row).coord = row.coord) :
    (tables.updateTaxi now taxi update keeps).trips = tables.trips := by
  rw [trips_updateTaxi]
  simp only [kept]
  ext1 <;> first | rfl | exact Function.update_eq_self _ _

theorem trips_setConnected (taxi : TaxiId) (connected : Bool) :
    (tables.setConnected now taxi connected).trips = tables.trips :=
  trips_updateTaxi_kept taxi _ _ fun _ => ⟨rfl, rfl, rfl, rfl, rfl⟩

theorem trips_pingTaxi (taxi : TaxiId) : (tables.pingTaxi now taxi).trips = tables.trips :=
  trips_updateTaxi_kept taxi _ _ fun _ => ⟨rfl, rfl, rfl, rfl, rfl⟩

theorem trips_setReady (taxi : TaxiId) (ready : Bool) :
    (tables.setReady now taxi ready).trips = tables.trips :=
  trips_updateTaxi_kept taxi _ _ fun _ => ⟨rfl, rfl, rfl, rfl, rfl⟩

theorem trips_setStopped (taxi : TaxiId) (stopped : Bool) :
    (tables.setStopped now taxi stopped).trips = tables.trips :=
  trips_updateTaxi_kept taxi _ _ fun _ => ⟨rfl, rfl, rfl, rfl, rfl⟩

theorem trips_setWaitTime (taxi : TaxiId) (waitTime : Int32) :
    (tables.setWaitTime now taxi waitTime).trips = tables.trips :=
  trips_updateTaxi_kept taxi _ _ fun _ => ⟨rfl, rfl, rfl, rfl, rfl⟩

@[simp] theorem trips_moveTaxi (taxi : TaxiId) (coord : Coordinate) :
    (tables.moveTaxi now taxi coord).trips = tables.trips.moveTaxi taxi coord := by
  rw [moveTaxi, trips_updateTaxi]
  ext1 <;> first | rfl | exact Function.update_eq_self _ _ | skip
  simp only [trips, Trips.moveTaxi, taxiCoord, Option.map_map]
  rfl

@[simp] theorem trips_setCustomerId (taxi : TaxiId) (customer : Option Id) :
    (tables.setCustomerId now taxi customer).trips = tables.trips.carry taxi customer := by
  rw [setCustomerId, trips_updateTaxi]
  ext1 <;> first | rfl | exact Function.update_eq_self _ _ | skip
  simp only [trips, Trips.carry, taxiCoord]
  cases tables.taxis.lookup taxi <;> rfl

@[simp] theorem trips_redirectTaxi (taxi : TaxiId) (coord : Coordinate) :
    (tables.redirectTaxi now taxi coord).trips = tables.trips.redirect taxi coord := by
  rw [redirectTaxi, trips_updateTaxi]
  ext1 <;> first | rfl | exact Function.update_eq_self _ _ | skip
  · simp only [trips, Trips.redirect, Trips.carry, taxiCoord]
    cases tables.taxis.lookup taxi <;> rfl
  · simp only [trips, Trips.redirect, Trips.carry, taxiCoord]
    cases tables.taxis.lookup taxi <;> rfl

@[simp] theorem trips_assignTaxi (taxi : TaxiId) (customer : Id) :
    (tables.assignTaxi now taxi customer).trips = tables.trips.assign taxi customer := by
  cases found : tables.customers.lookup customer with
  | none => simp [assignTaxi, Trips.assign, trips, customerCoord, found]
  | some row =>
      have coord : tables.trips.customerAt customer = some row.coord := by
        simp [trips, customerCoord, found]
      simp only [assignTaxi, found, Trips.assign, coord, trips_updateTaxi]
      ext1 <;> first | rfl | exact Function.update_eq_self _ _ | skip
      · simp only [trips, taxiCoord]
        cases tables.taxis.lookup taxi <;> rfl
      · simp only [trips, taxiCoord]
        cases tables.taxis.lookup taxi <;> rfl

/-! ### Updates of customers -/

/-- What an update of a customer does to the trips. -/
theorem trips_updateCustomer (customer : Id) (update : CustomerRow → CustomerRow)
    (keeps : ∀ row, (update row).id = row.id) :
    (tables.updateCustomer now customer update keeps).trips =
      { tables.trips with
        customerAt := Function.update tables.customerCoord customer
          ((tables.customers.lookup customer).map fun row => (update row).coord)
        onboard := Function.update tables.onboardOf customer
          ((tables.customers.lookup customer).map fun row => (update row).onboard)
        wants := Function.update tables.wantsOf customer
          ((tables.customers.lookup customer).bind fun row => (update row).destination) } := by
  ext1 <;> try rfl
  all_goals
    funext other
    by_cases same : other = customer
    · subst same
      cases found : tables.customers.lookup other <;>
        simp [trips, customerCoord, onboardOf, wantsOf, updateCustomer, found]
    · simp [trips, customerCoord, onboardOf, wantsOf, updateCustomer, same]

/-- An update which leaves the trip columns of a customer alone. -/
theorem trips_updateCustomer_kept (customer : Id) (update : CustomerRow → CustomerRow)
    (keeps : ∀ row, (update row).id = row.id)
    (kept : ∀ row, (update row).coord = row.coord ∧ (update row).onboard = row.onboard ∧
      (update row).destination = row.destination) :
    (tables.updateCustomer now customer update keeps).trips = tables.trips := by
  rw [trips_updateCustomer]
  simp only [kept]
  ext1 <;> first | rfl | exact Function.update_eq_self _ _

theorem trips_pingCustomer (customer : Id) :
    (tables.pingCustomer now customer).trips = tables.trips :=
  trips_updateCustomer_kept customer _ _ fun _ => ⟨rfl, rfl, rfl⟩

theorem trips_setNextRequest (customer : Id) (nextRequest : Int32) :
    (tables.setNextRequest now customer nextRequest).trips = tables.trips :=
  trips_updateCustomer_kept customer _ _ fun _ => ⟨rfl, rfl, rfl⟩

theorem trips_setInQueue (customer : Id) (inQueue : Option Timestamp) :
    (tables.setInQueue now customer inQueue).trips = tables.trips :=
  trips_updateCustomer_kept customer _ _ fun _ => ⟨rfl, rfl, rfl⟩

@[simp] theorem trips_moveCustomer (customer : Id) (coord : Coordinate) :
    (tables.moveCustomer now customer coord).trips =
      tables.trips.moveCustomer customer coord := by
  rw [moveCustomer, trips_updateCustomer]
  ext1 <;> first | rfl | exact Function.update_eq_self _ _ | skip
  simp only [trips, Trips.moveCustomer, customerCoord, Option.map_map]
  rfl

@[simp] theorem trips_setOnboardFlag (customer : Id) (flag : Bool) :
    (tables.setOnboardFlag now customer flag).trips =
      tables.trips.setOnboardFlag customer flag := by
  rw [setOnboardFlag, trips_updateCustomer]
  ext1 <;> first | rfl | exact Function.update_eq_self _ _ | skip
  simp only [trips, Trips.setOnboardFlag, onboardOf, Option.map_map]
  rfl

@[simp] theorem trips_setDestination (customer location : Id) :
    (tables.setDestination now customer location).trips =
      tables.trips.setDestination customer location := by
  rw [setDestination, trips_updateCustomer]
  ext1 <;> first | rfl | exact Function.update_eq_self _ _ | skip
  simp only [trips, Trips.setDestination, customerCoord]
  cases tables.customers.lookup customer <;> rfl

@[simp] theorem trips_landNamesake (taxi : TaxiId) :
    (tables.landNamesake now taxi).trips = tables.trips.landNamesake taxi := by
  unfold landNamesake Trips.landNamesake
  cases charOfTaxiId? taxi with
  | none => rfl
  | some customer => exact trips_setOnboardFlag customer false

theorem trips_moveLocation (location : Id) (coord : Coordinate) :
    (tables.moveLocation location coord).trips = tables.trips.movePlace location coord := by
  ext1 <;> try rfl
  funext other
  by_cases same : other = location
  · subst same
    cases found : tables.locations.lookup other <;>
      simp [trips, Trips.movePlace, moveLocation, locationCoord, LocationRow.coord, found]
  · simp [trips, Trips.movePlace, moveLocation, locationCoord, same]

/-! ### Rows which come and go -/

theorem trips_deleteCustomer (customer : Id) :
    (tables.deleteCustomer customer).trips = tables.trips.leave customer := by
  ext1 <;> try rfl
  all_goals
    funext other
    by_cases same : other = customer <;>
      simp [trips, Trips.leave, deleteCustomer, customerCoord, onboardOf, wantsOf, same]

theorem trips_insertCustomer {next : Tables} {customer : Id} {coord : Coordinate}
    (inserted : tables.insertCustomer now customer coord = some next) :
    next.trips = tables.trips.join customer coord ∧ tables.trips.customerAt customer = none := by
  simp only [insertCustomer, Option.map_eq_some_iff] at inserted
  obtain ⟨customers, added, rfl⟩ := inserted
  have stored := Table.lookup_insert? added
  have free := Table.lookup_of_insert? added
  simp only [CustomerRow.inserted] at stored free
  refine ⟨?_, by simp [trips, customerCoord, free]⟩
  ext1 <;> try rfl
  all_goals
    funext other
    by_cases same : other = customer <;>
      simp [trips, Trips.join, customerCoord, onboardOf, wantsOf, stored, same, CustomerRow.coord]

theorem trips_insertTaxi {next : Tables} {taxi : TaxiId}
    (inserted : tables.insertTaxi now taxi = some next) :
    next.trips = tables.trips.register taxi ∧ tables.trips.taxiAt taxi = none := by
  simp only [insertTaxi, Option.map_eq_some_iff] at inserted
  obtain ⟨taxis, added, rfl⟩ := inserted
  have stored := Table.lookup_insert? added
  have free := Table.lookup_of_insert? added
  simp only [TaxiRow.inserted] at stored free
  refine ⟨?_, by simp [trips, taxiCoord, free]⟩
  ext1 <;> try rfl
  all_goals
    funext other
    by_cases same : other = taxi <;>
      simp [trips, Trips.register, customerIdOf, serviceOf, destOf, taxiCoord, stored, same,
        TaxiRow.coord]

/-! ### The queue -/

/-- An update of a taxi leaves the queue alone. -/
@[simp] theorem queueHead_updateTaxi (taxi : TaxiId) (update : TaxiRow → TaxiRow)
    (keeps : ∀ row, (update row).id = row.id) :
    (tables.updateTaxi now taxi update keeps).queueHead = tables.queueHead := rfl

/-- An update of a customer which leaves `in_queue` alone leaves the queue alone. -/
theorem queueHead_updateCustomer (customer : Id) (update : CustomerRow → CustomerRow)
    (keeps : ∀ row, (update row).id = row.id)
    (kept : ∀ row, (update row).inQueue = row.inQueue) :
    (tables.updateCustomer now customer update keeps).queueHead = tables.queueHead := by
  unfold queueHead queue updateCustomer
  have sameId (row : CustomerRow) : (row.stamped now update).id = row.id := by
    rw [CustomerRow.stamped_id, keeps]
  exact Table.map_argmin_modify CustomerRow.id _ _ _ _ _ sameId fun row => by simp [keeps, kept]

end Tables

/-- The `service` of a stored taxi row is read under its key. -/
theorem Tables.serviceOf_of_mem {tables : Tables} {row : TaxiRow} (member : row ∈ tables.taxis.rows) :
    tables.serviceOf row.id = row.service := by
  rw [serviceOf, Table.lookup_of_mem member]
  rfl

/-- Whom a stored taxi row carries is read under its key. -/
theorem Tables.customerIdOf_of_mem {tables : Tables} {row : TaxiRow}
    (member : row ∈ tables.taxis.rows) : tables.customerIdOf row.id = row.customerId := by
  rw [customerIdOf, Table.lookup_of_mem member]
  rfl

/-- The trips of a database are well formed, by its foreign keys. -/
theorem Db.trips_wellFormed (db : Db) : db.toTables.trips.WellFormed where
  taxiOfCarried := by
    intro taxi customer carried
    obtain ⟨row, found, _⟩ := Option.bind_eq_some_iff.mp carried
    simp [Tables.trips, Tables.taxiCoord, found]
  taxiOfService := by
    intro taxi customer service
    obtain ⟨row, found, _⟩ := Option.bind_eq_some_iff.mp service
    simp [Tables.trips, Tables.taxiCoord, found]
  customerOfCarried := by
    intro taxi customer carried
    obtain ⟨row, found, aboard⟩ := Option.bind_eq_some_iff.mp carried
    have stored := db.foreignKeys.customerId row (Table.mem_of_lookup found) customer aboard
    simpa [Tables.trips, Tables.customerCoord] using stored
  flagOfCustomer := by
    intro customer stored
    simpa [Tables.trips, Tables.customerCoord, Tables.onboardOf] using stored

end EasyCab
