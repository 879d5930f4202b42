import EasyCab.Central.Issued
import EasyCab.Central.System
import EasyCab.De.Reaches

/-!
# Destinations in the map

`readFile` stores only locations which lie in the map. No other coordinate is looked at before it
is stored or sent on: that of a new customer, that of a location which is moved, the one to which
the operator orders a taxi, and the position which a taxi reports for its customer. While the
consumed requests name squares of the map, every taxi is sent to a square of the map, and there
it arrives.
-/

namespace EasyCab

open Library

/-! ### The locations file -/

/-- What `ss >> id >> buffer >> x >> buffer >> y` reads from a line, and whether the query for it
meets an outage. -/
structure LocationLine where
  id : Id
  x : Int32
  y : Int32
  outage : Bool

namespace LocationLine

/-- The location of a line, if it is in the alphabet and in the map. -/
def location? (line : LocationLine) : Option LocationRow :=
  if line.id < 65 ∨ 90 < line.id ∨ line.x - 1 < 0 ∨ 19 < line.x - 1 ∨ line.y - 1 < 0 ∨
      19 < line.y - 1 then none
  else some ⟨line.id, line.x - 1, line.y - 1⟩

/-- `INSERT INTO locations … ON DUPLICATE KEY UPDATE x = {1}, y = {2}`. -/
def store (locations : Table LocationRow.id) (row : LocationRow) : Table LocationRow.id :=
  (locations.insert? row).getD
    (locations.modify row.id fun old => { old with x := row.x, y := row.y })

/-- The body of the loop of `readFile`. -/
def read (locations : Table LocationRow.id) (line : LocationLine) : Table LocationRow.id :=
  match line.location? with
  | none => locations
  | some row => if line.outage then locations else store locations row

end LocationLine

/-- The locations which `readFile` leaves in the empty table. -/
def readFile (lines : List LocationLine) : Table LocationRow.id :=
  lines.foldl LocationLine.read .empty

/-! ### Coordinates in the map -/

/-- Every coordinate which a partial function has is a square of the map. -/
def Within {Key : Type} (coordOf : Key → Option Coordinate) : Prop :=
  ∀ key coord, coordOf key = some coord → coord.InGrid

/-- Another coordinate of a key is to be a square of the map. -/
theorem Within.update {Key : Type} [DecidableEq Key] {coordOf : Key → Option Coordinate}
    {key : Key} {coord? : Option Coordinate} (within : Within coordOf)
    (inGrid : ∀ coord, coord? = some coord → coord.InGrid) :
    Within (Function.update coordOf key coord?) := by
  intro other coord found
  by_cases same : other = key
  · rw [same, Function.update_self] at found
    exact inGrid coord found
  · rw [Function.update_of_ne same] at found
    exact within other coord found

theorem inGrid_of_map {Value : Type} {value? : Option Value} {coord : Coordinate}
    (inGrid : coord.InGrid) (other : Coordinate) (found : (value?.map fun _ => coord) = some other) :
    other.InGrid := by
  obtain ⟨_, _, rfl⟩ := Option.map_eq_some_iff.mp found
  exact inGrid

/-- A stored line has its location in the map. -/
theorem LocationLine.location_inGrid {line : LocationLine} {row : LocationRow}
    (found : line.location? = some row) : row.coord.InGrid := by
  unfold location? at found
  split at found
  · cases found
  · next valid =>
    cases found
    simp only [not_or, Int32.not_lt] at valid
    obtain ⟨_, _, lowX, highX, lowY, highY⟩ := valid
    exact ⟨⟨lowX, highX⟩, lowY, highY⟩

/-- Every location which `readFile` stores lies in the map. -/
theorem readFile_inGrid (lines : List LocationLine) :
    ∀ location row, (readFile lines).lookup location = some row → row.coord.InGrid := by
  suffices kept : ∀ locations : Table LocationRow.id,
      (∀ location row, locations.lookup location = some row → row.coord.InGrid) →
        ∀ location row, (lines.foldl LocationLine.read locations).lookup location = some row →
          row.coord.InGrid from kept .empty (by simp)
  induction lines with
  | nil => exact fun _ inGrid => inGrid
  | cons line lines inductionHypothesis =>
      intro locations inGrid
      refine inductionHypothesis _ fun location row found => ?_
      unfold LocationLine.read at found
      cases read : line.location? with
      | none =>
          rw [read] at found
          exact inGrid location row found
      | some new =>
          have newInGrid : new.coord.InGrid := LocationLine.location_inGrid read
          simp only [read] at found
          split at found
          · exact inGrid location row found
          · unfold LocationLine.store at found
            cases inserted : locations.insert? new with
            | some next =>
                rw [inserted, Option.getD_some, Table.lookup_insert? inserted] at found
                split at found
                · cases found
                  exact newInGrid
                · exact inGrid location row found
            | none =>
                rw [inserted, Option.getD_none, Table.lookup_modify] at found
                split at found
                · obtain ⟨old, _, rfl⟩ := Option.map_eq_some_iff.mp found
                  exact newInGrid
                · exact inGrid location row found

/-- Taxis are sent to squares of the map, and customers and locations are on squares of the map. -/
structure Trips.OnGrid (trips : Trips) : Prop where
  dest : Within trips.dest
  customerAt : Within trips.customerAt
  placeAt : Within trips.placeAt

namespace Trips.OnGrid

variable {trips : Trips} {coord : Coordinate}

theorem assign (onGrid : trips.OnGrid) (taxi : TaxiId) (customer : Id) :
    (trips.assign taxi customer).OnGrid := by
  unfold Trips.assign
  cases found : trips.customerAt customer with
  | none => exact onGrid
  | some place =>
      have inGrid : place.InGrid := onGrid.customerAt customer place found
      exact ⟨onGrid.dest.update (inGrid_of_map inGrid), onGrid.customerAt, onGrid.placeAt⟩

theorem redirect (onGrid : trips.OnGrid) (taxi : TaxiId) (inGrid : coord.InGrid) :
    (trips.redirect taxi coord).OnGrid :=
  ⟨onGrid.dest.update (inGrid_of_map inGrid), onGrid.customerAt, onGrid.placeAt⟩

theorem moveCustomer (onGrid : trips.OnGrid) (customer : Id) (inGrid : coord.InGrid) :
    (trips.moveCustomer customer coord).OnGrid :=
  ⟨onGrid.dest, onGrid.customerAt.update (inGrid_of_map inGrid), onGrid.placeAt⟩

theorem movePlace (onGrid : trips.OnGrid) (location : Id) (inGrid : coord.InGrid) :
    (trips.movePlace location coord).OnGrid :=
  ⟨onGrid.dest, onGrid.customerAt, onGrid.placeAt.update (inGrid_of_map inGrid)⟩

theorem join (onGrid : trips.OnGrid) (customer : Id) (inGrid : coord.InGrid) :
    (trips.join customer coord).OnGrid := by
  refine ⟨onGrid.dest, onGrid.customerAt.update ?_, onGrid.placeAt⟩
  rintro other ⟨⟩
  exact inGrid

theorem leave (onGrid : trips.OnGrid) (customer : Id) : (trips.leave customer).OnGrid := by
  refine ⟨onGrid.dest, onGrid.customerAt.update ?_, onGrid.placeAt⟩
  rintro other ⟨⟩

theorem register (onGrid : trips.OnGrid) (taxi : TaxiId) : (trips.register taxi).OnGrid := by
  refine ⟨onGrid.dest.update ?_, onGrid.customerAt, onGrid.placeAt⟩
  rintro other ⟨⟩

/-- Operations which change none of the three columns keep them in the map. -/
theorem of_same {other : Trips} (onGrid : trips.OnGrid) (dest : other.dest = trips.dest)
    (customerAt : other.customerAt = trips.customerAt) (placeAt : other.placeAt = trips.placeAt) :
    other.OnGrid := by
  refine ⟨?_, ?_, ?_⟩
  · rw [dest]
    exact onGrid.dest
  · rw [customerAt]
    exact onGrid.customerAt
  · rw [placeAt]
    exact onGrid.placeAt

end Trips.OnGrid

/-! ### Requests -/

/-- The subjects whose coordinate is stored as that of a customer or a location, or sent on. -/
def SubjRequest.bringsCoord : SubjRequest → Bool
  | .newCustomer | .orderLocationMove | .orderTaxiGoTo | .taxiMove | .taxiDestinationReached => true
  | _ => false

namespace KafkaServer

variable {now : Timestamp} {session : Uuid} {request : Message} {subject : SubjRequest}

/-- The coordinates of the tables and of `response` are squares of the map. -/
structure OnMap (db : Db) (response : Message) : Prop where
  trips : db.trips.OnGrid
  coord : response.coord.InGrid

theorem update_maintains_onGrid {effect : Timestamp → Tables → Tables}
    (stays : ∀ now tables, tables.trips.OnGrid → (effect now tables).trips.OnGrid) :
    (Statement.update effect).Maintains fun db => db.trips.OnGrid := by
  refine Statement.maintains_update fun now db next stored onGrid => ?_
  rw [stored]
  exact stays now _ onGrid

/-- While the request brings no other coordinate, its statements leave everything in the map. -/
theorem Issued.maintains_onGrid {statement : Statement} (issued : Issued request subject statement)
    (brings : subject.bringsCoord → request.coord.InGrid) :
    statement.Maintains fun db => db.trips.OnGrid := by
  cases issued with
  | reads rows => exact Statement.maintains_select rows
  | readsQuoted chars rows =>
      exact Statement.maintains_quoting fun _ => Statement.maintains_select rows
  | inserted =>
      refine Statement.maintains_quoting fun _ =>
        Statement.maintains_insert fun now db next stored onGrid => ?_
      rw [(Tables.trips_insertCustomer stored).1]
      exact onGrid.join _ (brings rfl)
  | assigned taxi customer =>
      refine Statement.maintains_quoting fun _ => update_maintains_onGrid fun now tables onGrid => ?_
      rw [Tables.trips_assignTaxi]
      exact onGrid.assign taxi customer
  | deleted =>
      refine Statement.maintains_quoting fun _ => update_maintains_onGrid fun now tables onGrid => ?_
      rw [Tables.trips_deleteCustomer]
      exact onGrid.leave _
  | movedCustomer customer reports =>
      refine Statement.maintains_quoting fun _ => update_maintains_onGrid fun now tables onGrid => ?_
      rw [Tables.trips_moveCustomer]
      refine onGrid.moveCustomer customer (brings ?_)
      obtain rfl | rfl := reports <;> rfl
  | movedLocation =>
      refine Statement.maintains_quoting fun _ => update_maintains_onGrid fun now tables onGrid => ?_
      rw [Tables.trips_moveLocation]
      exact onGrid.movePlace _ (brings rfl)
  | redirected ordered =>
      refine update_maintains_onGrid fun now tables onGrid => ?_
      rw [Tables.trips_redirectTaxi]
      cases ordered with
      | goTo => exact onGrid.redirect _ (brings rfl)
      | base => exact onGrid.redirect _ (by decide)
  -- The other updates touch none of the three columns.
  | disconnected | pingedTaxi | moved | readied | waited | stopped | landed =>
      refine update_maintains_onGrid fun now tables onGrid => onGrid.of_same ?_ ?_ ?_ <;>
        simp [Tables.trips_setConnected, Tables.trips_pingTaxi, Tables.trips_setReady,
          Tables.trips_setWaitTime, Tables.trips_setStopped, Trips.moveTaxi]
  | pingedCustomer | flagged | carried | enqueued | destined | nextRequested | prioritized =>
      refine Statement.maintains_quoting fun _ =>
        update_maintains_onGrid fun now tables onGrid => onGrid.of_same ?_ ?_ ?_ <;>
        simp [Tables.trips_pingCustomer, Tables.trips_setInQueue, Tables.trips_setNextRequest,
          Trips.setOnboardFlag, Trips.carry, Trips.setDestination]

/-- While the request brings no other coordinate, everything stays in the map. -/
theorem onMap_keeps (brings : subject.bringsCoord → request.coord.InGrid) :
    Keeps request subject OnMap Coordinate.InGrid (·.coord.InGrid) where
  statements _ issued _ _ _ _ _ ran onMap :=
    ⟨issued.maintains_onGrid brings ran onMap.trips, onMap.coord⟩
  told := by
    rintro db response coord told onMap
    cases told with
    | dest stored => exact onMap.trips.dest _ _ stored
    | destination stored =>
        obtain ⟨location, _, placed⟩ := Option.bind_eq_some_iff.mp stored
        exact onMap.trips.placeAt location coord placed
    | ordered ordered =>
        cases ordered with
        | goTo => exact brings rfl
        | base => decide
  coord inGrid onMap := ⟨onMap.trips, inGrid⟩
  id onMap := ⟨onMap.trips, onMap.coord⟩
  taxiId onMap := ⟨onMap.trips, onMap.coord⟩
  subject onMap := ⟨onMap.trips, onMap.coord⟩
  data onMap := ⟨onMap.trips, onMap.coord⟩
  produced _ onMap := onMap.coord

end KafkaServer

/-- The query of `addTaxi` sends a taxi nowhere. -/
theorem AuthServer.addTaxi_maintains_onGrid (now : Timestamp) (session : Uuid) (taxiId : TaxiId)
    (reconnect : Bool) (outages : List Bool) {db : Db} (onGrid : db.trips.OnGrid) :
    (addTaxi now session taxiId reconnect outages db).db.trips.OnGrid := by
  have kept : (addTaxiStatement taxiId reconnect).Maintains fun db => db.trips.OnGrid := by
    cases reconnect with
    | true =>
        refine KafkaServer.update_maintains_onGrid fun now tables onGrid => ?_
        rwa [Tables.trips_setConnected]
    | false =>
        refine Statement.maintains_insert fun now db next stored onGrid => ?_
        rw [(Tables.trips_insertTaxi stored).1]
        exact onGrid.register taxiId
  exact DbConnectionHandler.query_maintains (List.forall_mem_singleton.mpr kept) onGrid

/-! ### Runs -/

namespace System

/-- What Central is seen to do on an event, also when it dies of it. -/
def acts (session : Uuid) (system : System) : Event → List Act
  | .addTaxi now taxiId reconnect outages =>
      let answer := AuthServer.addTaxi now session taxiId reconnect outages system.db
      answer.failures.map .failed ++ answer.value.toList.map .announce
  | .request now message outages =>
      (KafkaServer.process now session message).acts ⟨system.db, outages, system.response⟩

/-- The event brings no coordinate outside the map. -/
def Event.KeepsToMap (session : Uuid) : Event → Prop
  | .addTaxi .. => True
  | .request _ message _ => ∀ subject ∈ KafkaServer.accepted? session message,
      subject.bringsCoord → message.coord.InGrid

instance (session : Uuid) (event : Event) : Decidable (event.KeepsToMap session) := by
  unfold Event.KeepsToMap
  split <;> infer_instance

/-- Everything Central holds is in the map. -/
def OnMap (system : System) : Prop := KafkaServer.OnMap system.db system.response

variable {session : Uuid} {system next : System} {event : Event}

/-- A step on an event which keeps to the map leaves everything in the map. -/
theorem onMap_of_step (stepped : (machine session).step system event = some next)
    (keeps : event.KeepsToMap session) (onMap : system.OnMap) : next.OnMap := by
  cases stepped_of_step stepped with
  | added now taxiId reconnect outages =>
      exact ⟨AuthServer.addTaxi_maintains_onGrid now session taxiId reconnect outages onMap.trips,
        onMap.coord⟩
  | @consumed now message outages outcome ran =>
      cases accepted : KafkaServer.accepted? session message with
      | none =>
          rw [KafkaServer.process_dropped accepted ran]
          exact onMap
      | some subject =>
          have stays := @KafkaServer.process_keeps KafkaServer.OnMap Coordinate.InGrid
            (·.coord.InGrid) now session message subject ⟨system.db, outages, system.response⟩
            accepted (KafkaServer.onMap_keeps (keeps subject accepted)) ⟨onMap.trips, onMap.coord⟩
          simp only [Effect.Stays, ran] at stays
          exact stays.1

/-- All that is put on `responses` on such an event, also before Central dies of it, names a square
of the map. -/
theorem produced_inGrid (keeps : event.KeepsToMap session) (onMap : system.OnMap)
    {message : Message} (member : .produce message ∈ system.acts session event) :
    message.coord.InGrid := by
  cases event with
  | addTaxi now taxiId reconnect outages => simp [acts] at member
  | request now request outages =>
      simp only [acts] at member
      cases accepted : KafkaServer.accepted? session request with
      | none =>
          simp only [KafkaServer.process, accepted] at member
          cases member
      | some subject =>
          have stays := @KafkaServer.process_keeps KafkaServer.OnMap Coordinate.InGrid (·.coord.InGrid) now
            session request subject ⟨system.db, outages, system.response⟩ accepted
            (KafkaServer.onMap_keeps (keeps subject accepted)) ⟨onMap.trips, onMap.coord⟩
          exact stays.holds.2 _ member

/-- Central starts with everything in the map. -/
theorem onMap_start (lines : List LocationLine) : (start (readFile lines)).OnMap := by
  have base : Message.new.coord.InGrid := by decide
  refine ⟨⟨?_, ?_, ?_⟩, base⟩
  · rintro taxi coord ⟨⟩
  · rintro customer coord ⟨⟩
  · intro location coord placed
    obtain ⟨row, found, rfl⟩ := Option.map_eq_some_iff.mp placed
    exact readFile_inGrid lines location row found

end System

/-- In a run from the locations of a file in which no request that brings a coordinate brings one
from outside the map, whatever queries fail and also on the event of which Central dies, every taxi
is sent to a square of the map, and a taxi in the map gets there. -/
theorem destinations_attainable (session : Uuid) (lines : List LocationLine)
    (events : List System.Event) (last : System.Event) (system : System)
    (executed : (System.machine session).exec (System.start (readFile lines)) events = some system)
    (keep : ∀ event ∈ last :: events, event.KeepsToMap session) :
    ∀ message, .produce message ∈ system.acts session last →
      message.subject = .response .taxiGoTo →
        message.coord.InGrid ∧ message.coord.Attainable := by
  intro message member _
  rw [List.forall_mem_cons] at keep
  have onMap : system.OnMap :=
    Machine.exec_invariant System.OnMap
      (fun _ _ _ stepped keeps onMap => System.onMap_of_step stepped keeps onMap)
      (System.onMap_start lines) keep.2 executed
  have inGrid : message.coord.InGrid := System.produced_inGrid keep.1 onMap member
  exact ⟨inGrid, attainable_of_inGrid inGrid⟩

namespace Town

/-- The lines of `A` at (3, 4) and `J` at (7, 7), counted from one, and one which is left out. -/
def file : List LocationLine := [⟨65, 4, 5, false⟩, ⟨74, 8, 8, false⟩, ⟨90, 21, 1, false⟩]

/-- A taxi joins, and a customer registers at a place. -/
def registerAt (coord : Coordinate) : List System.Event := join 1 ++ [register 65 coord]

/-- Where the taxi is sent when the customer of `registerAt` asks to be taken to `J`. -/
def sentTo (coord : Coordinate) : List Coordinate :=
  match (System.machine session).exec (System.start (readFile file)) (registerAt coord) with
  | none => []
  | some system => (system.acts session (ask 65 74)).filterMap fun
      | .produce message =>
          if message.subject = .response .taxiGoTo then some message.coord else none
      | _ => none

theorem registerAt_executes (coord : Coordinate) (sent : sentTo coord ≠ []) :
    ∃ system, (System.machine session).exec (System.start (readFile file)) (registerAt coord) =
        some system ∧
      ∀ coord' ∈ sentTo coord, ∃ message, .produce message ∈ system.acts session (ask 65 74) ∧
        message.subject = .response .taxiGoTo ∧ message.coord = coord' := by
  unfold sentTo at sent ⊢
  cases executed : (System.machine session).exec (System.start (readFile file)) (registerAt coord) with
  | none => simp [executed] at sent
  | some system =>
      refine ⟨system, rfl, fun coord' member => ?_⟩
      obtain ⟨act, acted, found⟩ := List.mem_filterMap.mp member
      cases act with
      | produce message =>
          simp only [Option.ite_none_right_eq_some, Option.some.injEq] at found
          exact ⟨message, acted, found⟩
      | _ => cases found

end Town

/-- A customer in the map is reached. -/
theorem customer_attained :
    Town.sentTo ⟨1, 1⟩ = [⟨1, 1⟩] ∧
      ∃ system, (System.machine Town.session).exec (System.start (readFile Town.file))
          (Town.registerAt ⟨1, 1⟩) = some system ∧
        ∀ message, .produce message ∈ system.acts Town.session (Town.ask 65 74) →
          message.subject = .response .taxiGoTo →
            message.coord.InGrid ∧ message.coord.Attainable := by
  obtain ⟨system, executed, _⟩ := Town.registerAt_executes ⟨1, 1⟩ (by decide +kernel)
  exact ⟨by decide +kernel, system, executed,
    destinations_attainable Town.session Town.file _ _ system executed (by decide +kernel)⟩

/-- A taxi is sent to a customer who registered outside the map. -/
theorem customer_outside_map :
    ¬ ∀ (session : Uuid) (lines : List LocationLine) (events : List System.Event)
        (last : System.Event) (system : System),
      (System.machine session).exec (System.start (readFile lines)) events = some system →
      ∀ message, .produce message ∈ system.acts session last →
        message.subject = .response .taxiGoTo →
          message.coord.InGrid ∧ message.coord.Attainable := by
  intro claimed
  have sent : Town.sentTo ⟨50, 50⟩ = [⟨50, 50⟩] := by decide +kernel
  obtain ⟨system, executed, sends⟩ := Town.registerAt_executes ⟨50, 50⟩ (by simp [sent])
  obtain ⟨message, produced, ordered, outside⟩ := sends ⟨50, 50⟩ (by simp [sent])
  have inGrid : message.coord.InGrid :=
    (claimed Town.session Town.file _ _ system executed message produced ordered).1
  rw [outside] at inGrid
  revert inGrid
  decide

end EasyCab
