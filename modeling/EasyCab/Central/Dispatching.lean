import EasyCab.Central.Aftermath
import EasyCab.Central.Dispatcher
import EasyCab.Central.Leftovers
import EasyCab.Central.Petitions

/-!
# Central is a dispatcher

The tables are the books of a dispatcher, a consumed request is a call and a response a word. Every
step of Central in which every query succeeds is a step of the dispatcher, so every such run is one
of its paths, with all the responses of Central as what was said. The law of boarding is inherited
from there.
-/

namespace EasyCab

open Library

/-- The books which Central keeps. -/
abbrev Office := Dispatcher TaxiId Id Id Coordinate Timestamp

/-- What Central is called for. A token is the session of a registration. -/
abbrev Call.Central := Call TaxiId Id Id Coordinate Timestamp (List UInt8)

/-- What Central says. -/
abbrev Word.Central := Word TaxiId Id Coordinate (List UInt8)

/-- The books kept in the columns of the tables. -/
def Trips.office (trips : Trips) (waits : Id → Option Timestamp) (connected : TaxiId → Option Bool) :
    Office where
  aboard := trips.carried
  serves := trips.service
  heading := trips.dest
  taxiAt := trips.taxiAt
  connected := connected
  customerAt := trips.customerAt
  wants := trips.wants
  waits := waits
  placeAt := trips.placeAt

/-- The books which the tables describe. -/
def Tables.office (tables : Tables) : Office :=
  tables.trips.office tables.inQueueOf tables.connectedOf

/-- The word which a response is, for those whom it addresses. -/
def Message.word? (message : Message) : Option Word.Central :=
  match message.subject with
  | .response .taxiGoTo => some (.goTo message.taxiId message.coord)
  | .response .taxiStop => some (.stop message.taxiId)
  | .response .taxiContinue => some (.goOn message.taxiId)
  | .response .taxiDisconnect => some (.dismissed message.taxiId)
  | .response .customerServiceAccepted => some (.accepted message.id message.taxiId)
  | .response .customerEnqueued => some (.enqueued message.id)
  | .response .customerPickedUp => some (.pickedUp message.id)
  | .response .customerServiceDenied => some (.denied message.id)
  | .response .customerServiceCompleted => some (.completed message.id)
  | .response .customerPriority => some (.favoured message.id)
  | .response .customerDisconnect => some (.parted message.id)
  | .response .accept => some (.admitted message.session)
  | .response .deny => some (.refused message.session)
  | _ => none

/-- The words among some acts. -/
def Act.words (acts : List Act) : List Word.Central := (Act.responses acts).filterMap Message.word?

/-- The call which a request is. -/
def SubjRequest.call (now : Timestamp) (request : Message) : SubjRequest → Call.Central
  | .newTaxi | .taxiReconnected => .taxiArrives request.taxiId
  | .orderCustomerDisconnect => .parts request.id
  | .orderTaxiDisconnect => .dismisses request.taxiId
  | .newCustomer => .joins request.id request.coord request.session
  | .taxiDestinationReached => .taxiReaches request.taxiId request.coord
  | .taxiMove => .taxiDrives request.taxiId request.coord
  | .customerServiceRequest => .asks request.id request.charFromData now
  | .orderTaxiReturnToBase => .redirects request.taxiId ⟨0, 0⟩
  | .orderTaxiGoTo => .redirects request.taxiId request.coord
  | .orderTaxiStop => .stops request.taxiId
  | .orderTaxiContinue => .continues request.taxiId
  | .orderLocationMove => .placeMoves request.id request.coord
  | .orderCustomerPriority => .favours request.id
  | _ => .chat

namespace Trips

variable (trips : Trips) (waits : Id → Option Timestamp) (connected : TaxiId → Option Bool)
  (taxi : TaxiId) (customer : Id) (coord : Coordinate)

/-! ### Operations on trips are operations on the books -/

theorem office_assign : (trips.assign taxi customer).office waits connected =
    (trips.office waits connected).send taxi customer := by
  unfold assign Dispatcher.send
  cases at_ : trips.customerAt customer <;> simp [office, at_]

theorem office_drive : (trips.drive taxi coord).office waits connected =
    (trips.office waits connected).drive taxi coord := by
  unfold drive
  cases aboard : trips.carried taxi <;>
    simp [office, aboard, moveTaxi, moveCustomer, Dispatcher.drive]

theorem office_setOnboard (val : Bool) : (trips.setOnboard customer taxi val).office waits connected =
    (trips.office waits connected).carry taxi (if val then some customer else none) := rfl

theorem office_redirect : ((trips.redirect taxi coord).landNamesake taxi).office waits connected =
    ((trips.office waits connected).carry taxi none).head taxi coord := by
  unfold landNamesake
  cases Tables.charOfTaxiId? taxi <;> rfl

end Trips

namespace Tables

variable {tables next : Tables} {now : Timestamp} {taxi : TaxiId} {customer : Id}
  {coord : Coordinate}

/-! ### Statements are operations on the books -/

/-- The books by the trips, the queue and who is connected. -/
theorem office_eq {trips : Trips} (trips_eq : next.trips = trips)
    (waits : ∀ other, next.inQueueOf other = tables.inQueueOf other)
    (connected : ∀ other, next.connectedOf other = tables.connectedOf other) :
    next.office = trips.office tables.inQueueOf tables.connectedOf := by
  rw [office, trips_eq, funext waits, funext connected]

/-- An update of a taxi which leaves `connected` alone leaves every taxi as connected as it was. -/
theorem connectedOf_updateTaxi (update : TaxiRow → TaxiRow) {keeps : ∀ row, (update row).id = row.id}
    (kept : ∀ row, (update row).connected = row.connected) (other : TaxiId) :
    (tables.updateTaxi now taxi update keeps).connectedOf other = tables.connectedOf other :=
  taxiColumn_updateTaxi_kept (fun _ _ => rfl) kept

theorem connectedOf_moveTaxi (other : TaxiId) :
    (tables.moveTaxi now taxi coord).connectedOf other = tables.connectedOf other :=
  connectedOf_updateTaxi (fun row =>
    { row with x := coord.x, y := coord.y }) (fun _ => rfl) other

theorem connectedOf_setCustomerId {passenger : Option Id} (other : TaxiId) :
    (tables.setCustomerId now taxi passenger).connectedOf other = tables.connectedOf other :=
  connectedOf_updateTaxi (fun row =>
    { row with customerId := passenger }) (fun _ => rfl) other

theorem connectedOf_redirectTaxi (other : TaxiId) :
    (tables.redirectTaxi now taxi coord).connectedOf other = tables.connectedOf other :=
  connectedOf_updateTaxi (fun row =>
    { row with destX := some coord.x, destY := some coord.y, customerId := none }) (fun _ => rfl) other

theorem office_assignTaxi :
    (tables.assignTaxi now taxi customer).office = tables.office.send taxi customer := by
  have connected (other : TaxiId) :
      (tables.assignTaxi now taxi customer).connectedOf other = tables.connectedOf other := by
    unfold assignTaxi
    cases tables.customers.lookup customer with
    | none => rfl
    | some row =>
        exact connectedOf_updateTaxi (fun taxiRow =>
          { taxiRow with destX := some row.x, destY := some row.y, service := some customer })
          (fun _ => rfl) other
  rw [office_eq (trips_assignTaxi taxi customer) (fun _ => KafkaServer.inQueueOf_assignTaxi)
    connected, Trips.office_assign]
  rfl

theorem office_movedTables : (KafkaServer.movedTables now taxi coord (tables.customerIdOf taxi)
    tables).office = tables.office.drive taxi coord := by
  have waits (other : Id) : (KafkaServer.movedTables now taxi coord (tables.customerIdOf taxi)
      tables).inQueueOf other = tables.inQueueOf other := by
    unfold KafkaServer.movedTables
    cases tables.customerIdOf taxi with
    | none => rfl
    | some passenger => exact KafkaServer.inQueueOf_updateCustomer _ _ fun _ => rfl
  have connected (other : TaxiId) : (KafkaServer.movedTables now taxi coord
      (tables.customerIdOf taxi) tables).connectedOf other = tables.connectedOf other := by
    unfold KafkaServer.movedTables
    cases tables.customerIdOf taxi <;> exact connectedOf_moveTaxi other
  rw [office_eq KafkaServer.trips_movedTables waits connected, Trips.office_drive]
  rfl

theorem office_onboardTables {val : Bool} :
    (KafkaServer.onboardTables now customer taxi val tables).office =
      tables.office.carry taxi (if val then some customer else none) := by
  have waits (other : Id) : (KafkaServer.onboardTables now customer taxi val tables).inQueueOf other =
      tables.inQueueOf other := by
    unfold KafkaServer.onboardTables setOnboardFlag
    exact KafkaServer.inQueueOf_updateCustomer (fun row => { row with onboard := val }) (fun _ => rfl)
      fun _ => rfl
  have connected (other : TaxiId) :
      (KafkaServer.onboardTables now customer taxi val tables).connectedOf other =
        tables.connectedOf other :=
    connectedOf_setCustomerId other
  rw [office_eq KafkaServer.trips_onboardTables waits connected, Trips.office_setOnboard]
  rfl

theorem office_redirectTaxi : ((tables.redirectTaxi now taxi coord).landNamesake now taxi).office =
    (tables.office.carry taxi none).head taxi coord := by
  have waits (other : Id) : ((tables.redirectTaxi now taxi coord).landNamesake now taxi).inQueueOf
      other = tables.inQueueOf other := by
    unfold landNamesake
    cases charOfTaxiId? taxi with
    | none => rfl
    | some namesake =>
        exact KafkaServer.inQueueOf_updateCustomer (fun row => { row with onboard := false })
          (fun _ => rfl) fun _ => rfl
  have connected (other : TaxiId) :
      ((tables.redirectTaxi now taxi coord).landNamesake now taxi).connectedOf other =
        tables.connectedOf other := by
    unfold landNamesake
    cases charOfTaxiId? taxi <;> exact connectedOf_redirectTaxi other
  rw [office_eq ((trips_landNamesake taxi).trans
    (congrArg (Trips.landNamesake · taxi) (trips_redirectTaxi taxi coord))) waits connected,
    Trips.office_redirect]
  rfl

theorem office_setInQueue {since : Option Timestamp} :
    (tables.setInQueue now customer since).office = tables.office.wait customer since := by
  have waits : (tables.setInQueue now customer since).inQueueOf =
      Function.update tables.inQueueOf customer
        ((tables.customerCoord customer).bind fun _ => since) := by
    funext other
    rw [inQueueOf_setInQueue]
    by_cases same : other = customer
    · subst same
      cases found : tables.customers.lookup other <;> simp [customerCoord, found]
    · rw [if_neg same, Function.update_of_ne same]
  rw [office, trips_setInQueue, waits]
  rfl

theorem office_setDestination {location : Id} :
    (tables.setDestination now customer location).office = tables.office.setWish customer location := by
  have waits (other : Id) :
      (tables.setDestination now customer location).inQueueOf other = tables.inQueueOf other :=
    KafkaServer.inQueueOf_updateCustomer (fun row => { row with destination := some location })
      (fun _ => rfl) fun _ => rfl
  rw [office_eq (trips_setDestination customer location) waits fun _ => rfl]
  rfl

theorem office_moveLocation {location : Id} :
    (tables.moveLocation location coord).office = tables.office.movePlace location coord := by
  rw [office_eq (trips_moveLocation location coord) (fun _ => rfl) fun _ => rfl]
  rfl

theorem office_setConnected {value : Bool} :
    (tables.setConnected now taxi value).office = tables.office.setConnected taxi value := by
  have connected : (tables.setConnected now taxi value).connectedOf =
      Function.update tables.connectedOf taxi ((tables.connectedOf taxi).map fun _ => value) := by
    funext other
    rw [KafkaServer.connectedOf_setConnected]
    by_cases same : other = taxi
    · rw [same, if_pos rfl, Function.update_self]
    · rw [if_neg same, Function.update_of_ne same]
  rw [office, trips_setConnected, connected]
  rfl

theorem office_deleteCustomer :
    (tables.deleteCustomer customer).office = tables.office.leave customer := by
  have waits : (tables.deleteCustomer customer).inQueueOf =
      Function.update tables.inQueueOf customer none := by
    funext other
    by_cases same : other = customer <;> simp [inQueueOf, deleteCustomer, same]
  rw [office, trips_deleteCustomer, waits]
  rfl

theorem office_insertCustomer (inserted : tables.insertCustomer now customer coord = some next) :
    next.office = tables.office.join customer coord ∧ tables.customerCoord customer = none := by
  obtain ⟨trips, free⟩ := trips_insertCustomer inserted
  refine ⟨?_, free⟩
  have waits : next.inQueueOf = Function.update tables.inQueueOf customer none := by
    obtain ⟨customers, added, rfl⟩ := Option.map_eq_some_iff.mp inserted
    funext other
    have stored : customers.lookup other =
        if other = customer then some (CustomerRow.inserted now customer coord)
        else tables.customers.lookup other := Table.lookup_insert? added other
    by_cases same : other = customer
    · subst same
      rw [Function.update_self, inQueueOf, stored, if_pos rfl]
      rfl
    · rw [Function.update_of_ne same, inQueueOf, stored, if_neg same]
      rfl
  have connected : next.connectedOf = tables.connectedOf := by
    obtain ⟨customers, added, rfl⟩ := Option.map_eq_some_iff.mp inserted
    rfl
  rw [office, trips, waits, connected]
  rfl

theorem office_insertTaxi (inserted : tables.insertTaxi now taxi = some next) :
    next.office = tables.office.register taxi ⟨0, 0⟩ ∧ tables.taxiCoord taxi = none := by
  obtain ⟨trips, free⟩ := trips_insertTaxi inserted
  refine ⟨?_, free⟩
  have waits : next.inQueueOf = tables.inQueueOf := by
    obtain ⟨taxis, added, rfl⟩ := Option.map_eq_some_iff.mp inserted
    rfl
  have connected : next.connectedOf = Function.update tables.connectedOf taxi (some true) := by
    funext other
    have column : next.connectedOf other =
        if other = taxi then some true else tables.connectedOf other :=
      taxiColumn_insertTaxi inserted
    rw [column]
    by_cases same : other = taxi
    · rw [same, if_pos rfl, Function.update_self]
    · rw [if_neg same, Function.update_of_ne same]
  rw [office, trips, waits, connected]
  rfl

/-! ### Choices -/

/-- Nobody waits where the queue has no head. -/
theorem office_idle (empty : tables.queueHead = none) : tables.office.Idle := by
  intro customer
  have nobody : tables.queue = [] := by simpa [queueHead] using empty
  change tables.inQueueOf customer = none
  cases found : tables.customers.lookup customer with
  | none => simp [inQueueOf, found]
  | some row =>
      have out := List.filter_eq_nil_iff.mp nobody row (Table.mem_of_lookup found)
      simpa [inQueueOf, found] using out

/-- Nobody waits longer than the head of the queue. -/
theorem office_longest (head : tables.queueHead = some customer) : tables.office.Longest customer := by
  obtain ⟨row, least, rfl⟩ := Option.map_eq_some_iff.mp head
  have member := List.argmin_mem least
  rw [queue, List.mem_filter] at member
  obtain ⟨since, waits⟩ := Option.isSome_iff_exists.mp member.2
  have own : tables.inQueueOf row.id = some since := by
    simp [inQueueOf, Table.lookup_of_mem member.1, waits]
  refine ⟨since, own, fun other time waiting => ?_⟩
  change tables.inQueueOf other = some time at waiting
  obtain ⟨found, stored, queued⟩ := Option.bind_eq_some_iff.mp waiting
  have among : found ∈ tables.queue :=
    List.mem_filter.mpr ⟨Table.mem_of_lookup stored, by simp [queued]⟩
  have first := List.le_of_mem_argmin among least
  simpa [waits, queued] using first

/-- No taxi is connected where none is available. -/
theorem office_unconnected (none : tables.available = none) (taxi : TaxiId) :
    tables.office.connected taxi ≠ some true := by
  intro connected
  obtain ⟨row, found, linked⟩ := Option.map_eq_some_iff.mp connected
  have nobody : tables.taxis.rows.filter (fun row => row.connected && passesWait row.waitTime) = [] := by
    simpa [available] using none
  have out := List.filter_eq_nil_iff.mp nobody row (Table.mem_of_lookup found)
  simp [linked] at out

/-- An available taxi is connected. -/
theorem office_connected (found : tables.available = some taxi) :
    tables.office.connected taxi = some true := by
  obtain ⟨row, first, rfl⟩ := Option.map_eq_some_iff.mp found
  have member := List.mem_of_head? first
  rw [List.mem_filter] at member
  have linked : row.connected = true := by simpa using member.2
  change tables.connectedOf row.id = some true
  simp [connectedOf, Table.lookup_of_mem member.1, linked]

end Tables

/-! ### Requests are calls -/

section Requests

variable {now : Timestamp} {session : Uuid} {before after : KafkaServer} {request : Message}
  {subject : SubjRequest} {acts : List Act}

theorem Act.words_append (first second : List Act) :
    Act.words (first ++ second) = Act.words first ++ Act.words second := by
  rw [words, responses_append, List.filterMap_append]
  rfl

namespace KafkaServer

/-- `assign` sends a taxi to a customer and says so to both. -/
theorem Assigned.sends {taxi : TaxiId} {customer : Id}
    (assigned : Assigned now taxi customer before after acts) :
    after.db.office = before.db.office.send taxi customer ∧
      ∃ position, (before.db.office.send taxi customer).heading taxi = some position ∧
        Act.words acts = [.goTo taxi position, .accepted customer taxi] ∧
        Act.words [.produce after.response] = [.accepted customer taxi] := by
  obtain ⟨coord, stored, response⟩ := assigned.sent
  have sent : after.db.office = before.db.office.send taxi customer := by
    rw [assigned.tables, Tables.office_assignTaxi]
  refine ⟨sent, coord, ?_, ?_, ?_⟩
  · rw [← sent]
    exact stored
  · rw [assigned.acts, response]
    rfl
  · rw [response]
    rfl

/-- The books take no note of a statement which answers nobody. -/
theorem serves_silent {effect : Tables → Tables}
    (kind : silentEffect now request subject = some effect) (tables : Tables) :
    Dispatcher.Serves ⟨0, 0⟩ tables.office (subject.call now request) (effect tables).office [] := by
  have chat {next : Tables} (trips : next.trips = tables.trips)
      (waits : ∀ other, next.inQueueOf other = tables.inQueueOf other)
      (connected : ∀ other, next.connectedOf other = tables.connectedOf other) :
      Dispatcher.Serves ⟨0, 0⟩ tables.office (Call.chat : Call.Central) next.office [] := by
    rw [Tables.office_eq trips waits connected]
    exact .chats
  cases subject <;> simp only [silentEffect, Option.some.injEq, reduceCtorEq] at kind <;> subst kind
  case taxiPing =>
    exact chat (Tables.trips_pingTaxi _) (fun _ => rfl)
      (Tables.connectedOf_updateTaxi (fun row => { row with lastUpdate := now }) fun _ => rfl)
  case taxiReady =>
    exact chat (Tables.trips_setReady _ _) (fun _ => rfl)
      (Tables.connectedOf_updateTaxi (fun row => { row with ready := true }) fun _ => rfl)
  case taxiNotReady =>
    exact chat (Tables.trips_setReady _ _) (fun _ => rfl)
      (Tables.connectedOf_updateTaxi (fun row => { row with ready := false }) fun _ => rfl)
  case customerPing =>
    exact chat (Tables.trips_pingCustomer _)
      (fun _ => inQueueOf_updateCustomer (fun row => { row with lastUpdate := now })
        (fun _ => rfl) fun _ => rfl) fun _ => rfl
  case customerUpdateNextRequest =>
    exact chat (Tables.trips_setNextRequest _ _)
      (fun _ => inQueueOf_updateCustomer (fun row =>
        { row with nextRequest := request.intFromData }) (fun _ => rfl) fun _ => rfl) fun _ => rfl
  case taxiUpdateWaitTime =>
    exact chat (Tables.trips_setWaitTime _ _) (fun _ => rfl)
      (Tables.connectedOf_updateTaxi (fun row =>
        { row with
          waitTime := request.intFromData
          ready := decide (request.intFromData = 0) }) fun _ => rfl)
  case orderLocationMove =>
    rw [Tables.office_moveLocation]
    exact .movesPlace _ _

/-- A flag of a taxi is switched and the taxi hears of it. -/
theorem serves_flag {effect : Tables → Tables} {answer : SubjResponse}
    (kind : flagEffect now request subject = some (effect, answer)) (tables : Tables)
    (response : Message) :
    Dispatcher.Serves ⟨0, 0⟩ tables.office (subject.call now request) (effect tables).office
      (Act.words [.produce { response with
        taxiId := request.taxiId, subject := .response answer }]) := by
  have kept (value : Bool) :
      (tables.setStopped now request.taxiId value).office = tables.office :=
    Tables.office_eq (Tables.trips_setStopped _ _) (fun _ => rfl)
      (Tables.connectedOf_updateTaxi (fun row => { row with stopped := value }) fun _ => rfl)
  cases subject <;> simp only [flagEffect, Option.some.injEq, Prod.mk.injEq, reduceCtorEq] at kind <;>
    obtain ⟨rfl, rfl⟩ := kind
  case orderTaxiDisconnect =>
    rw [Tables.office_setConnected]
    exact .dismisses _
  case orderTaxiStop =>
    rw [kept]
    exact .stops _
  case orderTaxiContinue =>
    rw [kept]
    exact .continues _

/-- The switch answers a request as a dispatcher answers the call. -/
theorem Handled.serves (handled : Handled now session before request subject after acts) :
    Dispatcher.Serves ⟨0, 0⟩ before.db.office (subject.call now request) after.db.office
      (Act.words acts) := by
  cases handled with
  | ignored code undeclared kind db response recorded =>
      subst kind recorded
      rw [db]
      exact .chats
  | arrivedIdle kind empty db response recorded =>
      subst recorded
      rw [db]
      rcases kind with rfl | rfl <;> exact .welcomes _ (Tables.office_idle empty)
  | arrivedAssigned customer kind head assigned =>
      obtain ⟨sent, position, heading, said, _⟩ := assigned.sends
      rw [sent]
      have longest := Tables.office_longest head
      rcases kind with rfl | rfl <;>
        exact .sends _ customer longest ⟨position, 0, heading, said⟩
  | silent effect kind db response recorded =>
      subst recorded
      rw [db]
      exact serves_silent kind before.db.toTables
  | flagged effect answer kind db response recorded =>
      subst recorded
      rw [db, response]
      exact serves_flag kind before.db.toTables before.response
  | deleted kind db response recorded =>
      subst kind recorded
      rw [db, response, Tables.office_deleteCustomer]
      exact .parts _
  | prioritized kind db response recorded =>
      subst kind recorded
      rw [db, response, Tables.office_setInQueue]
      exact .favours _
  | denied kind taken db response recorded =>
      subst kind recorded
      rw [db, response]
      obtain ⟨row, found⟩ := taken
      refine .refuses _ _ _ ?_
      change (before.db.customerCoord request.id).isSome
      simp [Tables.customerCoord, found]
  | accepted kind db response recorded =>
      subst kind recorded
      obtain ⟨joined, free⟩ := Tables.office_insertCustomer db
      rw [joined, response]
      exact .admits _ _ _ free
  | moved kind db response recorded =>
      subst kind recorded
      rw [db, Tables.office_movedTables]
      exact .drives _ _
  | completed customer kind carried db empty response recorded =>
      subst kind recorded
      rw [← carried] at db
      rw [db, response, Tables.office_onboardTables, Tables.office_movedTables]
      exact .lands _ _ customer carried (Tables.office_idle empty)
  | completedAssigned customer next middle later kind carried db head response assigned recorded =>
      subst kind recorded
      rw [← carried] at db
      obtain ⟨sent, position, heading, said, _⟩ := assigned.sends
      rw [db, Tables.office_onboardTables, Tables.office_movedTables] at sent heading
      have told : Act.words (.produce middle.response :: later) =
          .completed customer :: Act.words later := by
        rw [response]
        rfl
      rw [sent, told]
      exact .landsAndSends _ _ customer next carried (Tables.office_longest head)
        ⟨position, 0, heading, said⟩
  | pickUpDenied customer kind empty service nowhere db response recorded =>
      subst kind recorded
      rw [← empty] at db
      rw [db, response, Tables.office_onboardTables, Tables.office_movedTables]
      exact .boardsLost _ _ customer empty service nowhere
  | pickedUp customer coord kind empty service destination db response recorded =>
      subst kind recorded
      rw [← empty] at db
      rw [db, response, Tables.office_onboardTables, Tables.office_movedTables]
      exact .boards _ _ customer coord empty service destination
  | enqueued kind none db response recorded =>
      subst kind recorded
      rw [db, response, Tables.office_setInQueue]
      exact .queues _ _ _ (Tables.office_unconnected none)
  | requestAssigned taxi middle earlier kind found db response assigned recorded =>
      subst kind recorded
      obtain ⟨sent, position, heading, said, again⟩ := assigned.sends
      rw [db, Tables.office_setDestination] at sent heading
      rw [sent, Act.words_append, said, again]
      exact .accepts _ _ _ taxi (Tables.office_connected found) ⟨position, 1, heading, rfl⟩
  | redirected coord kind db response recorded =>
      subst recorded
      rw [db, response, Tables.office_redirectTaxi]
      cases subject <;> simp only [redirection?, Option.some.injEq, reduceCtorEq] at kind <;>
        subst kind <;> exact .redirects _ _

/-- What `assign` puts on `responses` is words, and so is the message which it leaves. -/
theorem Assigned.worded {taxi : TaxiId} {customer : Id}
    (assigned : Assigned now taxi customer before after acts) :
    (∀ message ∈ Act.responses acts, (message.word?).isSome) ∧ (after.response.word?).isSome := by
  obtain ⟨coord, _, response⟩ := assigned.sent
  simp [assigned.acts, response, Message.word?]

/-- Every response of Central is a word. -/
theorem Handled.worded (handled : Handled now session before request subject after acts) :
    ∀ message ∈ Act.responses acts, (message.word?).isSome := by
  cases handled with
  | ignored _ _ _ _ _ recorded | arrivedIdle _ _ _ _ recorded | silent _ _ _ _ recorded
    | moved _ _ _ recorded => simp [recorded]
  | arrivedAssigned customer _ _ assigned => exact assigned.worded.1
  | flagged effect answer kind _ response recorded =>
      cases subject <;> simp only [flagEffect, Option.some.injEq, Prod.mk.injEq, reduceCtorEq] at kind <;>
        obtain ⟨rfl, rfl⟩ := kind <;> simp [recorded, response, Message.word?]
  | deleted _ _ response recorded | prioritized _ _ response recorded
    | denied _ _ _ response recorded | completed _ _ _ _ _ response recorded
    | pickUpDenied _ _ _ _ _ _ response recorded | enqueued _ _ _ response recorded
    | redirected _ _ _ response recorded => simp [recorded, response, Message.word?]
  | accepted _ _ response recorded => simp [recorded, response, Message.word?, Message.setUuidData]
  | completedAssigned _ _ _ _ _ _ _ _ response assigned recorded =>
      have later := assigned.worded.1
      simp only [Act.mem_responses_iff] at later
      simpa [recorded, response, Message.word?] using later
  | pickedUp _ _ _ _ _ _ _ response recorded => simp [recorded, response, Message.word?]
  | requestAssigned _ _ _ _ _ _ _ assigned recorded =>
      obtain ⟨earlier, again⟩ := assigned.worded
      simp only [Act.mem_responses_iff] at earlier
      simpa [recorded, or_imp, forall_and, again] using earlier

end KafkaServer

end Requests

/-! ### Runs are paths -/

namespace CentralStep

variable {session : Uuid} {taken : CentralStep}

/-- The call which a step answers. What the loop drops calls for nothing. -/
def call (session : Uuid) (taken : CentralStep) : Call.Central :=
  match taken.event with
  | .addTaxi _ taxi reconnect _ => if reconnect then .taxiReturns taxi else .taxiRegisters taxi
  | .request now message _ =>
      match KafkaServer.accepted? session message with
      | none => .chat
      | some subject => subject.call now message

/-- What a step says. -/
def words (taken : CentralStep) : List Word.Central := taken.responses.filterMap Message.word?

/-- A registration, or what the loop drops, is answered with silence. -/
theorem serves_of_silent {now : Timestamp} {taxi : TaxiId} {reconnect : Bool}
    (tables : AuthServer.addedTables now taxi reconnect taken.before.db.toTables =
      some taken.after.db.toTables) :
    Dispatcher.Serves ⟨0, 0⟩ taken.before.db.office
      (if reconnect then .taxiReturns taxi else .taxiRegisters taxi : Call.Central)
      taken.after.db.office [] := by
  unfold AuthServer.addedTables at tables
  cases reconnect with
  | true =>
      rw [if_pos rfl, Option.some.injEq] at tables
      rw [← tables, Tables.office_setConnected]
      exact .reconnects taxi
  | false =>
      obtain ⟨registered, free⟩ := Tables.office_insertTaxi tables
      rw [registered]
      exact .registers taxi free

/-- A step of Central in which every query succeeds is a step of the dispatcher, and whatever it
puts on `responses` is a word. -/
theorem serves_of_step
    (stepped : (System.machine session).step taken.before taken.event = some taken.after)
    (succeeds : taken.Succeeds) :
    Dispatcher.Serves ⟨0, 0⟩ taken.before.db.office (taken.call session) taken.after.db.office
        taken.words ∧
      ∀ message ∈ taken.responses, (message.word?).isSome := by
  cases event : taken.event with
  | addTaxi now taxi reconnect outages =>
      cases taken_of_step stepped succeeds with
      | dropped _ _ added => simp [added?, event] at added
      | treated _ _ _ _ _ _ _ asked => simp [request?, event] at asked
      | added _ _ _ _ tables _ trace added =>
          simp only [added?, event, Option.some.injEq, Prod.mk.injEq] at added
          obtain ⟨rfl, rfl⟩ := added
          have grows : taken.after.trace = [_] ++ taken.before.trace := trace
          have silent : taken.responses = [] := by
            rw [responses, recorded_append grows]
            rfl
          rw [call, event, words, silent]
          exact ⟨serves_of_silent tables, List.forall_mem_nil _⟩
  | request now message outages =>
      obtain ⟨before, _, after⟩ := taken
      subst event
      change System.step session before (.request now message outages) = some after at stepped
      cases System.stepped_of_step stepped with
      | @consumed _ _ _ outcome ran =>
          cases accepted : KafkaServer.accepted? session message with
          | none =>
              rw [KafkaServer.process_dropped accepted ran]
              simp only [call, accepted]
              have silent : responses ⟨before, .request now message outages,
                  ⟨before.db, before.response, [].reverse ++ before.trace⟩⟩ = [] := by
                rw [responses, recorded_append rfl]
                rfl
              rw [words, silent]
              exact ⟨.chats, List.forall_mem_nil _⟩
          | some subject =>
              have clean : ∀ act ∈ outcome.acts, ¬ act.IsFailure := by
                intro act member
                apply succeeds act
                rw [recorded_append rfl]
                exact List.mem_reverse.mpr member
              obtain ⟨handled, acts, maps, outages', treats, rfl⟩ :=
                KafkaServer.process_yields accepted ⟨ran, clean⟩
              simp only [call, accepted]
              have said : responses ⟨before, .request now message outages, ⟨handled.db,
                  handled.response, (.handled message :: (acts ++ maps.map .publishMap)).reverse ++
                    before.trace⟩⟩ = Act.responses acts := by
                have trace : (Act.handled message :: (acts ++ maps.map .publishMap)).reverse ++
                    before.trace = maps.reverse.map .publishMap ++
                      (acts.reverse ++ .handled message :: before.trace) := by simp
                exact responses_of_treated trace
              rw [words, said]
              exact ⟨treats.serves, treats.worded⟩

end CentralStep

namespace System

variable {session : Uuid} {locations : Table LocationRow.id} {events : List Event}

/-- What the steps of a run put on `responses` is on it at the end. -/
theorem log_of_run {first : System} :
    ((machine session).last first events).log =
      first.log ++ ((machine session).run first events).flatMap CentralStep.responses :=
  Machine.log_last System.log CentralStep.responses
    fun _ member => CentralStep.log_of_step (Machine.run_step member)

/-- A run in which every query succeeds is a path of the dispatcher, with the words on
`responses`. -/
theorem path_of_run {first : System}
    (succeed : ∀ taken ∈ (machine session).run first events, CentralStep.Succeeds taken)
    (silent : first.log = []) :
    Path (Dispatcher.Serves ⟨0, 0⟩) first.db.office
      (((machine session).run first events).map (CentralStep.call session))
      ((machine session).last first events).db.office
      (((machine session).last first events).log.filterMap Message.word?) := by
  have said : ((machine session).last first events).log.filterMap Message.word? =
      ((machine session).run first events).flatMap CentralStep.words := by
    rw [log_of_run, silent, List.nil_append, List.filterMap_flatMap]
    rfl
  rw [said]
  exact Machine.path_of_run (fun system : System => system.db.office) (CentralStep.call session)
    CentralStep.words fun taken member =>
      (CentralStep.serves_of_step (Machine.run_step member) (succeed taken member)).1

end System

/-- In every run in which every query succeeds Central is a dispatcher: each request or registration
is one call, which is answered as a dispatcher with the books of the tables before it does, and
after it the tables have the books of the dispatcher. What a step puts on `responses` is what the
dispatcher says: all responses of the run are words, and all of them together are what is said on
the way. -/
theorem central_dispatches (session : Uuid) (locations : Table LocationRow.id)
    (events : List System.Event)
    (succeed : ∀ taken ∈ (System.machine session).run (System.start locations) events,
      CentralStep.Succeeds taken) :
    (∀ taken ∈ (System.machine session).run (System.start locations) events,
        Dispatcher.Serves ⟨0, 0⟩ taken.before.db.office (CentralStep.call session taken)
            taken.after.db.office (CentralStep.words taken) ∧
          taken.after.log = taken.before.log ++ CentralStep.responses taken) ∧
      (∀ message ∈ ((System.machine session).last (System.start locations) events).log,
        (message.word?).isSome) ∧
      Path (Dispatcher.Serves ⟨0, 0⟩) (System.start locations).db.office
        (((System.machine session).run (System.start locations) events).map
          (CentralStep.call session))
        ((System.machine session).last (System.start locations) events).db.office
        (((System.machine session).last (System.start locations) events).log.filterMap
          Message.word?) := by
  refine ⟨fun taken member => ?_, fun message member => ?_, System.path_of_run succeed rfl⟩
  · have stepped := Machine.run_step member
    exact ⟨(CentralStep.serves_of_step stepped (succeed taken member)).1,
      CentralStep.log_of_step stepped⟩
  · rw [System.log_of_run] at member
    obtain ⟨taken, within, said⟩ := List.mem_flatMap.mp member
    exact (CentralStep.serves_of_step (Machine.run_step within) (succeed taken within)).2 message
      said

/-- A taxi is sent to a customer who waits, then to another one whom it takes to `J`, and from there
to the first one again. -/
def Town.errands : List System.Event :=
  [Town.register 65 ⟨1, 1⟩, Town.register 74 ⟨3, 4⟩, Town.ask 74 65] ++ Town.join 1 ++
    [Town.ask 65 74, Town.arrive 1 ⟨1, 1⟩, Town.arrive 1 ⟨7, 7⟩]

/-- Central answers the errands with thirteen words. -/
theorem central_dispatches_errands :
    let run := Town.run Town.errands
    let last := (System.machine Town.session).last (System.start Town.locations) Town.errands
    run.length = Town.errands.length ∧ last.log.length = 13 ∧
      (∀ taken ∈ run,
        Dispatcher.Serves ⟨0, 0⟩ taken.before.db.office (CentralStep.call Town.session taken)
            taken.after.db.office (CentralStep.words taken) ∧
          taken.after.log = taken.before.log ++ CentralStep.responses taken) ∧
      (∀ message ∈ last.log, (message.word?).isSome) ∧
      Path (Dispatcher.Serves ⟨0, 0⟩) (System.start Town.locations).db.office
        (run.map (CentralStep.call Town.session)) last.db.office
        (last.log.filterMap Message.word?) :=
  ⟨by decide +kernel, by decide +kernel,
    central_dispatches Town.session Town.locations Town.errands (by decide +kernel)⟩

/-! ### The law of boarding -/

/-- The message tells a customer something. -/
def Message.tells (answer : SubjResponse) (customer : Id) (message : Message) : Bool :=
  message.subject = .response answer ∧ message.id = customer

/-- The words which a message may be, counted message by message. -/
theorem countP_words (said : Word.Central → Bool) (told : Message → Bool) (log : List Message)
    (same : ∀ message : Message, (message.word?.map said).getD false = told message) :
    (log.filterMap Message.word?).countP said = log.countP told := by
  rw [List.countP_filterMap]
  exact List.countP_congr fun message _ => by rw [same]

theorem completes_word? (customer : Id) (message : Message) :
    (message.word?.map (Word.completes customer)).getD false =
      message.tells .customerServiceCompleted customer := by
  unfold Message.word? Message.tells
  split <;> simp_all [Word.completes]

theorem boards_word? (customer : Id) (message : Message) :
    (message.word?.map (Word.boards customer)).getD false =
      (message.tells .customerPickedUp customer || message.tells .customerServiceDenied customer) := by
  unfold Message.word? Message.tells
  split <;> simp_all [Word.boards]

instance : Finite TaxiId :=
  Finite.of_injective (fun taxi : TaxiId => taxi.toBitVec.toFin) fun _ _ same =>
    Int16.toBitVec.inj (BitVec.toFin_inj.mp same)

/-- In every run in which every query succeeds, the times a customer was told of his arrival and the
taxis which carry him now are together no more than the times he was told that he is aboard. -/
theorem completed_le_boarded (session : Uuid) (locations : Table LocationRow.id)
    (events : List System.Event)
    (succeed : ∀ taken ∈ (System.machine session).run (System.start locations) events,
      CentralStep.Succeeds taken) (customer : Id) :
    let last := (System.machine session).last (System.start locations) events
    {taxi | last.db.customerIdOf taxi = some customer}.ncard +
        last.log.countP (Message.tells .customerServiceCompleted customer) ≤
      last.log.countP fun message =>
        message.tells .customerPickedUp customer || message.tells .customerServiceDenied customer := by
  intro last
  have path := System.path_of_run succeed rfl
  have thrifty := path.countP_le fun _ _ _ _ serves => serves.thrifty customer
  have nobody : (System.start locations).db.office.carriers customer = 0 := by
    have none : {taxi | (System.start locations).db.office.aboard taxi = some customer} = ∅ :=
      Set.eq_empty_iff_forall_notMem.mpr fun taxi carried => by cases carried
    rw [Dispatcher.carriers, none, Set.ncard_empty]
  rw [nobody, Nat.zero_add, countP_words _ _ _ (completes_word? customer),
    countP_words _ _ _ (boards_word? customer)] at thrifty
  exact thrifty

/-- The taxi has taken the first customer to `J`, and carries nobody. -/
theorem completed_le_boarded_errands :
    let last := (System.machine Town.session).last (System.start Town.locations) Town.errands
    last.log.countP (Message.tells .customerServiceCompleted 65) = 1 ∧
      {taxi | last.db.customerIdOf taxi = some 65}.ncard +
        last.log.countP (Message.tells .customerServiceCompleted 65) ≤
      last.log.countP fun message =>
        message.tells .customerPickedUp 65 || message.tells .customerServiceDenied 65 :=
  ⟨by decide +kernel,
    completed_le_boarded Town.session Town.locations Town.errands (by decide +kernel) 65⟩

end EasyCab
