import EasyCab.Central.Statements
import EasyCab.Library.Effect

/-!
# The request loop of Central

`KafkaServer` as `KafkaServer.cpp` has it: the helper queries, one definition for
each `case` of the switch, and the body of the loop for one consumed message. The
`response` object is shared by all requests and keeps its fields between them.

A handler records what it is seen to do. `Act.handled`, `Act.assign` and
`Act.failed` are for the proofs only: they mark that the switch was entered, that
`assign` was called, and that a statement failed. Log records are left out.
-/

namespace EasyCab

open Library

/-- How the process of Central dies. -/
inductive Fault where
  /-- `optional::value()` on `nullopt`. -/
  | badOptionalAccess
  /-- `expected::value()` on an error. -/
  | badExpectedAccess
  /-- `stoi` on text which is not a number. -/
  | invalidArgument
  /-- An index into an empty row. -/
  | emptyRow
deriving DecidableEq

/-- What Central is seen to do. -/
inductive Act where
  /-- The switch is entered with a request. -/
  | handled (request : Message)
  /-- A message is put on `responses`. -/
  | produce (message : Message)
  /-- A map is put on `map`. -/
  | publishMap (map : Map)
  /-- `assign(taxiId, customerId)` is called. -/
  | assign (taxiId : TaxiId) (customerId : Id)
  /-- A statement failed, whether or not its caller is told. -/
  | failed (error : SqlError)
  /-- The authentication server puts a message on `requests`. -/
  | announce (message : Message)
deriving DecidableEq

/-- The message which an act puts on `responses`. -/
def Act.response? : Act → Option Message
  | .produce message => some message
  | _ => none

/-- The messages which some acts put on `responses`, in order. -/
def Act.responses (acts : List Act) : List Message := acts.filterMap Act.response?

/-- The database behind the server and its `response` object. -/
structure KafkaServer where
  db : Db
  outages : List Bool
  response : Message

/-- A computation of the server. -/
abbrev Handler := Effect KafkaServer Fault Act

namespace KafkaServer

/-! ### Reading rows -/

/-- `row[index]` on a row which may be too short. -/
def column (row : Row) (index : Nat) : Except Fault Field :=
  match row[index]? with
  | none => .error .emptyRow
  | some field => .ok field

/-- `stoi(field)`. -/
def stoi : Field → Except Fault Int32
  | .int value => .ok value
  | .char value =>
      if 48 ≤ value ∧ value ≤ 57 then .ok (Int32.ofNat (value.toNat - 48))
      else .error .invalidArgument
  | _ => .error .invalidArgument

/-- `stoi(row[index])`. -/
def intColumn (row : Row) (index : Nat) : Except Fault Int32 :=
  match column row index with
  | .error fault => .error fault
  | .ok field => stoi field

/-- `row[index][0]`. -/
def charColumn (row : Row) (index : Nat) : Except Fault Id :=
  match column row index with
  | .error fault => .error fault
  | .ok field => .ok field.front

/-! ### Queries and responses -/

/-- `db->query(text)` at a time. -/
def query (now : Timestamp) (statements : List Statement) :
    Handler (Except SqlError DbResults) := fun server =>
  let answer := DbConnectionHandler.query now statements server.outages server.db
  .ok {
    value := answer.value
    state := { server with db := answer.db, outages := answer.outages }
    acts := answer.failures.map .failed }

/-- A query whose failure is only logged. -/
def run (now : Timestamp) (statements : List Statement) : Handler Unit := do
  let _ ← query now statements

/-- Setters of the shared `response`. -/
def setResponse (update : Message → Message) : Handler Unit :=
  Effect.modify fun server => { server with response := update server.response }

/-- `producer->produce("responses", response)`. -/
def produce : Handler Unit := do
  let server ← Effect.get
  Effect.record (.produce server.response)

/-- `response.setSubject(subject)` and `produce`. -/
def respond (subject : SubjResponse) : Handler Unit := do
  setResponse fun response => { response with subject := .response subject }
  produce

section Handlers

variable (now : Timestamp)

/-! ### Helper functions -/

/-- `checkAvailableTaxis`. -/
def checkAvailableTaxis : Handler (Option TaxiId) := do
  match ← query now [.selectAvailable] with
  | .error _ => return none
  | .ok results =>
      let row := results.getRow.1
      if row.isEmpty then return none
      else
        let id ← Effect.demand (intColumn row 0)
        return some id.toInt16

/-- `checkQueue`. -/
def checkQueue : Handler (Option Id) := do
  match ← query now [.selectQueueHead] with
  | .error _ => return none
  | .ok results =>
      let row := results.getRow.1
      if row.isEmpty then return none
      else
        let id ← Effect.demand (charColumn row 0)
        return some id

/-- `enqueue`. -/
def enqueue (customerId : Id) : Handler Unit := run now [.enqueue customerId]

/-- `setDestination`. -/
def setDestination (customerId service : Id) : Handler Bool := do
  match ← query now [.setDestination customerId service] with
  | .error _ => return false
  | .ok _ => return true

/-- `assign`. The result of the query is read even when it is an error, and its row even
when it is empty. -/
def assign (taxiId : TaxiId) (customerId : Id) : Handler Unit := do
  Effect.record (.assign taxiId customerId)
  let results ← query now [.assignTaxi taxiId customerId, .selectDest taxiId]
  let results ← Effect.demand (results.mapError fun _ => Fault.badExpectedAccess)
  let row := results.getRow.1
  let x ← Effect.demand (intColumn row 0)
  let y ← Effect.demand (intColumn row 1)
  setResponse fun response =>
    { response with taxiId := taxiId, id := customerId, coord := ⟨x, y⟩ }
  respond .taxiGoTo
  respond .customerServiceAccepted

/-- The first character of the only column of the only row, as `carryingClient` and
`getService` read it. -/
def firstChar (statement : Statement) : Handler (Option Id) := do
  match ← query now [statement] with
  | .error _ => return none
  | .ok results =>
      match results.getRow.1 with
      | [] => return none
      | field :: _ => return if field.empty then none else some field.front

/-- `carryingClient`. -/
def carryingClient (taxiId : TaxiId) : Handler (Option Id) :=
  firstChar now (.selectCustomerId taxiId)

/-- `getService`. -/
def getService (taxiId : TaxiId) : Handler (Option Id) := firstChar now (.selectService taxiId)

/-- `getDestination`. -/
def getDestination (customerId : Id) : Handler (Option Coordinate) := do
  match ← query now [.selectDestination customerId] with
  | .error _ => return none
  | .ok results =>
      match results.getRow.1 with
      | x :: y :: _ =>
          if x.empty || y.empty then return none
          else
            let x ← Effect.demand (stoi x)
            let y ← Effect.demand (stoi y)
            return some ⟨x, y⟩
      | _ => return none

/-- `setOnboard`. -/
def setOnboard (customerId : Id) (taxiId : TaxiId) (val : Bool) : Handler Unit :=
  run now [.setOnboardFlag customerId val,
    .setCustomerId taxiId (if val then some customerId else none)]

/-- `newCustomer`. The session of the request is stored in `response` whatever comes
after. -/
def newCustomer (session : Uuid) (request : Message) : Handler Unit := do
  setResponse fun response => { response with session := request.session }
  match ← query now [.selectCustomerExists request.id] with
  | .error _ => return ()
  | .ok results =>
      if results.getRow.1.isEmpty then
        match ← query now [.insertCustomer request.id request.coord] with
        | .error _ => return ()
        | .ok _ =>
            setResponse fun response =>
              { response with subject := .response .accept }.setUuidData session
            produce
      else respond .deny

/-! ### The published map -/

/-- The rows which a `getRow` loop reads, and the cursor it leaves. -/
def readRows (results : DbResults) : List Row × DbResults :=
  let rows := ((results.results[results.currentResult]?).getD []).drop results.currentRow
  let read := rows.takeWhile fun row => !row.isEmpty
  (read, { results with currentRow := results.currentRow + read.length })

/-- The body of the loop over the locations. -/
def readLocation (row : Row) : Except Fault Location := do
  return { id := ← charColumn row 0, coord := ⟨← intColumn row 1, ← intColumn row 2⟩ }

/-- The body of the loop over the customers. -/
def readCustomer (row : Row) : Except Fault Customer := do
  return {
    id := ← charColumn row 0
    coord := ⟨← intColumn row 1, ← intColumn row 2⟩
    destination := ← charColumn row 3
    nextRequest := ← intColumn row 4
    onboard := (← column row 5) == .int 1
    inQueue := !(← column row 6).empty }

/-- `row[index].empty() ? -1 : stoi(row[index])`. -/
def intColumnOr (row : Row) (index : Nat) : Except Fault Int32 := do
  let field ← column row index
  if field.empty then return -1 else stoi field

/-- The body of the loop over the taxis. -/
def readTaxi (row : Row) : Except Fault Taxi := do
  let customer ← column row 5
  return {
    id := (← intColumn row 0).toInt16
    coord := ⟨← intColumn row 1, ← intColumn row 2⟩
    dest := ⟨← intColumnOr row 3, ← intColumnOr row 4⟩
    customer := if customer.empty then 45 else customer.front
    connected := (← column row 6) == .int 1
    ready := (← column row 7) == .int 1
    stopped := (← column row 8) == .int 1
    waitTime := ← intColumn row 9 }

/-- The map of the three result sets of `refreshMap`. -/
def readMap (results : DbResults) : Except Fault Map := do
  let (locationRows, results) := readRows results
  let locations ← locationRows.mapM readLocation
  let (customerRows, results) := readRows results.nextResult.2
  let customers ← customerRows.mapM readCustomer
  let (taxiRows, _) := readRows results.nextResult.2
  let taxis ← taxiRows.mapM readTaxi
  return ⟨locations, customers, taxis⟩

/-- `refreshMap`. -/
def refreshMap : Handler Unit := do
  match ← query now [.selectLocations, .selectCustomers, .selectTaxis] with
  | .error _ => return ()
  | .ok results =>
      let map ← Effect.demand (readMap results)
      Effect.record (.publishMap map)

/-! ### The cases of the switch -/

/-- `TAXI_RECONNECTED` and `NEW_TAXI`. -/
def onTaxiArrival (request : Message) : Handler Unit := do
  match ← checkQueue now with
  | none => return ()
  | some customer => assign now request.taxiId customer

/-- `ORDER_CUSTOMER_DISCONNECT`. -/
def onCustomerDisconnect (request : Message) : Handler Unit := do
  run now [.deleteCustomer request.id]
  setResponse fun response => { response with id := request.id }
  respond .customerDisconnect

/-- A case which updates a taxi and echoes its identifier in a response. -/
def updateAndRespond (statement : Statement) (taxiId : TaxiId) (subject : SubjResponse) :
    Handler Unit := do
  run now [statement]
  setResponse fun response => { response with taxiId := taxiId }
  respond subject

/-- `ORDER_TAXI_DISCONNECT`. -/
def onTaxiDisconnect (request : Message) : Handler Unit :=
  updateAndRespond now (.setConnected request.taxiId false) request.taxiId .taxiDisconnect

/-- `ORDER_TAXI_STOP`. -/
def onTaxiStop (request : Message) : Handler Unit :=
  updateAndRespond now (.setStopped request.taxiId true) request.taxiId .taxiStop

/-- `ORDER_TAXI_CONTINUE`. -/
def onTaxiContinue (request : Message) : Handler Unit :=
  updateAndRespond now (.setStopped request.taxiId false) request.taxiId .taxiContinue

/-- The query shared by `TAXI_DESTINATION_REACHED` and `TAXI_MOVE`: a carried customer
moves with its taxi. It answers the carried customer. -/
def reportPosition (request : Message) : Handler (Option Id) := do
  let customer ← carryingClient now request.taxiId
  run now (.moveTaxi request.taxiId request.coord ::
    (customer.map fun customer => Statement.moveCustomer customer request.coord).toList)
  return customer

/-- `TAXI_MOVE`. -/
def onTaxiMove (request : Message) : Handler Unit := do
  let _ ← reportPosition now request

/-- `TAXI_DESTINATION_REACHED` of a taxi which carries `customer`: the completion branch. -/
def completeService (request : Message) (customer : Id) : Handler Unit := do
  setOnboard now customer request.taxiId false
  setResponse fun response => { response with id := customer }
  respond .customerServiceCompleted
  match ← checkQueue now with
  | none => return ()
  | some next => assign now request.taxiId next

/-- `TAXI_DESTINATION_REACHED` of a taxi which carries nobody: the pick-up branch. The
customer is read out of its optional before the optional is tested. -/
def pickUp (request : Message) : Handler Unit := do
  let service ← getService now request.taxiId
  let customer ← Effect.demand (service.elim (.error Fault.badOptionalAccess) .ok)
  let coord ← getDestination now customer
  setOnboard now customer request.taxiId true
  setResponse fun response => { response with id := customer }
  match coord with
  | none => respond .customerServiceDenied
  | some coord =>
      respond .customerPickedUp
      setResponse fun response => { response with taxiId := request.taxiId }
      setResponse fun response => { response with coord := coord }
      respond .taxiGoTo

/-- `TAXI_DESTINATION_REACHED`. -/
def onDestinationReached (request : Message) : Handler Unit := do
  match ← reportPosition now request with
  | some customer => completeService now request customer
  | none => pickUp now request

/-- `CUSTOMER_SERVICE_REQUEST`. The response which `assign` produced last is produced a
second time. -/
def onServiceRequest (request : Message) : Handler Unit := do
  let taxiId ← checkAvailableTaxis now
  setResponse fun response => { response with id := request.id }
  match taxiId with
  | none =>
      enqueue now request.id
      respond .customerEnqueued
  | some taxiId =>
      if ← setDestination now request.id request.charFromData then
        assign now taxiId request.id
        produce
      else respond .customerServiceDenied

/-- `ORDER_TAXI_GO_TO`, and `ORDER_TAXI_RETURN_TO_BASE` after its coordinate is set. -/
def onTaxiGoTo (request : Message) : Handler Unit := do
  run now [.redirectTaxi request.taxiId request.coord, .landNamesake request.taxiId]
  setResponse fun response =>
    { response with taxiId := request.taxiId, coord := request.coord }
  respond .taxiGoTo

/-- `ORDER_TAXI_RETURN_TO_BASE`, which falls through to `ORDER_TAXI_GO_TO`. -/
def onReturnToBase (request : Message) : Handler Unit :=
  onTaxiGoTo now { request with coord := ⟨0, 0⟩ }

/-- `ORDER_CUSTOMER_PRIORITY`. -/
def onCustomerPriority (request : Message) : Handler Unit := do
  run now [.clearInQueue request.id]
  setResponse fun response => { response with id := request.id }
  respond .customerPriority

/-- The switch. It answers whether the map is to be refreshed. -/
def handle (session : Uuid) (subject : SubjRequest) (request : Message) : Handler Bool := do
  match subject with
  | .taxiReconnected | .newTaxi => onTaxiArrival now request; return true
  | .orderCustomerDisconnect => onCustomerDisconnect now request; return true
  | .orderTaxiDisconnect => onTaxiDisconnect now request; return true
  | .newCustomer => newCustomer now session request; return true
  | .taxiPing => run now [.pingTaxi request.taxiId]; return true
  | .taxiDestinationReached => onDestinationReached now request; return true
  | .taxiMove => onTaxiMove now request; return true
  | .taxiReady => run now [.setReady request.taxiId true]; return true
  | .taxiNotReady => run now [.setReady request.taxiId false]; return true
  | .customerPing => run now [.pingCustomer request.id]; return true
  | .customerServiceRequest => onServiceRequest now request; return true
  | .customerUpdateNextRequest =>
      run now [.setNextRequest request.id request.intFromData]; return true
  | .taxiUpdateWaitTime => run now [.setWaitTime request.taxiId request.intFromData]; return true
  | .orderTaxiReturnToBase => onReturnToBase now request; return true
  | .orderTaxiGoTo => onTaxiGoTo now request; return true
  | .orderTaxiStop => onTaxiStop now request; return true
  | .orderTaxiContinue => onTaxiContinue now request; return true
  | .orderLocationMove => run now [.moveLocation request.id request.coord]; return true
  | .orderCustomerPriority => onCustomerPriority now request; return true
  | .unlisted _ _ => return false

/-- `greenList`: the subjects for which the session is not checked. -/
def greenList : List SubjRequest :=
  [.orderTaxiGoTo, .orderTaxiStop, .orderTaxiContinue, .orderTaxiReturnToBase,
    .orderTaxiDisconnect, .orderCustomerDisconnect, .orderCustomerPriority,
    .orderLocationMove, .newCustomer]

/-- Whether the loop lets a message through to the switch, and with which subject. -/
def accepted? (session : Uuid) (request : Message) : Option SubjRequest :=
  match request.subject with
  | .request subject =>
      if greenList.contains subject || request.checkSession session.1 then some subject else none
  | _ => none

/-- A request which is let through has the subject it is treated under. -/
theorem subject_of_accepted {session : Uuid} {request : Message} {subject : SubjRequest}
    (accepted : accepted? session request = some subject) : request.subject = .request subject := by
  unfold accepted? at accepted
  split at accepted
  · next asked =>
      split at accepted
      · cases accepted
        exact asked
      · cases accepted
  · cases accepted

/-- The body of the loop of `startInternal` for one consumed message. -/
def process (session : Uuid) (request : Message) : Handler Unit := do
  match accepted? session request with
  | none => return ()
  | some subject =>
      Effect.record (.handled request)
      if ← handle now session subject request then refreshMap now

end Handlers

end KafkaServer

end EasyCab
