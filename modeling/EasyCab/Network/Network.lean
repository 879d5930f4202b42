import EasyCab.Central.Strays
import EasyCab.Central.System
import EasyCab.Customer.EcCustomer
import EasyCab.De.EcDe
import EasyCab.Library.Machine

/-!
# The components together

The Kafka server of Central, its authentication server and `checkStrays` over one
database, any number of taxis and customers, and what they put on the topics
`requests` and `responses`, newest first.

A consumer may be handed any message whose session has 36 bytes: the topics outlive
the processes and are open to others, and what `deserialize` finds past the end of a
buffer is anything. When the Kafka server dies it sends nothing more until Central is
started again; the database keeps what was written before.
-/

namespace EasyCab

open Library

/-- The process of the Kafka server: its `response`, and whether a `NEW_CUSTOMER` was consumed
since it started. -/
structure ServerProcess where
  response : Message
  registered : Bool

/-- The components and the topics. -/
structure Network where
  db : Db
  server : Option ServerProcess
  taxis : Nat → Option EcDe
  customers : Nat → Option EcCustomer
  requests : List Message
  responses : List Message

namespace Network

/-- What can happen next. -/
inductive Event where
  /-- Central is started again on its database. -/
  | restart
  /-- The authentication server adds a taxi. -/
  | addTaxi (now : Timestamp) (taxiId : TaxiId) (reconnect : Bool) (outages : List Bool)
  /-- The Kafka server consumes a request. -/
  | request (now : Timestamp) (message : FullMessage) (outages : List Bool)
  /-- One round of `checkStrays`. -/
  | checkStrays (now : Timestamp) (outages : List Bool)
  /-- A taxi authenticates. -/
  | joinTaxi (process : Nat) (id : TaxiId) (session : Uuid)
  /-- A taxi takes a step. -/
  | taxi (process : Nat) (event : EcDe.Event)
  /-- A customer starts. -/
  | joinCustomer (process : Nat) (id : Id) (coord : Coordinate) (uuid : Uuid)
      (services : Option (List Id))
  /-- A customer takes a step. -/
  | customer (process : Nat) (event : EcCustomer.Event)

/-- The messages put on `responses`, in order. -/
def responsesOf (acts : List Act) : List Message :=
  acts.filterMap fun
    | .produce message => some message
    | _ => none

/-- What is put on `responses` was produced. -/
theorem mem_responsesOf_iff {acts : List Act} {message : Message} :
    message ∈ responsesOf acts ↔ .produce message ∈ acts := by
  rw [responsesOf, List.mem_filterMap]
  constructor
  · rintro ⟨act, member, found⟩
    cases act with
    | produce other =>
        cases found
        exact member
    | _ => cases found
  · exact fun member => ⟨_, member, rfl⟩

/-- The messages a taxi puts on `requests`, in order. -/
def requestsOf (acts : List EcDe.Act) : List FullMessage :=
  acts.filterMap fun
    | .produce message => some message
    | .answer _ => none

/-- Messages are put on `requests`, in order. -/
def send (network : Network) (messages : List Message) : Network :=
  { network with requests := messages.reverse ++ network.requests }

/-- The authentication server adds a taxi and announces it. -/
def addTaxi (session : Uuid) (network : Network) (now : Timestamp) (taxiId : TaxiId)
    (reconnect : Bool) (outages : List Bool) : Network :=
  let answer := AuthServer.addTaxi now session taxiId reconnect outages network.db
  { network with db := answer.db }.send answer.value.toList

/-- The Kafka server treats a request, and may die of it. -/
def request (session : Uuid) (network : Network) (process : ServerProcess) (now : Timestamp)
    (message : FullMessage) (outages : List Bool) : Network :=
  let handler := KafkaServer.process now session message.1
  let before : KafkaServer := ⟨network.db, outages, process.response⟩
  { network with
    db := (handler.last before).db
    server :=
      match handler before with
      | .error _ => none
      | .ok outcome =>
          some {
            response := outcome.state.response
            registered := process.registered || message.1.subject = .request .newCustomer }
    responses := (responsesOf (handler.acts before)).reverse ++ network.responses }

/-- One step of one component. -/
def step (session : Uuid) (network : Network) : Event → Option Network
  | .restart => some { network with server := some ⟨.new, false⟩ }
  | .addTaxi now taxiId reconnect outages =>
      some (network.addTaxi session now taxiId reconnect outages)
  | .request now message outages =>
      network.server.map fun process => network.request session process now message outages
  | .checkStrays now outages =>
      some (network.send ((KafkaServer.checkStrays now outages network.db).acts ()))
  | .joinTaxi process id session =>
      some { network with
        taxis := Function.update network.taxis process (some (.start id session)) }
  | .taxi process event => do
      let taxi ← network.taxis process
      let (next, acts) ← taxi.turn event
      let network := { network with taxis := Function.update network.taxis process (some next) }
      return network.send ((requestsOf acts).map (·.1))
  | .joinCustomer process id coord uuid services =>
      some { network with
        customers := Function.update network.customers process
          (some (.start id coord uuid services)) }
  | .customer process event => do
      let customer ← network.customers process
      let (next, messages) ← customer.turn event
      let network :=
        { network with customers := Function.update network.customers process (some next) }
      return network.send (messages.map (·.1))

/-- The components as a machine. -/
def machine (session : Uuid) : Machine Network Event := ⟨step session⟩

/-- Central has started after `Reset_DB`, and nobody else has. -/
def start (locations : Table LocationRow.id) : Network where
  db := .initial locations
  server := some ⟨.new, false⟩
  taxis := fun _ => none
  customers := fun _ => none
  requests := []
  responses := []

/-! ### Steps of the components -/

section Central

variable {session : Uuid} {network : Network} {process : ServerProcess} {trace : List Act}
  {now : Timestamp} {outages : List Bool}

/-- A request is a step of `System` on the database and on `response`, refused where the server
dies. -/
theorem request_eq_system {message : FullMessage} :
    System.step session ⟨network.db, process.response, trace⟩ (.request now message.1 outages) =
      (network.request session process now message outages).server.map fun after =>
        { db := (network.request session process now message outages).db
          response := after.response
          trace := ((KafkaServer.process now session message.1).acts
            ⟨network.db, outages, process.response⟩).reverse ++ trace } := by
  simp only [System.step, request, Effect.last, Effect.acts]
  cases KafkaServer.process now session message.1 ⟨network.db, outages, process.response⟩ with
  | error crash => rfl
  | ok outcome => rfl

/-- A registration is a step of `System` on the database, and leaves `response` alone. -/
theorem addTaxi_eq_system {taxiId : TaxiId} {reconnect : Bool} {system : System}
    (stepped : System.step session ⟨network.db, process.response, trace⟩
      (.addTaxi now taxiId reconnect outages) = some system) :
    (network.addTaxi session now taxiId reconnect outages).db = system.db ∧
      (network.addTaxi session now taxiId reconnect outages).server = network.server ∧
      system.response = process.response := by
  cases stepped
  exact ⟨rfl, rfl, rfl⟩

end Central

/-- What a taxi or a customer does to the network: full messages are put on `requests`, and
nothing else of it is touched but the process. -/
structure SendsFull (network next : Network) : Prop where
  requests : ∃ messages : List FullMessage,
    next.requests = (messages.map (·.1)).reverse ++ network.requests
  responses : next.responses = network.responses
  server : next.server = network.server

variable {session : Uuid} {network next : Network} {process : Nat}

theorem sendsFull_of_taxi {event : EcDe.Event}
    (stepped : network.step session (.taxi process event) = some next) :
    network.SendsFull next := by
  simp only [step, Option.bind_eq_bind, Option.bind_eq_some_iff, Option.pure_def,
    Option.some.injEq] at stepped
  obtain ⟨taxi, _, ⟨_, acts⟩, _, rfl⟩ := stepped
  exact ⟨⟨requestsOf acts, rfl⟩, rfl, rfl⟩

theorem sendsFull_of_customer {event : EcCustomer.Event}
    (stepped : network.step session (.customer process event) = some next) :
    network.SendsFull next := by
  simp only [step, Option.bind_eq_bind, Option.bind_eq_some_iff, Option.pure_def,
    Option.some.injEq] at stepped
  obtain ⟨customer, _, ⟨_, messages⟩, _, rfl⟩ := stepped
  exact ⟨⟨messages, rfl⟩, rfl, rfl⟩

end Network

/-- A step of the components. -/
abbrev NetworkStep := Transition Network Network.Event

namespace NetworkStep

/-- What a step put on `requests` and on `responses`. -/
def sent (taken : NetworkStep) : List Message :=
  taken.after.requests.take (taken.after.requests.length - taken.before.requests.length) ++
    taken.after.responses.take (taken.after.responses.length - taken.before.responses.length)

/-- The messages of a step are those which the topics have more than before. -/
theorem sent_eq {taken : NetworkStep} {requests responses : List Message}
    (requested : taken.after.requests = requests ++ taken.before.requests)
    (responded : taken.after.responses = responses ++ taken.before.responses) :
    taken.sent = requests ++ responses := by
  simp [sent, requested, responded]

end NetworkStep

end EasyCab
