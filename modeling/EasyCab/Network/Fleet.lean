import EasyCab.Central.Ledger
import EasyCab.Network.Link

/-!
# Central, taxis and a customer

Central with its authentication server, any number of taxis and the program of one customer.
Requests are consumed in the order in which they were put on `requests`. Each taxi and the
customer consume `responses` in order, from the offset on at which they subscribed.

The service requests of the customer are numbered, and what Central puts on `responses` while it
treats one of them, or the arrival of a taxi which is under way for one, is marked with its number.
The marks and the ledger are for the statements only.
-/

namespace EasyCab

open Library

/-- A message on a topic, and which service request of the customer it belongs to. -/
structure Notice where
  message : Message
  number : Option Nat

/-- The program of a taxi and the offset of what it consumes next. -/
structure Cab where
  taxi : EcDe
  position : Nat

/-- Central, the topics, the taxis and the customer. -/
structure Fleet where
  db : Db
  response : Message
  ledger : Ledger
  /-- What Central has still to consume. -/
  requests : List Notice
  /-- All that Central has put on `responses`. -/
  responses : List Notice
  cabs : Nat → Option Cab
  customer : Option EcCustomer
  /-- The offset of what the customer consumes next. -/
  position : Nat
  /-- How many service requests the customer has sent. -/
  asked : Nat

namespace Fleet

/-- What can happen next. -/
inductive Event where
  /-- Another component, or `checkStrays`, puts a message on `requests`. -/
  | post (message : Message)
  /-- The Kafka server consumes the next request. -/
  | request (now : Timestamp) (outages : List Bool) (beyond : Beyond)
  /-- The authentication server runs the query of `addTaxi`. -/
  | register (now : Timestamp) (taxiId : TaxiId) (reconnect : Bool) (outages : List Bool)
  /-- The program of a taxi starts. -/
  | board (process : Nat) (taxiId : TaxiId) (offset : Nat)
  /-- A taxi consumes the next response. -/
  | hear (process : Nat) (beyond : Beyond)
  /-- A taxi does something else. -/
  | drive (process : Nat) (event : EcDe.Event)
  /-- The program of the customer starts. -/
  | enter (offset : Nat) (coord : Coordinate) (uuid : Uuid) (services : Option (List Id))
  /-- The customer consumes the next response. -/
  | listen (beyond : Beyond)
  /-- The customer does something else. -/
  | errand (event : EcCustomer.Event)

/-- The message is a service request of the customer. -/
def asks (customer : Id) (message : Message) : Bool :=
  message.id = customer && message.subject = .request .customerServiceRequest

/-- Which service request Central serves where it consumes a message. -/
def serving? (fleet : Fleet) (session : Uuid) (customer : Id) (request : Message)
    (number : Option Nat) : Option Nat :=
  (KafkaServer.accepted? session request).bind
    (fleet.ledger.serving? customer fleet.db.toTables request number)

/-- The ledger after Central has consumed a message. -/
def noted (fleet : Fleet) (session : Uuid) (customer : Id) (request : Message)
    (number : Option Nat) : Ledger :=
  ((KafkaServer.accepted? session request).map
    (fleet.ledger.note customer fleet.db.toTables request number)).getD fleet.ledger

/-- A taxi took a turn. -/
def turned (fleet : Fleet) (process : Nat) (cab : Cab) (acts : List EcDe.Act) : Fleet :=
  { fleet with
    cabs := Function.update fleet.cabs process (some cab)
    requests := fleet.requests ++ (Network.requestsOf acts).map fun message => ⟨message.1, none⟩ }

/-- The customer took a turn. -/
def spoke (fleet : Fleet) (customer : Id) (next : EcCustomer) (sent : List FullMessage) : Fleet :=
  { fleet with
    customer := some next
    requests := fleet.requests ++ sent.map fun message =>
      ⟨message.1, if asks customer message.1 then some fleet.asked else none⟩
    asked := fleet.asked + sent.countP fun message => asks customer message.1 }

/-- One step. The request of which Central dies ends the run. -/
def step (session : Uuid) (id : Id) (fleet : Fleet) : Event → Option Fleet
  | .post message =>
      if asks id message then none
      else some { fleet with requests := fleet.requests ++ [⟨message, none⟩] }
  | .request now outages beyond =>
      match fleet.requests with
      | [] => none
      | notice :: requests =>
          let request := (notice.message.read beyond).1
          match KafkaServer.process now session request ⟨fleet.db, outages, fleet.response⟩ with
          | .error _ => none
          | .ok outcome =>
              some { fleet with
                db := outcome.state.db
                response := outcome.state.response
                ledger := fleet.noted session id request notice.number
                requests := requests
                responses := fleet.responses ++
                  (Network.responsesOf outcome.acts).map fun message =>
                    ⟨message, fleet.serving? session id request notice.number⟩ }
  | .register now taxiId reconnect outages =>
      let answer := AuthServer.addTaxi now session taxiId reconnect outages fleet.db
      some { fleet with
        db := answer.db
        requests := fleet.requests ++ answer.value.toList.map fun message => ⟨message, none⟩ }
  | .board process taxiId offset =>
      if (fleet.cabs process).isNone && offset ≤ fleet.responses.length then
        some { fleet with
          cabs := Function.update fleet.cabs process (some ⟨.start taxiId session, offset⟩) }
      else none
  | .hear process beyond => do
      let cab ← fleet.cabs process
      let notice ← fleet.responses[cab.position]?
      let (next, acts) ← cab.taxi.turn (.consume (some (notice.message.read beyond)))
      return fleet.turned process ⟨next, cab.position + 1⟩ acts
  | .drive process event =>
      match event with
      | .consume (some _) => none
      | event => do
          let cab ← fleet.cabs process
          let (next, acts) ← cab.taxi.turn event
          return fleet.turned process ⟨next, cab.position⟩ acts
  | .enter offset coord uuid services =>
      if fleet.customer.isNone && offset ≤ fleet.responses.length then
        some { fleet with customer := some (.start id coord uuid services), position := offset }
      else none
  | .listen beyond => do
      let customer ← fleet.customer
      let notice ← fleet.responses[fleet.position]?
      let (next, sent) ← customer.turn (.consume (some (notice.message.read beyond)))
      return { fleet with position := fleet.position + 1 }.spoke id next sent
  | .errand event =>
      match event with
      | .consume (some _) => none
      | event => do
          let customer ← fleet.customer
          let (next, sent) ← customer.turn event
          return fleet.spoke id next sent

/-- Central, the taxis and the customer as a machine. -/
def machine (session : Uuid) (id : Id) : Machine Fleet Event := ⟨step session id⟩

/-- Central has started after `Reset_DB`, and nothing else has. -/
def initial (locations : Table LocationRow.id) : Fleet where
  db := .initial locations
  response := .new
  ledger := .blank
  requests := []
  responses := []
  cabs := fun _ => none
  customer := none
  position := 0
  asked := 0

/-- What a step does, event by event. -/
inductive Stepped (session : Uuid) (id : Id) (fleet : Fleet) : Event → Fleet → Prop where
  | post {message : Message} (other : asks id message = false) :
      Stepped session id fleet (.post message)
        { fleet with requests := fleet.requests ++ [⟨message, none⟩] }
  | request {now : Timestamp} {outages : List Bool} {beyond : Beyond} {notice : Notice}
      {requests : List Notice} {request : Message} {outcome : Outcome KafkaServer Act Unit}
      (waiting : fleet.requests = notice :: requests)
      (read : request = (notice.message.read beyond).1)
      (ran : KafkaServer.process now session request ⟨fleet.db, outages, fleet.response⟩ =
        .ok outcome) :
      Stepped session id fleet (.request now outages beyond)
        { fleet with
          db := outcome.state.db
          response := outcome.state.response
          ledger := fleet.noted session id request notice.number
          requests := requests
          responses := fleet.responses ++ (Network.responsesOf outcome.acts).map fun message =>
            ⟨message, fleet.serving? session id request notice.number⟩ }
  | register (now : Timestamp) (taxiId : TaxiId) (reconnect : Bool) (outages : List Bool)
      {answer : Answer (Option Message)}
      (ran : AuthServer.addTaxi now session taxiId reconnect outages fleet.db = answer) :
      Stepped session id fleet (.register now taxiId reconnect outages)
        { fleet with
          db := answer.db
          requests := fleet.requests ++ answer.value.toList.map fun message => ⟨message, none⟩ }
  | board (process : Nat) (taxiId : TaxiId) (offset : Nat) :
      Stepped session id fleet (.board process taxiId offset)
        { fleet with
          cabs := Function.update fleet.cabs process (some ⟨.start taxiId session, offset⟩) }
  | hear {process : Nat} {beyond : Beyond} {cab : Cab} {after : EcDe} {notice : Notice}
      {acts : List EcDe.Act} (running : fleet.cabs process = some cab)
      (turned : cab.taxi.turn (.consume (some (notice.message.read beyond))) = some (after, acts)) :
      Stepped session id fleet (.hear process beyond)
        (fleet.turned process ⟨after, cab.position + 1⟩ acts)
  | drive {process : Nat} {event : EcDe.Event} {cab : Cab} {after : EcDe} {acts : List EcDe.Act}
      (running : fleet.cabs process = some cab) (turned : cab.taxi.turn event = some (after, acts)) :
      Stepped session id fleet (.drive process event) (fleet.turned process ⟨after, cab.position⟩ acts)
  | enter {offset : Nat} (coord : Coordinate) (uuid : Uuid) (services : Option (List Id))
      (absent : fleet.customer = none) (within : offset ≤ fleet.responses.length) :
      Stepped session id fleet (.enter offset coord uuid services)
        { fleet with customer := some (.start id coord uuid services), position := offset }
  | listen {beyond : Beyond} {customer after : EcCustomer} {notice : Notice}
      {sent : List FullMessage} (present : fleet.customer = some customer)
      (waiting : fleet.responses[fleet.position]? = some notice)
      (turned : customer.turn (.consume (some (notice.message.read beyond))) = some (after, sent)) :
      Stepped session id fleet (.listen beyond)
        ({ fleet with position := fleet.position + 1 }.spoke id after sent)
  | errand {event : EcCustomer.Event} {customer after : EcCustomer} {sent : List FullMessage}
      (deaf : ∀ message, event ≠ .consume (some message)) (present : fleet.customer = some customer)
      (turned : customer.turn event = some (after, sent)) :
      Stepped session id fleet (.errand event) (fleet.spoke id after sent)

/-- A step of the machine is one of those listed. -/
theorem stepped_of_step {session : Uuid} {id : Id} {fleet next : Fleet} {event : Event}
    (stepped : fleet.step session id event = some next) : Stepped session id fleet event next := by
  cases event with
  | post message =>
      simp only [step, Option.ite_none_left_eq_some, Option.some.injEq] at stepped
      obtain ⟨other, rfl⟩ := stepped
      exact .post (by simpa using other)
  | request now outages beyond =>
      simp only [step] at stepped
      split at stepped
      · cases stepped
      · next notice requests waiting =>
        split at stepped
        · cases stepped
        · next outcome ran =>
          cases stepped
          exact .request waiting rfl ran
  | register now taxiId reconnect outages =>
      simp only [step, Option.some.injEq] at stepped
      subst stepped
      exact .register now taxiId reconnect outages rfl
  | board process taxiId offset =>
      simp only [step, Option.ite_none_right_eq_some, Option.some.injEq] at stepped
      obtain ⟨_, rfl⟩ := stepped
      exact .board process taxiId offset
  | hear process beyond =>
      simp only [step, Option.bind_eq_bind, Option.bind_eq_some_iff, Option.pure_def,
        Option.some.injEq] at stepped
      obtain ⟨cab, running, notice, _, ⟨after, acts⟩, turned, rfl⟩ := stepped
      exact .hear running turned
  | drive process event =>
      simp only [step] at stepped
      split at stepped
      · cases stepped
      · simp only [Option.bind_eq_bind, Option.bind_eq_some_iff, Option.pure_def,
          Option.some.injEq] at stepped
        obtain ⟨cab, running, ⟨after, acts⟩, turned, rfl⟩ := stepped
        exact .drive running turned
  | enter offset coord uuid services =>
      simp only [step, Bool.and_eq_true, Option.isNone_iff_eq_none, decide_eq_true_eq,
        Option.ite_none_right_eq_some, Option.some.injEq] at stepped
      obtain ⟨⟨absent, within⟩, rfl⟩ := stepped
      exact .enter coord uuid services absent within
  | listen beyond =>
      simp only [step, Option.bind_eq_bind, Option.bind_eq_some_iff, Option.pure_def,
        Option.some.injEq] at stepped
      obtain ⟨customer, present, notice, waiting, ⟨after, sent⟩, turned, rfl⟩ := stepped
      exact .listen present waiting turned
  | errand event =>
      simp only [step] at stepped
      split at stepped
      · cases stepped
      · next deaf =>
        simp only [Option.bind_eq_bind, Option.bind_eq_some_iff, Option.pure_def,
          Option.some.injEq] at stepped
        obtain ⟨customer, present, ⟨after, sent⟩, turned, rfl⟩ := stepped
        exact .errand deaf present turned

end Fleet

/-- A step of Central, the taxis and the customer. -/
abbrev FleetStep := Transition Fleet Fleet.Event

/-! ### No taxi asks for a service -/

namespace EcDe

variable {taxi next : EcDe} {acts : List Act} {customer : Id}

/-- A message of another subject is no service request. -/
theorem asks_of_subject {message : Message} {subject : SubjRequest}
    (asked : message.subject = .request subject) (other : subject ≠ .customerServiceRequest) :
    Fleet.asks customer message = false := by
  simp [Fleet.asks, asked, other]

/-- What a taxi sends of itself under another subject is no service request. -/
theorem message_asks_nothing {subject : SubjRequest} (other : subject ≠ .customerServiceRequest) :
    ∀ sent ∈ Network.requestsOf [.produce (taxi.message subject)],
      Fleet.asks customer sent.1 = false := by
  intro sent member
  obtain rfl := List.mem_singleton.mp member
  exact asks_of_subject rfl other

/-- What a taxi sends back for a consumed response is no service request. -/
theorem Obeyed.asks_nothing {message : FullMessage} {subject : SubjResponse}
    (obeyed : taxi.Obeyed message subject next acts) :
    ∀ sent ∈ Network.requestsOf acts, Fleet.asks customer sent.1 = false := by
  cases obeyed with
  | arrived there =>
      intro sent member
      obtain rfl := List.mem_singleton.mp member
      exact asks_of_subject rfl (by decide)
  | _ => exact List.forall_mem_nil _

/-- What a taxi sends on a tick is no service request. -/
theorem Driven.asks_nothing {message : FullMessage} {waitTime : Int32} {sent : Option FullMessage}
    {moving : Bool} (drove : taxi.Driven message waitTime next sent) :
    ∀ message ∈ Network.requestsOf (sent.toList.map .produce ++ [.answer moving]),
      Fleet.asks customer message.1 = false := by
  cases drove with
  | waits waiting =>
      intro sent member
      obtain rfl := List.mem_singleton.mp member
      exact asks_of_subject rfl (by decide)
  | moves rolls apart allowed move =>
      intro sent member
      obtain rfl := List.mem_singleton.mp member
      apply asks_of_subject rfl
      split <;> decide
  | rests held => exact List.forall_mem_nil _

/-- A taxi never asks for a service. -/
theorem turn_asks_nothing {event : Event} (turned : taxi.turn event = some (next, acts)) :
    ∀ sent ∈ Network.requestsOf acts, Fleet.asks customer sent.1 = false := by
  cases turned_of_turn turned with
  | heard ordered obeyed => exact obeyed.asks_nothing
  | ticked attending drove => exact drove.asks_nothing
  | ended | connected | left | pinged => exact message_asks_nothing (by decide)
  | unheard | accepting | quit => exact List.forall_mem_nil _

end EcDe

end EasyCab
