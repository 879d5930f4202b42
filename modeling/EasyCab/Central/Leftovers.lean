import EasyCab.Central.Registration
import EasyCab.Customer.EcCustomer
import EasyCab.Library.Coupling

/-!
# What is left in the response object

`response` keeps its fields from one request to the next, and a handler sets some of them. Two runs
of a handler which begin with any two leftovers agree on the database, and on what the receiver
uses of each response: the handler sets it before it produces the response. So Central does the same
as one which resets `response` before each request.
-/

namespace EasyCab

open Library

/-- A response as its receiver uses it: what it does not use is blank. -/
def Message.used (message : Message) : Message :=
  let blank : Message := { Message.new with subject := message.subject }
  match message.subject with
  | .response .taxiGoTo => { blank with taxiId := message.taxiId, coord := message.coord }
  | .response .taxiStop | .response .taxiContinue | .response .taxiReturnToBase
  | .response .taxiDisconnect => { blank with taxiId := message.taxiId }
  | .response .customerServiceAccepted => { blank with id := message.id, taxiId := message.taxiId }
  | .response .customerDroppedOff => { blank with id := message.id, coord := message.coord }
  | .response .customerDisconnect | .response .customerPriority | .response .customerPickedUp
  | .response .customerEnqueued | .response .customerServiceCompleted
  | .response .customerServiceDenied => { blank with id := message.id }
  | .response .deny => { blank with session := message.session }
  | .response .accept => { blank with session := message.session }.setUuidData message.uuidFromData
  | _ => blank

@[simp] theorem Message.uuidFromData_setUuidData (message : Message) (uuid : Uuid) :
    (message.setUuidData uuid).uuidFromData = uuid :=
  Sized.ext (List.take_left' uuid.2)

@[simp] theorem Message.subject_setUuidData (message : Message) (uuid : Uuid) :
    (message.setUuidData uuid).subject = message.subject := rfl

@[simp] theorem Message.session_setUuidData (message : Message) (uuid : Uuid) :
    (message.setUuidData uuid).session = message.session := rfl

/-- An act as it is seen by those who receive responses. -/
def Act.used : Act → Act
  | .produce message => .produce message.used
  | act => act

namespace KafkaServer

/-- Two servers have one database, and their response objects agree on a field. -/
structure Shared {Field : Type} (field : Message → Field) (first second : KafkaServer) : Prop where
  db : first.db = second.db
  outages : first.outages = second.outages
  response : field first.response = field second.response

/-- From response objects which agree on `before`, two runs do the same for those who receive
responses, and leave response objects which agree on `after`. -/
abbrev Couples {Value Before After : Type} (before : Message → Before) (handler : Handler Value)
    (after : Message → After) : Prop :=
  Effect.Couples Act.used (Shared before) handler fun _ => Shared after

/-- The fields by which taxis and customers are addressed. -/
def addressed (message : Message) : TaxiId × Id × Coordinate :=
  (message.taxiId, message.id, message.coord)

/-- No field at all. -/
def nothing (_ : Message) : Unit := ()

section Couples

variable {Field Before After : Type} {field : Message → Field} {before : Message → Before}
  {after : Message → After} {now : Timestamp} {session : Uuid} {request : Message} {taxi : TaxiId}
  {customer : Id}

/-! ### Queries and responses -/

theorem query_couples {statements : List Statement} :
    Couples field (query now statements) field := by
  intro first second shared
  obtain ⟨db, outages, response⟩ := first
  obtain ⟨rfl, rfl, same⟩ := shared
  exact .ended rfl ⟨rfl, rfl, same⟩

theorem run_couples {statements : List Statement} : Couples field (run now statements) field :=
  query_couples.bind fun _ => Effect.couples_pure fun _ _ shared => shared

theorem setResponse_couples {update : Message → Message}
    (sets : ∀ first second, before first = before second → after (update first) = after (update second)) :
    Couples before (setResponse update) after :=
  Effect.couples_modify fun _ _ shared => ⟨shared.db, shared.outages, sets _ _ shared.response⟩

/-- A response is produced whose receiver uses what both agree on. -/
theorem produce_couples
    (told : ∀ first second, field first = field second → first.used = second.used) :
    Couples field produce field := by
  intro first second shared
  refine .ended ?_ shared
  change [Act.produce first.response.used] = [Act.produce second.response.used]
  rw [told _ _ shared.response]

theorem respond_couples {answer : SubjResponse}
    (told : ∀ first second : Message, before first = before second →
      { first with subject := .response answer }.used =
        { second with subject := .response answer }.used)
    (kept : ∀ first second : Message, before first = before second →
      after { first with subject := .response answer } =
        after { second with subject := .response answer }) :
    Couples before (respond answer) after := by
  have sets : Couples before
      (setResponse fun response => { response with subject := .response answer })
      fun message => (message.used, after message) :=
    setResponse_couples fun first second same => Prod.ext (told first second same)
      (kept first second same)
  have produces : Couples (fun message : Message => (message.used, after message)) produce
      fun message => (message.used, after message) :=
    produce_couples fun first second same => congrArg Prod.fst same
  refine sets.bind fun _ => produces.weaken fun _ first second shared => ?_
  exact ⟨shared.db, shared.outages, congrArg Prod.snd shared.response⟩

/-- Nothing need be shared afterwards. -/
theorem Couples.forget {Value : Type} {handler : Handler Value}
    (couples : Couples before handler after) : Couples before handler nothing :=
  couples.weaken fun _ _ _ shared => ⟨shared.db, shared.outages, rfl⟩

/-! ### Helper functions -/

theorem checkAvailableTaxis_couples : Couples field (checkAvailableTaxis now) field := by
  refine query_couples.bind fun answer => ?_
  cases answer with
  | error error => exact Effect.couples_pure fun _ _ shared => shared
  | ok results =>
      simp only
      split
      · exact Effect.couples_pure fun _ _ shared => shared
      · exact (Effect.couples_demand fun _ _ _ shared => shared).bind fun _ =>
          Effect.couples_pure fun _ _ shared => shared

theorem checkQueue_couples : Couples field (checkQueue now) field := by
  refine query_couples.bind fun answer => ?_
  cases answer with
  | error error => exact Effect.couples_pure fun _ _ shared => shared
  | ok results =>
      simp only
      split
      · exact Effect.couples_pure fun _ _ shared => shared
      · exact (Effect.couples_demand fun _ _ _ shared => shared).bind fun _ =>
          Effect.couples_pure fun _ _ shared => shared

theorem firstChar_couples {statement : Statement} :
    Couples field (firstChar now statement) field := by
  refine query_couples.bind fun answer => ?_
  cases answer with
  | error error => exact Effect.couples_pure fun _ _ shared => shared
  | ok results =>
      simp only
      split <;> exact Effect.couples_pure fun _ _ shared => shared

theorem getDestination_couples : Couples field (getDestination now customer) field := by
  refine query_couples.bind fun answer => ?_
  cases answer with
  | error error => exact Effect.couples_pure fun _ _ shared => shared
  | ok results =>
      simp only
      split
      · split
        · exact Effect.couples_pure fun _ _ shared => shared
        · exact (Effect.couples_demand fun _ _ _ shared => shared).bind fun _ =>
            (Effect.couples_demand fun _ _ _ shared => shared).bind fun _ =>
            Effect.couples_pure fun _ _ shared => shared
      · exact Effect.couples_pure fun _ _ shared => shared

theorem refreshMap_couples : Couples field (refreshMap now) field := by
  refine query_couples.bind fun answer => ?_
  cases answer with
  | error error => exact Effect.couples_pure fun _ _ shared => shared
  | ok results =>
      exact (Effect.couples_demand fun _ _ _ shared => shared).bind fun _ =>
        Effect.couples_record fun _ _ shared => shared

/-- `assign` writes all fields by which its two responses are addressed. -/
theorem assign_couples : Couples field (assign now taxi customer) Message.used := by
  refine (Effect.couples_record fun _ _ shared => shared).bind fun _ =>
    query_couples.bind fun answer => ?_
  refine (Effect.couples_demand fun _ _ _ shared => shared).bind fun results =>
    (Effect.couples_demand fun _ _ _ shared => shared).bind fun x =>
    (Effect.couples_demand fun _ _ _ shared => shared).bind fun y => ?_
  have sets : Couples field (setResponse fun response =>
      { response with taxiId := taxi, id := customer, coord := ⟨x, y⟩ }) addressed :=
    setResponse_couples fun _ _ _ => rfl
  refine sets.bind fun _ => ?_
  have goTo : Couples addressed (respond .taxiGoTo) addressed :=
    respond_couples (fun first second same => by simp_all [addressed, Message.used])
      fun _ _ same => same
  have accepted : Couples addressed (respond .customerServiceAccepted) Message.used :=
    respond_couples (fun first second same => by simp_all [addressed, Message.used])
      fun first second same => by simp_all [addressed, Message.used]
  exact goTo.bind fun _ => accepted

/-! ### The cases of the switch -/

/-- A response to a customer, after its identifier is set. -/
theorem respond_customer {answer : SubjResponse}
    (kind : answer ∈ [.customerDisconnect, .customerPriority, .customerPickedUp, .customerEnqueued,
      .customerServiceCompleted, .customerServiceDenied]) :
    Couples Message.id (respond answer) Message.id := by
  refine respond_couples (fun first second same => ?_) fun _ _ same => same
  simp only [List.mem_cons, List.not_mem_nil, or_false] at kind
  rcases kind with rfl | rfl | rfl | rfl | rfl | rfl <;> simp [Message.used, same]

/-- A response to a taxi which uses nothing but its identifier. -/
theorem respond_taxi {answer : SubjResponse}
    (kind : answer ∈ [.taxiStop, .taxiContinue, .taxiDisconnect]) :
    Couples Message.taxiId (respond answer) nothing := by
  refine respond_couples (fun first second same => ?_) fun _ _ _ => rfl
  simp only [List.mem_cons, List.not_mem_nil, or_false] at kind
  rcases kind with rfl | rfl | rfl <;> simp [Message.used, same]

/-- A response which sends a taxi somewhere is the same where the taxi and the coordinate are. -/
theorem respond_goTo :
    Couples (fun message => (message.taxiId, message.coord)) (respond .taxiGoTo) nothing :=
  respond_couples (fun first second same => by simp_all [Message.used]) fun _ _ _ => rfl

theorem onTaxiArrival_couples : Couples field (onTaxiArrival now request) nothing := by
  refine checkQueue_couples.bind fun found => ?_
  cases found with
  | none => exact Effect.couples_pure fun _ _ shared => ⟨shared.db, shared.outages, rfl⟩
  | some customer => exact assign_couples.forget

theorem onCustomerDisconnect_couples :
    Couples field (onCustomerDisconnect now request) nothing :=
  (@run_couples _ field _ _).bind fun _ =>
    (@setResponse_couples _ _ field Message.id _ fun _ _ _ => rfl).bind fun _ =>
    (respond_customer (by simp)).forget

theorem onCustomerPriority_couples : Couples field (onCustomerPriority now request) nothing :=
  (@run_couples _ field _ _).bind fun _ =>
    (@setResponse_couples _ _ field Message.id _ fun _ _ _ => rfl).bind fun _ =>
    (respond_customer (by simp)).forget

theorem updateAndRespond_couples {statement : Statement} {answer : SubjResponse}
    (kind : answer ∈ [.taxiStop, .taxiContinue, .taxiDisconnect]) :
    Couples field (updateAndRespond now statement taxi answer) nothing :=
  (@run_couples _ field _ _).bind fun _ =>
    (@setResponse_couples _ _ field Message.taxiId _ fun _ _ _ => rfl).bind fun _ =>
    respond_taxi kind

theorem reportPosition_couples : Couples field (reportPosition now request) field :=
  firstChar_couples.bind fun _ => (@run_couples _ field _ _).bind fun _ =>
    Effect.couples_pure fun _ _ shared => shared

theorem completeService_couples : Couples field (completeService now request customer) nothing := by
  refine (@run_couples _ field _ _).bind fun _ =>
    (@setResponse_couples _ _ field Message.id _ fun _ _ _ => rfl).bind fun _ =>
    (respond_customer (by simp)).bind fun _ => checkQueue_couples.bind fun found => ?_
  cases found with
  | none => exact Effect.couples_pure fun _ _ shared => ⟨shared.db, shared.outages, rfl⟩
  | some next => exact assign_couples.forget

/-- The identifier of the taxi and the coordinate are set between the two responses. -/
theorem pickUp_couples : Couples field (pickUp now request) nothing := by
  refine firstChar_couples.bind fun service =>
    (Effect.couples_demand fun _ _ _ shared => shared).bind fun customer =>
    getDestination_couples.bind fun coord => (@run_couples _ field _ _).bind fun _ =>
    (@setResponse_couples _ _ field Message.id _ fun _ _ _ => rfl).bind fun _ => ?_
  cases coord with
  | none => exact (respond_customer (by simp)).forget
  | some coord =>
      exact (respond_customer (by simp)).bind fun _ =>
        (@setResponse_couples _ _ Message.id Message.taxiId _ fun _ _ _ => rfl).bind fun _ =>
        (@setResponse_couples _ _ Message.taxiId (fun message => (message.taxiId, message.coord)) _
          fun first second same => by simp [same]).bind fun _ => respond_goTo

theorem onDestinationReached_couples :
    Couples field (onDestinationReached now request) nothing := by
  refine reportPosition_couples.bind fun carried => ?_
  cases carried with
  | none => exact pickUp_couples
  | some customer => exact completeService_couples

theorem onTaxiMove_couples : Couples field (onTaxiMove now request) field :=
  reportPosition_couples.bind fun _ => Effect.couples_pure fun _ _ shared => shared

/-- What is produced after `assign` is what `assign` produced last. -/
theorem onServiceRequest_couples : Couples field (onServiceRequest now request) nothing := by
  refine checkAvailableTaxis_couples.bind fun found =>
    (@setResponse_couples _ _ field Message.id _ fun _ _ _ => rfl).bind fun _ => ?_
  cases found with
  | none => exact (@run_couples _ Message.id _ _).bind fun _ => (respond_customer (by simp)).forget
  | some taxi =>
      have stores : Couples Message.id (setDestination now request.id request.charFromData)
          Message.id := by
        refine query_couples.bind fun answer => ?_
        cases answer <;> exact Effect.couples_pure fun _ _ shared => shared
      refine stores.bind fun stored => ?_
      cases stored with
      | true => exact Couples.forget (assign_couples.bind fun _ => produce_couples fun _ _ same => same)
      | false => exact (respond_customer (by simp)).forget

theorem onTaxiGoTo_couples : Couples field (onTaxiGoTo now request) nothing :=
  (@run_couples _ field _ _).bind fun _ =>
    (@setResponse_couples _ _ field (fun message => (message.taxiId, message.coord)) _
      fun _ _ _ => rfl).bind fun _ => respond_goTo

/-- A verdict carries the session of the request, and an acceptance that of Central. -/
theorem newCustomer_couples : Couples field (newCustomer now session request) nothing := by
  refine (@setResponse_couples _ _ field Message.session _ fun _ _ _ => rfl).bind fun _ =>
    query_couples.bind fun answer => ?_
  cases answer with
  | error error => exact Effect.couples_pure fun _ _ shared => ⟨shared.db, shared.outages, rfl⟩
  | ok results =>
      simp only
      split
      · refine query_couples.bind fun inserted => ?_
        cases inserted with
        | error error => exact Effect.couples_pure fun _ _ shared => ⟨shared.db, shared.outages, rfl⟩
        | ok _ =>
            have accepts : Couples Message.session (setResponse fun response =>
                { response with subject := .response .accept }.setUuidData session)
                Message.used := by
              refine setResponse_couples fun first second same => ?_
              simp [Message.used, same]
            exact Couples.forget (accepts.bind fun _ => produce_couples fun _ _ same => same)
      · exact respond_couples (fun first second same => by simp [Message.used, same]) fun _ _ _ => rfl

/-! ### The switch -/

theorem handle_couples (subject : SubjRequest) :
    Couples field (handle now session subject request) nothing := by
  have finish {Last : Type} {handler : Handler Unit} {refresh : Bool} {after : Message → Last}
      (couples : Couples field handler after) :
      Couples field (handler >>= fun _ => pure refresh) nothing :=
    couples.bind fun _ =>
      Effect.couples_pure fun _ _ shared => ⟨shared.db, shared.outages, rfl⟩
  cases subject with
  | taxiReconnected | newTaxi => exact finish onTaxiArrival_couples
  | orderCustomerDisconnect => exact finish onCustomerDisconnect_couples
  | orderTaxiDisconnect | orderTaxiStop | orderTaxiContinue =>
      refine finish (updateAndRespond_couples ?_)
      simp
  | newCustomer => exact finish newCustomer_couples
  | taxiDestinationReached => exact finish onDestinationReached_couples
  | taxiMove => exact finish onTaxiMove_couples
  | customerServiceRequest => exact finish onServiceRequest_couples
  | orderTaxiReturnToBase | orderTaxiGoTo => exact finish onTaxiGoTo_couples
  | orderCustomerPriority => exact finish onCustomerPriority_couples
  | taxiPing | taxiReady | taxiNotReady | customerPing | customerUpdateNextRequest
  | taxiUpdateWaitTime | orderLocationMove => exact finish run_couples
  | unlisted code undeclared =>
      exact Effect.couples_pure fun _ _ shared => ⟨shared.db, shared.outages, rfl⟩

/-- Whatever is left in the two response objects, and whatever its queries meet, a request is
treated in the same way. -/
theorem process_couples : Couples nothing (process now session request) nothing := by
  unfold process
  cases accepted? session request with
  | none => exact Effect.couples_pure fun _ _ shared => shared
  | some subject =>
      refine (Effect.couples_record fun _ _ shared => shared).bind fun _ =>
        (handle_couples subject).bind fun refresh => ?_
      cases refresh with
      | true => exact refreshMap_couples
      | false => exact Effect.couples_pure fun _ _ shared => shared

end Couples

end KafkaServer

/-! ### Central which resets its response object -/

namespace System

/-- Central which does something to `response` before each step. -/
def preparing (session : Uuid) (prepare : Message → Message) : Machine System Event :=
  ⟨fun system event => step session { system with response := prepare system.response } event⟩

/-- Central which resets `response`. -/
def resetting (session : Uuid) : Machine System Event := preparing session fun _ => .new

/-- What Central has put on `responses`, in order. -/
def log (system : System) : List Message := (Act.responses system.trace).reverse

/-- Two systems have one database, and those who receive responses see no difference. -/
structure Alike (first second : System) : Prop where
  db : first.db = second.db
  trace : first.trace.map Act.used = second.trace.map Act.used

theorem Alike.symm {first second : System} (alike : first.Alike second) : second.Alike first :=
  ⟨alike.db.symm, alike.trace.symm⟩

/-- The responses in what is seen of some acts are the responses as they are used. -/
theorem responses_map_used (acts : List Act) :
    Act.responses (acts.map Act.used) = (Act.responses acts).map Message.used := by
  induction acts with
  | nil => rfl
  | cons act acts inductionHypothesis =>
      cases act with
      | produce message => exact congrArg (message.used :: ·) inductionHypothesis
      | _ => exact inductionHypothesis

/-- Whoever receives the responses of two alike systems uses the same. -/
theorem Alike.log {first second : System} (alike : first.Alike second) :
    first.log.map Message.used = second.log.map Message.used := by
  have same := congrArg Act.responses alike.trace
  rw [responses_map_used, responses_map_used] at same
  rw [System.log, System.log, List.map_reverse, List.map_reverse, same]

variable {session : Uuid} {first second : System}

/-- Alike systems make alike steps, whatever is left in their response objects. -/
theorem Alike.step (alike : first.Alike second) {event : Event} {next : System}
    (stepped : System.step session first event = some next) :
    ∃ other, System.step session second event = some other ∧ next.Alike other := by
  obtain ⟨db, response, trace⟩ := first
  obtain ⟨db', response', trace'⟩ := second
  obtain ⟨rfl, seen⟩ := alike
  cases event with
  | addTaxi now taxiId reconnect outages =>
      cases stepped
      exact ⟨_, rfl, rfl, by simp only [List.map_append, seen]⟩
  | request now message outages =>
      have paired := @KafkaServer.process_couples now session message ⟨db, outages, response⟩
        ⟨db, outages, response'⟩ ⟨rfl, rfl, rfl⟩
      simp only [System.step] at stepped ⊢
      generalize KafkaServer.process now session message ⟨db, outages, response⟩ = ran at *
      generalize KafkaServer.process now session message ⟨db, outages, response'⟩ = ran' at *
      cases paired with
      | died acts => cases stepped
      | ended acts shared =>
          cases stepped
          refine ⟨_, rfl, shared.db, ?_⟩
          simp only [List.map_append, List.map_reverse, acts, seen]

/-- Whatever is done to the two response objects, alike systems stay alike. -/
theorem Alike.exec {prepare prepare' : Message → Message} (alike : first.Alike second)
    {events : List Event} {last : System}
    (executed : (preparing session prepare).exec first events = some last) :
    ∃ other, (preparing session prepare').exec second events = some other ∧ last.Alike other := by
  induction events generalizing first second with
  | nil =>
      cases executed
      exact ⟨second, rfl, alike⟩
  | cons event events inductionHypothesis =>
      cases stepped : (preparing session prepare).step first event with
      | none => simp [Machine.exec, stepped] at executed
      | some next =>
          simp only [Machine.exec, stepped] at executed
          have prepared : Alike { first with response := prepare first.response }
              { second with response := prepare' second.response } := ⟨alike.db, alike.trace⟩
          obtain ⟨other, taken, alikeNext⟩ := prepared.step stepped
          obtain ⟨final, executedToo, alikeLast⟩ := inductionHypothesis alikeNext executed
          have steppedToo : (preparing session prepare').step second event = some other := taken
          exact ⟨final, by simp only [Machine.exec, steppedToo, executedToo], alikeLast⟩

/-- Central does nothing to its response object. -/
theorem machine_eq_preparing (session : Uuid) : machine session = preparing session id := rfl

end System

/-! ### Sessions of the responses -/

/-- The session of a message has the length of a session, or neither it nor the data were ever
written. -/
def Message.Whole (message : Message) : Prop :=
  message.session.length = uuidLength ∨
    message.session = [] ∧ message.data = Message.new.data

/-- The first message which carries the session is a verdict. -/
def VerdictFirst (uuid : List UInt8) : List Message → Prop
  | [] => True
  | reply :: log => if reply.session = uuid then reply.isVerdict = true else VerdictFirst uuid log

theorem verdictFirst_of_none {uuid : List UInt8} {log : List Message}
    (none : ∀ reply ∈ log, reply.session ≠ uuid) : VerdictFirst uuid log := by
  induction log with
  | nil => trivial
  | cons reply log inductionHypothesis =>
      rw [List.forall_mem_cons] at none
      rw [VerdictFirst, if_neg none.1]
      exact inductionHypothesis none.2

/-- More may follow, but where no message carries the session yet the first one is to be a
verdict. -/
theorem verdictFirst_append {uuid : List UInt8} {log more : List Message}
    (first : VerdictFirst uuid log)
    (later : (∀ reply ∈ log, reply.session ≠ uuid) → VerdictFirst uuid more) :
    VerdictFirst uuid (log ++ more) := by
  induction log with
  | nil => exact later (by simp)
  | cons reply log inductionHypothesis =>
      rw [List.cons_append, VerdictFirst]
      rw [VerdictFirst] at first
      by_cases own : reply.session = uuid
      · rwa [if_pos own] at first ⊢
      · rw [if_neg own] at first ⊢
        refine inductionHypothesis first fun none => later ?_
        exact List.forall_mem_cons.mpr ⟨own, none⟩

/-- Only a registration writes to the data of `response`. -/
theorem KafkaServer.Handled.data_kept {now : Timestamp} {session : Uuid} {request : Message}
    {subject : SubjRequest} {before after : KafkaServer} {acts : List Act}
    (handled : Handled now session before request subject after acts)
    (other : subject ≠ .newCustomer) : after.response.data = before.response.data ∧
      ∀ reply, .produce reply ∈ acts → reply.data = before.response.data := by
  have assigned {taxi : TaxiId} {customer : Id} {middle : KafkaServer} {later : List Act}
      (assigned : Assigned now taxi customer middle after later) :
      after.response.data = middle.response.data ∧
        ∀ reply, .produce reply ∈ later → reply.data = middle.response.data := by
    obtain ⟨coord, _, response⟩ := assigned.sent
    rw [assigned.acts, response]
    simp
  cases handled with
  | denied kind | accepted kind => exact absurd kind other
  | ignored _ _ _ _ response recorded | arrivedIdle _ _ _ response recorded
  | silent _ _ _ response recorded | moved _ _ response recorded =>
      rw [response, recorded]
      simp
  | arrivedAssigned _ _ _ sent => exact assigned sent
  | flagged _ _ _ _ response recorded | deleted _ _ response recorded
  | prioritized _ _ response recorded | completed _ _ _ _ _ response recorded
  | pickUpDenied _ _ _ _ _ _ response recorded | enqueued _ _ _ response recorded
  | redirected _ _ _ response recorded | pickedUp _ _ _ _ _ _ _ response recorded =>
      rw [recorded, response]
      simp
  | completedAssigned _ _ middle later _ _ _ _ response sent recorded =>
      have kept : middle.response.data = before.response.data := by rw [response]
      obtain ⟨last, produced⟩ := assigned sent
      rw [kept] at last produced
      refine ⟨last, fun reply member => ?_⟩
      rw [recorded, List.mem_cons, Act.produce.injEq] at member
      rcases member with rfl | later
      · exact kept
      · exact produced reply later
  | requestAssigned _ middle _ _ _ _ response sent recorded =>
      have kept : middle.response.data = before.response.data := by rw [response]
      obtain ⟨last, produced⟩ := assigned sent
      rw [kept] at last produced
      refine ⟨last, fun reply member => ?_⟩
      rw [recorded, List.mem_append, List.mem_singleton, Act.produce.injEq] at member
      rcases member with earlier | rfl
      · exact produced reply earlier
      · exact last

namespace CentralStep

variable {session : Uuid} {taken : CentralStep}

/-- A step adds its responses to the log. -/
theorem log_of_step
    (stepped : (System.machine session).step taken.before taken.event = some taken.after) :
    taken.after.log = taken.before.log ++ taken.responses := by
  have reversed : taken.responses = (Act.responses taken.recorded).reverse := List.filterMap_reverse
  rw [System.log, System.log, trace_of_step stepped, Act.responses_append, List.reverse_append,
    reversed]

/-- A consumed `NEW_CUSTOMER` is asked of the switch. -/
theorem asked_of_uuid {uuid : List UInt8} (own : taken.event.uuid? = some uuid) :
    ∃ request, taken.request? session = some (request, .newCustomer) ∧ request.session = uuid := by
  cases event : taken.event with
  | addTaxi => simp [event, System.Event.uuid?] at own
  | request now request outages =>
      simp only [event, System.Event.uuid?, Option.ite_none_right_eq_some, Option.some.injEq] at own
      exact ⟨request, by simp [request?, event, accepted_newCustomer own.1], own.2⟩

/-- What a step produces for a registration is one verdict with its session. -/
theorem verdict_of_uuid
    (stepped : (System.machine session).step taken.before taken.event = some taken.after)
    (succeeds : taken.Succeeds) {uuid : List UInt8} (own : taken.event.uuid? = some uuid) :
    ∃ reply, taken.responses = [reply] ∧ reply.session = uuid ∧ reply.isVerdict = true := by
  obtain ⟨request, asked, rfl⟩ := @asked_of_uuid session taken uuid own
  obtain ⟨reply, told, carries, verdict⟩ := replied_of_step stepped succeeds asked
  refine ⟨reply, told, carries, ?_⟩
  rcases verdict with ⟨subject, _⟩ | ⟨subject, _⟩ <;> simp [Message.isVerdict, subject]

/-- Messages stay whole where registrations carry whole sessions. -/
theorem whole_of_step
    (stepped : (System.machine session).step taken.before taken.event = some taken.after)
    (succeeds : taken.Succeeds) (sized : ∀ uuid ∈ taken.event.uuid?, uuid.length = uuidLength)
    (whole : taken.before.response.Whole) :
    taken.after.response.Whole ∧ ∀ reply ∈ taken.responses, reply.Whole := by
  obtain ⟨held, produced⟩ := carried_of_step stepped
  cases own : taken.event.uuid? with
  | some uuid =>
      have carries : taken.carried.length = uuidLength := by
        rw [carried, own]
        exact sized uuid own
      exact ⟨.inl (held ▸ carries), fun reply member => .inl (produced reply member ▸ carries)⟩
  | none =>
      have carries : taken.carried = taken.before.response.session := by
        rw [carried, own]
        rfl
      rw [carries] at held produced
      have kept : taken.after.response.data = taken.before.response.data ∧
          ∀ reply ∈ taken.responses, reply.data = taken.before.response.data := by
        cases taken_of_step stepped succeeds with
        | added _ _ _ _ _ response trace =>
            have grows : taken.after.trace = [_] ++ taken.before.trace := trace
            rw [response, responses, recorded_append grows]
            exact ⟨rfl, fun reply member => by cases member⟩
        | dropped _ unchanged =>
            have grows : taken.after.trace = [] ++ taken.before.trace := by
              rw [unchanged]
              rfl
            rw [responses, recorded_append grows, unchanged]
            exact ⟨rfl, fun reply member => by cases member⟩
        | treated now message subject outages handled acts maps asked treats db response trace =>
            have other : subject ≠ .newCustomer := fun joins => by
              rw [uuid?_of_asked asked, if_pos joins] at own
              cases own
            obtain ⟨last, told⟩ := treats.data_kept other
            rw [responses_of_treated trace, response]
            exact ⟨last, fun reply member => told reply (Act.mem_responses_iff.mp member)⟩
      have likewise {message : Message}
          (sameSession : message.session = taken.before.response.session)
          (sameData : message.data = taken.before.response.data) : message.Whole := by
        rw [Message.Whole, sameSession, sameData]
        exact whole
      exact ⟨likewise held kept.1,
        fun reply member => likewise (produced reply member) (kept.2 reply member)⟩

end CentralStep

namespace System

/-- The messages of a system are whole. The first response with the session is a verdict, and
`response` does not hold the session before that. -/
structure Orderly (uuid : List UInt8) (system : System) : Prop where
  held : system.response.Whole
  whole : ∀ reply ∈ system.log, reply.Whole
  verdict : VerdictFirst uuid system.log
  waits : system.response.session = uuid → ∃ reply ∈ system.log, reply.session = uuid

/-- The messages of a system are whole, and only verdicts carry a session. -/
structure Reset (system : System) : Prop where
  whole : ∀ reply ∈ system.log, reply.Whole
  verdict : ∀ reply ∈ system.log, reply.session ≠ [] → reply.isVerdict = true

variable {session : Uuid} {taken : CentralStep} {uuid : List UInt8}

theorem Orderly.step (orderly : taken.before.Orderly uuid)
    (stepped : (machine session).step taken.before taken.event = some taken.after)
    (succeeds : taken.Succeeds) (sized : ∀ uuid ∈ taken.event.uuid?, uuid.length = uuidLength) :
    taken.after.Orderly uuid := by
  obtain ⟨held, produced⟩ := CentralStep.carried_of_step stepped
  obtain ⟨heldWhole, producedWhole⟩ := CentralStep.whole_of_step stepped succeeds sized orderly.held
  have grows := CentralStep.log_of_step stepped
  refine ⟨heldWhole, ?_, ?_, ?_⟩
  · rw [grows, List.forall_mem_append]
    exact ⟨orderly.whole, producedWhole⟩
  · rw [grows]
    refine verdictFirst_append orderly.verdict fun none => ?_
    cases own : taken.event.uuid? with
    | some registered =>
        obtain ⟨reply, told, _, verdict⟩ := CentralStep.verdict_of_uuid stepped succeeds own
        rw [told, VerdictFirst]
        split
        · exact verdict
        · trivial
    | none =>
        refine verdictFirst_of_none fun reply member carries => ?_
        rw [produced reply member, CentralStep.carried, own] at carries
        obtain ⟨earlier, listed, carried⟩ := orderly.waits carries
        exact none earlier listed carried
  · intro holds
    rw [held, CentralStep.carried] at holds
    cases own : taken.event.uuid? with
    | some registered =>
        obtain ⟨reply, told, carries, _⟩ := CentralStep.verdict_of_uuid stepped succeeds own
        rw [own, Option.getD_some] at holds
        exact ⟨reply, by simp [grows, told], carries.trans holds⟩
    | none =>
        rw [own, Option.getD_none] at holds
        obtain ⟨earlier, listed, carried⟩ := orderly.waits holds
        exact ⟨earlier, by simp [grows, listed], carried⟩

theorem Reset.step {before : System} (reset : before.Reset)
    (blank : taken.before = { before with response := .new })
    (stepped : (machine session).step taken.before taken.event = some taken.after)
    (succeeds : taken.Succeeds) (sized : ∀ uuid ∈ taken.event.uuid?, uuid.length = uuidLength) :
    taken.after.Reset := by
  have held : taken.before.response = .new := by rw [blank]
  have new : taken.before.response.Whole := .inr (by rw [held]; exact ⟨rfl, rfl⟩)
  obtain ⟨_, produced⟩ := CentralStep.carried_of_step stepped
  obtain ⟨_, producedWhole⟩ := CentralStep.whole_of_step stepped succeeds sized new
  have same : taken.before.log = before.log := by rw [blank]; rfl
  have grows := CentralStep.log_of_step stepped
  rw [same] at grows
  refine ⟨?_, ?_⟩
  · rw [grows, List.forall_mem_append]
    exact ⟨reset.whole, producedWhole⟩
  · rw [grows, List.forall_mem_append]
    refine ⟨reset.verdict, fun reply member written => ?_⟩
    cases own : taken.event.uuid? with
    | some registered =>
        obtain ⟨only, told, _, verdict⟩ := CentralStep.verdict_of_uuid stepped succeeds own
        rw [told, List.mem_singleton] at member
        rwa [member]
    | none =>
        rw [produced reply member, CentralStep.carried, own, held] at written
        exact absurd rfl written

/-- Where nothing fails in a step, nothing fails in an alike one. -/
theorem Alike.succeeds {other : CentralStep} (alikeBefore : taken.before.Alike other.before)
    (alikeAfter : taken.after.Alike other.after)
    (stepped : (machine session).step taken.before taken.event = some taken.after)
    (steppedToo : (machine session).step other.before other.event = some other.after)
    (succeeds : taken.Succeeds) : other.Succeeds := by
  have seen := alikeAfter.trace
  rw [CentralStep.trace_of_step stepped, CentralStep.trace_of_step steppedToo, List.map_append,
    List.map_append, alikeBefore.trace, List.append_cancel_right_eq] at seen
  intro act member failure
  have listed : act.used ∈ taken.recorded.map Act.used := seen ▸ List.mem_map_of_mem member
  obtain ⟨own, recorded, same⟩ := List.mem_map.mp listed
  apply succeeds own recorded
  cases act with
  | failed error =>
      cases own with
      | failed => trivial
      | _ => cases same
  | _ => exact failure.elim

/-- In two alike runs in which nothing fails, where the second one resets its response object, the
messages are as they should be. -/
theorem exec_orderly {first second : System} (alike : first.Alike second)
    (orderly : first.Orderly uuid) (reset : second.Reset) {events : List Event} {last : System}
    (succeeds : ∀ taken ∈ (machine session).run first events, CentralStep.Succeeds taken)
    (sized : ∀ event ∈ events, ∀ uuid ∈ event.uuid?, uuid.length = uuidLength)
    (executed : (machine session).exec first events = some last) :
    ∃ other, (resetting session).exec second events = some other ∧ last.Alike other ∧
      last.Orderly uuid ∧ other.Reset := by
  induction events generalizing first second with
  | nil =>
      cases executed
      exact ⟨second, rfl, alike, orderly, reset⟩
  | cons event events inductionHypothesis =>
      cases stepped : (machine session).step first event with
      | none => simp [Machine.exec, stepped] at executed
      | some next =>
          simp only [Machine.exec, stepped] at executed
          simp only [Machine.run, stepped, List.forall_mem_cons] at succeeds
          rw [List.forall_mem_cons] at sized
          have blank : first.Alike { second with response := .new } := ⟨alike.db, alike.trace⟩
          obtain ⟨other, taken, alikeNext⟩ := blank.step stepped
          let actual : CentralStep := ⟨first, event, next⟩
          let cleared : CentralStep := ⟨{ second with response := .new }, event, other⟩
          have clean : cleared.Succeeds :=
            @Alike.succeeds session actual cleared blank alikeNext stepped taken succeeds.1
          have orderlyNext : next.Orderly uuid :=
            @Orderly.step session actual uuid orderly stepped succeeds.1 sized.1
          have resetNext : other.Reset :=
            @Reset.step session cleared second reset rfl taken clean sized.1
          obtain ⟨final, executedToo, facts⟩ :=
            inductionHypothesis alikeNext orderlyNext resetNext succeeds.2 sized.2 executed
          have steppedToo : (resetting session).step second event = some other := taken
          exact ⟨final, by simp only [Machine.exec, steppedToo, executedToo], facts⟩

end System

end EasyCab
