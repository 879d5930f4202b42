import EasyCab.Central.Observers

/-!
# The waiting queue

A queued customer is one whose `in_queue` is set. Assigning the head of the queue
leaves `in_queue` as it was, so the next search answers the same customer again.
`waitingLine` is the queue as it should be, read off the trace: who was enqueued and
not assigned since, in the order of enqueueing.
-/

namespace EasyCab

open Library

/-- When a customer entered the queue. -/
def Tables.inQueueOf (tables : Tables) (customer : Id) : Option Timestamp :=
  (tables.customers.lookup customer).bind (·.inQueue)

/-- The head of the queue is in the queue. -/
theorem Tables.inQueueOf_queueHead {tables : Tables} {customer : Id}
    (head : tables.queueHead = some customer) : (tables.inQueueOf customer).isSome := by
  obtain ⟨row, least, rfl⟩ := Option.map_eq_some_iff.mp head
  have member := List.argmin_mem least
  rw [queue, List.mem_filter] at member
  simpa [inQueueOf, Table.lookup_of_mem member.1] using member.2

namespace Trace

/-- Who waits, by the acts: a customer who is enqueued goes to the end of the line, and one
to whom a taxi is assigned leaves it. -/
def lineNote : Act → List Id → List Id
  | .produce message, line =>
      if message.subject = .response .customerEnqueued then
        (line.filter fun other => other ≠ message.id) ++ [message.id]
      else line
  | .assign _ customer, line => line.filter fun other => other ≠ customer
  | _, line => line

/-- See `lineNote`. -/
def waitingLine (trace : List Act) : List Id := observe lineNote [] trace

end Trace

/-- The customers to whom some acts assign a taxi. -/
def assignments (acts : List Act) : List Id :=
  acts.filterMap fun act =>
    match act with
    | .assign _ customer => some customer
    | _ => none

theorem assignments_append (first second : List Act) :
    assignments (first ++ second) = assignments first ++ assignments second :=
  List.filterMap_append

theorem assignments_reverse (acts : List Act) :
    assignments acts.reverse = (assignments acts).reverse :=
  List.filterMap_reverse

/-- Acts which are no calls of `assign` assign nobody. -/
theorem assignments_eq_nil {acts : List Act} (nobody : ∀ act ∈ acts, ¬ act.IsAssign) :
    assignments acts = [] := by
  refine List.filterMap_eq_nil_iff.mpr fun act member => ?_
  have other := nobody act member
  cases act with
  | assign taxi customer => exact absurd trivial other
  | _ => rfl

/-- A dispatch assigns its customer. -/
theorem assignments_dispatch {taxi : TaxiId} {customer : Id} {coord : Coordinate}
    {acts : List Act} (dispatch : Dispatch taxi customer coord acts) :
    assignments acts = [customer] := by
  obtain ⟨goTo, accepted, rfl, _⟩ := dispatch.acts
  rfl

namespace KafkaServer

/-- The customer whom a request is about to take from the queue. -/
def dequeued? (tables : Tables) (request : Message) (subject : SubjRequest) : Option Id :=
  if subject = .customerServiceRequest then none
  else (assignment? tables request subject).map (·.2)

variable {now : Timestamp} {session : Uuid} {before after : KafkaServer} {request : Message}
  {subject : SubjRequest} {acts : List Act} {tables : Tables}

/-- A handled request assigns the customer it is about to assign. -/
theorem Handled.assignments_eq (handled : Handled now session before request subject after acts) :
    assignments acts = ((assignment? before.db.toTables request subject).map (·.2)).toList := by
  rcases handled.assigns with ⟨none, nobody⟩ | ⟨taxi, customer, assigns⟩
  · rw [none, assignments_eq_nil nobody]
    rfl
  · obtain ⟨coord, ended, later, rest, rfl, dispatch, quiet, completed⟩ := assigns.acts
    have endedNobody : assignments ended = [] := by
      rcases completed with ⟨rfl, _⟩ | ⟨answer, rfl, _⟩ <;> rfl
    have restNobody := assignments_eq_nil fun act member => (quiet act member).not_isAssign
    rw [assignments_append, assignments_append, endedNobody, restNobody,
      assignments_dispatch dispatch, assigns.due]
    rfl

/-- Whom a request takes from the queue was its head. -/
theorem queueHead_of_dequeued {customer : Id}
    (taken : dequeued? tables request subject = some customer) :
    tables.queueHead = some customer := by
  unfold dequeued? at taken
  split at taken
  · cases taken
  · next other =>
      obtain ⟨⟨taxi, next⟩, due, rfl⟩ := Option.map_eq_some_iff.mp taken
      cases subject <;> simp only [assignment?, reduceCtorEq] at due
      case taxiReconnected | newTaxi =>
        obtain ⟨found, head, same⟩ := Option.map_eq_some_iff.mp due
        cases same
        exact head
      case taxiDestinationReached =>
        obtain ⟨carried, _, head⟩ := Option.bind_eq_some_iff.mp due
        obtain ⟨found, head, same⟩ := Option.map_eq_some_iff.mp head
        cases same
        exact head
      case customerServiceRequest => exact absurd rfl other

/-- An assignment leaves every customer as it was. -/
theorem inQueueOf_assignTaxi {taxi : TaxiId} {customer other : Id} :
    (tables.assignTaxi now taxi customer).inQueueOf other = tables.inQueueOf other := by
  unfold Tables.assignTaxi
  cases tables.customers.lookup customer <;> rfl

/-- An update of a customer which leaves `in_queue` alone leaves every `in_queue` alone. -/
theorem inQueueOf_updateCustomer {customer other : Id} (update : CustomerRow → CustomerRow)
    (keeps : ∀ row, (update row).id = row.id) (kept : ∀ row, (update row).inQueue = row.inQueue) :
    (tables.updateCustomer now customer update keeps).inQueueOf other = tables.inQueueOf other := by
  unfold Tables.inQueueOf Tables.updateCustomer
  rw [Table.lookup_modify]
  by_cases same : other = customer
  · cases tables.customers.lookup other <;> simp [same, kept]
  · rw [if_neg same]

/-- A position and a flag `onboard` leave every `in_queue` as it is. -/
theorem inQueueOf_onboardTables {customer other : Id} {taxi : TaxiId} {val : Bool}
    {coord : Coordinate} {carried : Option Id} :
    (onboardTables now customer taxi val (movedTables now taxi coord carried tables)).inQueueOf
      other = tables.inQueueOf other := by
  have flag (tables : Tables) :
      (tables.setOnboardFlag now customer val).inQueueOf other = tables.inQueueOf other :=
    inQueueOf_updateCustomer (fun row => { row with onboard := val }) (fun _ => rfl) fun _ => rfl
  have move (tables : Tables) (passenger : Id) :
      (tables.moveCustomer now passenger coord).inQueueOf other = tables.inQueueOf other :=
    inQueueOf_updateCustomer (fun row => { row with x := coord.x, y := coord.y }) (fun _ => rfl)
      fun _ => rfl
  apply (flag _).trans
  cases carried with
  | none => rfl
  | some passenger => exact move _ passenger

/-- A request which takes somebody from the queue leaves every `in_queue` as it was. -/
theorem Handled.inQueueOf_of_dequeued
    (handled : Handled now session before request subject after acts) {customer : Id}
    (taken : dequeued? before.db.toTables request subject = some customer) (other : Id) :
    after.db.inQueueOf other = before.db.inQueueOf other := by
  cases handled with
  | arrivedAssigned next kind head assigned => rw [assigned.tables, inQueueOf_assignTaxi]
  | completedAssigned passenger next middle later kind carried db head response assigned recorded =>
      rw [assigned.tables, inQueueOf_assignTaxi, db, inQueueOf_onboardTables]
  | ignored code undeclared kind db response recorded => rw [db]
  | arrivedIdle kind empty db response recorded => rw [db]
  | denied kind found db response recorded => rw [db]
  | pickUpDenied passenger kind empty service nowhere db response recorded =>
      rw [db, inQueueOf_onboardTables]
  | pickedUp passenger coord kind empty service destination db response recorded =>
      rw [db, inQueueOf_onboardTables]
  | completed passenger kind carried db empty response recorded => rw [db, inQueueOf_onboardTables]
  | silent effect kind db response recorded =>
      cases subject <;> simp_all [silentEffect, dequeued?, assignment?]
  | flagged effect answer kind db response recorded =>
      cases subject <;> simp_all [flagEffect, dequeued?, assignment?]
  | redirected coord kind db response recorded =>
      cases subject <;> simp_all [redirection?, dequeued?, assignment?]
  | _ => simp_all [dequeued?, assignment?]

end KafkaServer

namespace CentralStep

/-- The customers whom a step assigns off the queue. -/
def dequeues (session : Uuid) (taken : CentralStep) : List Id :=
  match taken.request? session with
  | none => []
  | some (_, subject) =>
      if subject = .customerServiceRequest then [] else assignments taken.recorded

/-- The moment a step writes into an `in_queue`, if it does. -/
def enqueuedAt? (taken : CentralStep) : Option Timestamp :=
  match taken.event with
  | .addTaxi .. => none
  | .request now .. =>
      if taken.recorded.any fun act =>
          match act with
          | .produce message => message.subject = .response .customerEnqueued
          | _ => false
      then some now else none

/-- Whoever is assigned off the queue is the first in the waiting line, and has left the
queue afterwards. -/
def QueueLaw (session : Uuid) (taken : CentralStep) : Prop :=
  ∀ customer ∈ taken.dequeues session,
    (Trace.waitingLine taken.before.trace).head? = some customer ∧
      taken.after.db.inQueueOf customer = none

/-- The request of the step, if any, takes nobody from the queue. -/
def LeavesQueue (session : Uuid) (taken : CentralStep) : Prop :=
  ∀ asked ∈ taken.request? session,
    KafkaServer.dequeued? taken.before.db.toTables asked.1 asked.2 = none

/-- The operator prioritizes nobody. -/
def WithoutPriority (session : Uuid) (taken : CentralStep) : Prop :=
  ∀ asked ∈ taken.request? session, asked.2 ≠ .orderCustomerPriority

instance (session : Uuid) (taken : CentralStep) : Decidable (taken.QueueLaw session) := by
  unfold QueueLaw
  infer_instance

instance (session : Uuid) (taken : CentralStep) : Decidable (taken.LeavesQueue session) := by
  unfold LeavesQueue
  infer_instance

instance (session : Uuid) (taken : CentralStep) : Decidable (taken.WithoutPriority session) := by
  unfold WithoutPriority
  infer_instance

variable {session : Uuid} {taken : CentralStep}

/-- A step assigns off the queue exactly whom its request was about to take from it. -/
theorem dequeues_eq
    (stepped : (System.machine session).step taken.before taken.event = some taken.after)
    (succeeds : taken.Succeeds) :
    taken.dequeues session =
      ((taken.request? session).bind fun asked =>
        KafkaServer.dequeued? taken.before.db.toTables asked.1 asked.2).toList := by
  cases taken_of_step stepped succeeds with
  | added now taxiId reconnect unasked tables response trace => simp [dequeues, unasked]
  | dropped unasked unchanged => simp [dequeues, unasked]
  | treated now message subject outages handled acts maps asked treats db response trace =>
      have grows : taken.after.trace = (maps.reverse.map .publishMap ++
          (acts.reverse ++ [.handled message])) ++ taken.before.trace := by
        simp [trace]
      have mapsNobody : assignments (maps.reverse.map .publishMap) = [] :=
        assignments_eq_nil (by simp [Act.IsAssign])
      have told : assignments taken.recorded = assignments acts := by
        rw [recorded_append grows, assignments_append, assignments_append, mapsNobody,
          assignments_reverse, treats.assignments_eq]
        cases (KafkaServer.assignment? taken.before.db.toTables message subject).map (·.2) <;> rfl
      simp only [dequeues, asked, told, treats.assignments_eq, Option.bind_some,
        KafkaServer.dequeued?]
      split <;> rfl

/-- A step obeys the law of the queue exactly when it takes nobody from the queue: whoever
is taken from it stays in it. -/
theorem queueLaw_iff
    (stepped : (System.machine session).step taken.before taken.event = some taken.after)
    (succeeds : taken.Succeeds) : taken.QueueLaw session ↔ taken.LeavesQueue session := by
  have names := dequeues_eq stepped succeeds
  constructor
  · intro law asked due
    cases dequeued : KafkaServer.dequeued? taken.before.db.toTables asked.1 asked.2 with
    | none => rfl
    | some customer =>
        rw [due, Option.bind_some, dequeued, Option.toList_some] at names
        obtain ⟨_, left⟩ := law customer (by simp [names])
        -- The head of the queue was in it before the step, and the step clears no `in_queue`.
        have queued := Tables.inQueueOf_queueHead (KafkaServer.queueHead_of_dequeued dequeued)
        cases taken_of_step stepped succeeds with
        | added now taxiId reconnect unasked tables response trace => simp [unasked] at due
        | dropped unasked unchanged => simp [unasked] at due
        | treated now message subject outages handled acts maps found treats db response trace =>
            rw [found, Option.mem_some_iff] at due
            subst due
            have kept := treats.inQueueOf_of_dequeued dequeued customer
            rw [← db, left] at kept
            simp [← kept] at queued
  · intro leaves customer member
    have nobody : (taken.request? session).bind (fun asked =>
        KafkaServer.dequeued? taken.before.db.toTables asked.1 asked.2) = none :=
      Option.bind_eq_none_iff.mpr leaves
    rw [names, nobody] at member
    cases member

end CentralStep

/-- A run of Central in which every query succeeds obeys the law of the queue exactly when
no taxi arrives, and no carrying taxi reaches its destination, while somebody is queued. -/
theorem queue_law_iff (session : Uuid) (locations : Table LocationRow.id)
    (events : List System.Event)
    (succeed : ∀ taken ∈ (System.machine session).run (System.start locations) events,
      CentralStep.Succeeds taken) :
    (∀ taken ∈ (System.machine session).run (System.start locations) events,
        CentralStep.QueueLaw session taken) ↔
      ∀ taken ∈ (System.machine session).run (System.start locations) events,
        CentralStep.LeavesQueue session taken := by
  refine forall₂_congr fun taken member => ?_
  exact CentralStep.queueLaw_iff (Machine.run_step member) (succeed taken member)

/-- A customer asks before there is a taxi, and two taxis join. -/
def oneCustomerTwoTaxis : List System.Event :=
  [Town.register 65 ⟨1, 1⟩, Town.ask 65 74] ++ Town.join 1 ++ Town.join 2

/-- The second taxi is assigned to the customer whom the first one took from the queue. -/
theorem customer_is_dequeued_twice :
    ¬ ∀ (session : Uuid) (locations : Table LocationRow.id) (events : List System.Event),
      (∀ taken ∈ (System.machine session).run (System.start locations) events,
        CentralStep.Succeeds taken ∧ CentralStep.WithoutPriority session taken) →
      (((System.machine session).run (System.start locations) events).filterMap
        CentralStep.enqueuedAt?).Nodup →
      ∀ taken ∈ (System.machine session).run (System.start locations) events,
        CentralStep.QueueLaw session taken := by
  intro claimed
  have law := claimed Town.session Town.locations oneCustomerTwoTaxis (by decide +kernel)
    (by decide +kernel)
  revert law
  decide +kernel

/-- A customer asks before there is a taxi, and asks again. -/
def oneCustomerAsksTwice : List System.Event :=
  [Town.register 65 ⟨1, 1⟩, Town.ask 65 74, Town.ask 65 74]

/-- The customer is still queued after it asks again. -/
theorem queue_law_oneCustomer :
    (Town.run oneCustomerAsksTwice).length = 3 ∧
      ∀ taken ∈ Town.run oneCustomerAsksTwice, CentralStep.QueueLaw Town.session taken :=
  ⟨by decide +kernel, (queue_law_iff Town.session Town.locations oneCustomerAsksTwice
    (by decide +kernel)).mpr (by decide +kernel)⟩

end EasyCab
