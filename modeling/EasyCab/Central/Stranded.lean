import EasyCab.Central.Queue

/-!
# Customers of a disconnected taxi

`ORDER_TAXI_DISCONNECT` clears one flag of a row and tells the taxi. What becomes of
the customers whom the taxi carries or still has to serve is left as it is, so
`released_iff` says that they are released by the order exactly if there was nothing
to be done: they are with no taxi which is or will be disconnected, and in the queue.
-/

namespace EasyCab

open Library Trace

namespace Trace

/-- The customers to whom a taxi was assigned and whose service has not ended. -/
def unfinishedNote (taxi : TaxiId) : Act → List Id → List Id
  | .assign other customer, left => if other = taxi then customer :: left else left
  | .produce message, left =>
      if message.endsService then left.filter fun customer => customer ≠ message.id else left
  | _, left => left

/-- See `unfinishedNote`. -/
def unfinished (taxi : TaxiId) (trace : List Act) : List Id := observe (unfinishedNote taxi) [] trace

end Trace

/-- The responses which `askService` reads. -/
def SubjResponse.ToCustomer (subject : SubjResponse) : Prop :=
  subject ∈ [.customerDisconnect, .customerPriority, .customerPickedUp, .customerDroppedOff,
    .customerEnqueued, .customerServiceCompleted, .customerServiceAccepted, .customerServiceDenied]

instance (subject : SubjResponse) : Decidable subject.ToCustomer := by
  unfold SubjResponse.ToCustomer
  infer_instance

/-- A response which a customer reads. -/
def Act.Tells (customer : Id) : Act → Prop
  | .produce message =>
      message.id = customer ∧
        match message.subject with
        | .response subject => subject.ToCustomer
        | _ => False
  | _ => False

instance (customer : Id) (act : Act) : Decidable (act.Tells customer) := by
  refine Act.casesOn act (fun _ => instDecidableFalse) (fun message => ?_)
    (fun _ => instDecidableFalse) (fun _ _ => instDecidableFalse) (fun _ => instDecidableFalse)
    (fun _ => instDecidableFalse)
  refine @instDecidableAnd _ _ _ ?_
  exact Subject.casesOn message.subject (fun _ => instDecidableFalse)
    (fun _ => instDecidableFalse) (fun subject => instDecidableToCustomer subject)

namespace Tables

/-- Whom a taxi carries, and the customer it was assigned to and whose service has not ended. -/
def obliged (tables : Tables) (trace : List Act) (taxi : TaxiId) : List Id :=
  (tables.customerIdOf taxi).toList ++
    (tables.serviceOf taxi).toList.filter fun customer => customer ∈ unfinished taxi trace

/-- A customer is aboard of no taxi of a kind, and not marked as aboard. -/
def Ashore (tables : Tables) (customer : Id) (kind : TaxiRow → Prop) : Prop :=
  (∀ row ∈ tables.taxis.rows, kind row → row.customerId ≠ some customer) ∧
    tables.onboardOf customer ≠ some true

instance (tables : Tables) (customer : Id) (kind : TaxiRow → Prop) [DecidablePred kind] :
    Decidable (tables.Ashore customer kind) := by
  unfold Ashore
  infer_instance

/-- Those for whom the taxi is responsible are not aboard of it, nor of a disconnected taxi, and are
in the queue. -/
def StrandsNobody (tables : Tables) (trace : List Act) (taxi : TaxiId) : Prop :=
  ∀ customer ∈ tables.obliged trace taxi,
    tables.Ashore customer (fun row => row.connected = false ∨ row.id = taxi) ∧
      (tables.inQueueOf customer).isSome

instance (tables : Tables) (trace : List Act) (taxi : TaxiId) :
    Decidable (tables.StrandsNobody trace taxi) := by
  unfold StrandsNobody
  infer_instance

variable {tables : Tables} {now : Timestamp} {taxi : TaxiId} {customer : Id}

/-- After a taxi was disconnected it is one of the disconnected taxis. -/
theorem ashore_setConnected :
    (tables.setConnected now taxi false).Ashore customer (fun row => row.connected = false) ↔
      tables.Ashore customer (fun row => row.connected = false ∨ row.id = taxi) := by
  refine and_congr_left fun _ => ?_
  simp only [setConnected, updateTaxi, Table.modify, List.forall_mem_map]
  refine forall₂_congr fun row _ => ?_
  by_cases same : row.id = taxi <;> simp [same]

end Tables

/-- An order to disconnect a taxi clears its flag and tells the taxi. -/
theorem KafkaServer.Handled.disconnected {now : Timestamp} {session : Uuid}
    {before after : KafkaServer} {request : Message} {acts : List Act}
    (handled : Handled now session before request .orderTaxiDisconnect after acts) :
    after.db.toTables = before.db.toTables.setConnected now request.taxiId false ∧
      ∃ answer : Message, answer.subject = .response .taxiDisconnect ∧
        acts = [.produce answer] := by
  cases handled with
  | flagged effect answer kind db response recorded =>
      cases kind
      exact ⟨db, _, by rw [response], recorded⟩
  | arrivedIdle kind => rcases kind with kind | kind <;> cases kind
  | arrivedAssigned customer kind => rcases kind with kind | kind <;> cases kind
  | silent effect kind => cases kind
  | redirected coord kind => cases kind
  | _ => contradiction

namespace CentralStep

/-- A customer is with no disconnected taxi after the step, and was told something in it or is in
the queue. -/
def Releases (taken : CentralStep) (customer : Id) : Prop :=
  taken.after.db.Ashore customer (fun row => row.connected = false) ∧
    ((∃ act ∈ taken.recorded, act.Tells customer) ∨
      (taken.after.db.inQueueOf customer).isSome)

/-- An order to disconnect a taxi releases those for whom the taxi is responsible. -/
def ReleasesAll (session : Uuid) (taken : CentralStep) : Prop :=
  ∀ asked ∈ taken.request? session, asked.2 = .orderTaxiDisconnect →
    ∀ customer ∈ taken.before.db.obliged taken.before.trace asked.1.taxiId,
      taken.Releases customer

/-- An order to disconnect a taxi finds nobody for whom something has to be done. -/
def StrandsNobody (session : Uuid) (taken : CentralStep) : Prop :=
  ∀ asked ∈ taken.request? session, asked.2 = .orderTaxiDisconnect →
    taken.before.db.StrandsNobody taken.before.trace asked.1.taxiId

instance (session : Uuid) (taken : CentralStep) : Decidable (taken.ReleasesAll session) := by
  unfold ReleasesAll Releases
  infer_instance

instance (session : Uuid) (taken : CentralStep) : Decidable (taken.StrandsNobody session) := by
  unfold StrandsNobody
  infer_instance

variable {session : Uuid} {taken : CentralStep}

/-- An order to disconnect a taxi clears its flag and tells no customer. -/
theorem disconnected_of_step
    (stepped : (System.machine session).step taken.before taken.event = some taken.after)
    (succeeds : taken.Succeeds) {message : Message}
    (ordered : taken.request? session = some (message, .orderTaxiDisconnect)) :
    (∃ now, taken.after.db.toTables =
        taken.before.db.toTables.setConnected now message.taxiId false) ∧
      ∀ customer, ¬ ∃ act ∈ taken.recorded, act.Tells customer := by
  cases taken_of_step stepped succeeds with
  | added now taxiId reconnect unasked => simp [unasked] at ordered
  | dropped unasked => simp [unasked] at ordered
  | treated now request subject outages handled acts maps asked treats db response trace =>
      rw [asked, Option.some.injEq, Prod.mk.injEq] at ordered
      obtain ⟨rfl, rfl⟩ := ordered
      obtain ⟨stored, answer, told, rfl⟩ := treats.disconnected
      refine ⟨⟨now, by rw [db, stored]⟩, ?_⟩
      have grows : taken.after.trace = (maps.reverse.map .publishMap ++
          [.produce answer, .handled request]) ++ taken.before.trace := by
        simpa using trace
      rw [recorded_append grows]
      rintro customer ⟨act, member, tells⟩
      simp only [List.mem_append, List.mem_map, List.mem_cons, List.not_mem_nil,
        or_false] at member
      rcases member with ⟨map, _, rfl⟩ | rfl | rfl
      · exact tells
      · simp [Act.Tells, told, SubjResponse.ToCustomer] at tells
      · exact tells

/-- Nothing is done for those for whom a disconnected taxi is responsible. -/
theorem releasesAll_iff
    (stepped : (System.machine session).step taken.before taken.event = some taken.after)
    (succeeds : taken.Succeeds) : taken.ReleasesAll session ↔ taken.StrandsNobody session := by
  refine forall₂_congr fun asked found => ?_
  obtain ⟨message, subject⟩ := asked
  refine forall_congr' fun ordered => ?_
  obtain rfl : subject = .orderTaxiDisconnect := ordered
  obtain ⟨⟨now, stored⟩, silent⟩ := disconnected_of_step stepped succeeds found
  refine forall₂_congr fun customer _ => ?_
  have queued : taken.after.db.inQueueOf customer = taken.before.db.inQueueOf customer := by
    rw [stored]
    rfl
  rw [Releases, stored, Tables.ashore_setConnected, ← stored, queued, or_iff_right (silent customer)]

end CentralStep

/-- In a run of Central in which every query succeeds, the orders to disconnect a taxi release
everybody whom their taxis carry or still have to serve exactly if these are always in the
queue, not marked as aboard, and aboard of neither that taxi nor a disconnected one. -/
theorem released_iff (session : Uuid) (locations : Table LocationRow.id)
    (events : List System.Event)
    (succeed : ∀ taken ∈ (System.machine session).run (System.start locations) events,
      CentralStep.Succeeds taken) :
    (∀ taken ∈ (System.machine session).run (System.start locations) events,
        CentralStep.ReleasesAll session taken) ↔
      ∀ taken ∈ (System.machine session).run (System.start locations) events,
        CentralStep.StrandsNobody session taken :=
  forall₂_congr fun taken member =>
    CentralStep.releasesAll_iff (Machine.run_step member) (succeed taken member)

/-- The operator disconnects the taxi. -/
def disconnect (taxi : TaxiId) : System.Event :=
  Town.consume { Message.request [] .orderTaxiDisconnect with taxiId := taxi }

/-- A customer is aboard of a taxi which is disconnected. -/
def strandedRide : List System.Event :=
  Town.join 1 ++ [Town.register 65 ⟨1, 1⟩, Town.ask 65 74, Town.arrive 1 ⟨1, 1⟩, disconnect 1]

/-- The customer stays aboard of the disconnected taxi. -/
theorem stranded_aboard :
    ¬ ∀ (session : Uuid) (locations : Table LocationRow.id) (events : List System.Event),
      (∀ taken ∈ (System.machine session).run (System.start locations) events,
        CentralStep.Succeeds taken) →
      ∀ taken ∈ (System.machine session).run (System.start locations) events,
        CentralStep.ReleasesAll session taken := by
  intro claimed
  have released := claimed Town.session Town.locations strandedRide (by decide +kernel)
  revert released
  decide +kernel

/-- A customer who was taken from the queue is still in it when the taxi is disconnected. -/
def queuedRide : List System.Event :=
  [Town.register 65 ⟨1, 1⟩, Town.ask 65 74] ++ Town.join 1 ++ [disconnect 1]

/-- The customer of the queue is left to the next taxi. -/
theorem released_from_queue :
    (∃ taken ∈ Town.run queuedRide, taken.before.db.obliged taken.before.trace 1 = [65]) ∧
      ∀ taken ∈ Town.run queuedRide, CentralStep.ReleasesAll Town.session taken := by
  refine ⟨by decide +kernel, ?_⟩
  have strandsNobody : ∀ taken ∈ Town.run queuedRide,
      CentralStep.StrandsNobody Town.session taken := by
    decide +kernel
  exact (released_iff Town.session Town.locations queuedRide (by decide +kernel)).mpr strandsNobody

end EasyCab
