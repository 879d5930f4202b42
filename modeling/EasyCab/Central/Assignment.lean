import EasyCab.Central.Observers

/-!
# Exclusive assignment

A taxi is busy from a call of `assign` until the service it is for ends, or the
operator takes the taxi off it. Nothing in Central asks whether a taxi is busy:
`checkAvailableTaxis` answers the first connected taxi, and an arriving taxi is
sent to the head of the queue. `assignment?` says, from the tables alone, which
taxi a request is about to send where. A run assigns no busy taxi exactly when
none of its requests is about to send one.
-/

namespace EasyCab

open Library Trace

namespace KafkaServer

/-- The taxi a request is about to assign is busy with nobody but the customer whose
service the request completes. -/
def AssignsFree (tables : Tables) (request : Message) (subject : SubjRequest)
    (trace : List Act) : Prop :=
  ∀ pair ∈ assignment? tables request subject, ∀ customer ∈ busyWith pair.1 trace,
    some customer = completes? tables request subject

instance (tables : Tables) (request : Message) (subject : SubjRequest) (trace : List Act) :
    Decidable (AssignsFree tables request subject trace) := by
  unfold AssignsFree
  infer_instance

end KafkaServer

/-- No taxi was busy when it was assigned. -/
def Exclusive : List Act → Prop
  | [] => True
  | .assign taxi _ :: earlier => busyWith taxi earlier = [] ∧ Exclusive earlier
  | _ :: earlier => Exclusive earlier

instance decidableExclusive : DecidablePred Exclusive
  | [] => isTrue trivial
  | .assign _ _ :: earlier => @instDecidableAnd _ _ _ (decidableExclusive earlier)
  | .handled _ :: earlier => decidableExclusive earlier
  | .produce _ :: earlier => decidableExclusive earlier
  | .publishMap _ :: earlier => decidableExclusive earlier
  | .failed _ :: earlier => decidableExclusive earlier
  | .announce _ :: earlier => decidableExclusive earlier

/-- Entries which assign nobody keep the assignments exclusive. -/
theorem exclusive_append {latest trace : List Act} (nobody : ∀ act ∈ latest, ¬ act.IsAssign) :
    Exclusive (latest ++ trace) ↔ Exclusive trace := by
  induction latest with
  | nil => rfl
  | cons act latest inductionHypothesis =>
      rw [List.forall_mem_cons] at nobody
      have rest := inductionHypothesis nobody.2
      cases act with
      | assign taxi customer => exact absurd trivial nobody.1
      | _ => exact rest

/-- Published maps leave assignments as exclusive as they were. -/
theorem exclusive_publishMap {maps : List Map} {trace : List Act} :
    Exclusive (maps.map .publishMap ++ trace) ↔ Exclusive trace :=
  exclusive_append (by simp [Act.IsAssign])

/-- A dispatch is exclusive exactly when its taxi was free. -/
theorem Dispatch.exclusive_iff {taxi : TaxiId} {customer : Id} {coord : Coordinate}
    {acts trace : List Act} (dispatch : Dispatch taxi customer coord acts) :
    Exclusive (acts.reverse ++ trace) ↔ busyWith taxi trace = [] ∧ Exclusive trace := by
  obtain ⟨goTo, accepted, rfl, _⟩ := dispatch.acts
  exact Iff.rfl

namespace KafkaServer

variable {now : Timestamp} {session : Uuid} {before after : KafkaServer} {request : Message}
  {subject : SubjRequest} {acts trace : List Act} {tables : Tables}

/-- A request which assigns a taxi is no order to the taxi. -/
theorem Assigns.not_frees (asked : request.subject = .request subject) {taxi : TaxiId}
    {customer : Id} (assigns : Assigns tables request subject taxi customer acts) :
    request.freesTaxi = false := by
  have due := assigns.due
  cases subject <;> simp_all [assignment?, Message.freesTaxi]

/-- A handled request keeps the assignments exclusive exactly when it assigns a free taxi. -/
theorem Handled.exclusive_iff (asked : request.subject = .request subject)
    (handled : Handled now session before request subject after acts) :
    Exclusive (acts.reverse ++ .handled request :: trace) ↔
      AssignsFree before.db.toTables request subject trace ∧ Exclusive trace := by
  have entered : Exclusive (.handled request :: trace) ↔ Exclusive trace := Iff.rfl
  rcases handled.assigns with ⟨none, nobody⟩ | ⟨taxi, customer, assigns⟩
  · have free : AssignsFree before.db.toTables request subject trace := by
      simp [AssignsFree, none]
    rw [exclusive_append (by simpa using nobody), entered]
    exact ⟨fun exclusive => ⟨free, exclusive⟩, fun both => both.2⟩
  · obtain ⟨coord, ended, later, rest, rfl, dispatch, quiet, completed⟩ := assigns.acts
    have unfreed : busyWith taxi (.handled request :: trace) = busyWith taxi trace := by
      simp [busyWith_handled, assigns.not_frees asked]
    have restNobody : ∀ act ∈ rest.reverse, ¬ act.IsAssign := fun act member =>
      (quiet act (List.mem_reverse.mp member)).not_isAssign
    rw [List.reverse_append, List.reverse_append, List.append_assoc, List.append_assoc,
      exclusive_append restNobody, dispatch.exclusive_iff]
    -- What is left is whom the taxi is busy with once a completed service has ended.
    rcases completed with ⟨rfl, open_⟩ | ⟨answer, rfl, ends, completed⟩
    · simp only [List.reverse_nil, List.nil_append, unfreed, entered, AssignsFree, assigns.due,
        Option.mem_def, Option.some.injEq, forall_eq', open_, reduceCtorEq, imp_false]
      rw [List.eq_nil_iff_forall_not_mem]
    · have cut : busyWith taxi (.produce answer :: .handled request :: trace) =
          (busyWith taxi trace).filter fun customer => customer ≠ answer.id := by
        rw [busyWith_produce, if_pos ends, unfreed]
      have after : Exclusive (.produce answer :: .handled request :: trace) ↔ Exclusive trace :=
        Iff.rfl
      simp only [List.reverse_singleton, List.singleton_append, cut, after, AssignsFree,
        assigns.due, Option.mem_def, Option.some.injEq, forall_eq', completed]
      rw [List.filter_eq_nil_iff]
      simp

end KafkaServer

/-! ### The `service` of a busy taxi -/

/-- After an assignment of a free taxi, the taxi has to serve nobody but its new customer,
and its `service` is not one it had to serve before. -/
theorem Trips.assign_service_kept {trips : Trips} {taxi other : TaxiId} {next customer : Id}
    {busy : List Id} (stored : (trips.taxiAt other).isSome)
    (service : trips.service other = some customer)
    (serves : other = taxi → busy = [next]) (member : customer ∈ busy) :
    (trips.assign taxi next).service other = some customer := by
  by_cases same : other = taxi
  · subst same
    rw [serves rfl, List.mem_singleton] at member
    subst member
    obtain ⟨at_, stored⟩ := Option.isSome_iff_exists.mp stored
    rcases trips.assign_service_self other customer stored with named | unchanged
    · exact named
    · rw [unchanged, service]
  · rw [trips.assign_service_of_ne taxi next same, service]

/-- A step which assigns no busy taxi keeps the `service` of a taxi for as long as the taxi
has to serve it. -/
theorem TripStep.service_kept {before after : Trips} {message : Message} {subject : SubjRequest}
    {acts trace : List Act} (step : TripStep before message subject after acts)
    (wellFormed : before.WellFormed)
    (exclusive : Exclusive (acts.reverse ++ .handled message :: trace)) {taxi : TaxiId}
    {customer : Id} (service : before.service taxi = some customer)
    (busy : customer ∈ busyWith taxi (acts.reverse ++ .handled message :: trace)) :
    after.service taxi = some customer := by
  cases step with
  | quiet calm same quiet => rw [same, service]
  | relocated kind trips recorded => rw [trips]; exact service
  | left kind trips answer told named recorded => rw [trips]; exact service
  | joined kind trips free quiet => rw [trips]; exact service
  | drove kind trips recorded => rw [trips, Trips.drive_service, service]
  | droppedOff other kind carried trips answer told named recorded =>
      rw [trips]
      exact (congrFun (before.drive_service _ _) taxi).trans service
  | droppedOffAndSent other next middle coord later kind carried dropped trips answer told named
      dest dispatch recorded =>
      subst recorded
      rw [List.reverse_cons, List.append_assoc] at exclusive busy
      have kept : middle.service = before.service := by
        rw [dropped]
        exact before.drive_service _ _
      have keptTaxi : (middle.taxiAt taxi).isSome := by
        rw [dropped]
        exact (before.drive_taxiAt_isSome _ _ taxi).trans (wellFormed.taxiOfService service)
      rw [trips]
      refine Trips.assign_service_kept keptTaxi (by rw [kept, service]) ?_ busy
      rintro rfl
      rw [busyWith_dispatch dispatch, if_pos rfl, (dispatch.exclusive_iff.mp exclusive).1]
  | boardedDenied other kind empty served nowhere trips answer told named recorded =>
      rw [trips]
      exact (congrFun (before.drive_service _ _) taxi).trans service
  | boarded other coord kind empty served destination trips pickedUp goTo quiet sent heading
      recorded =>
      rw [trips]
      exact (congrFun (before.drive_service _ _) taxi).trans service
  | requested other coord earlier answer kind trips dest dispatch quiet recorded =>
      rw [recorded, List.reverse_append, List.append_assoc] at exclusive busy
      have told : busyWith taxi (.produce answer :: (earlier.reverse ++ .handled message :: trace)) =
          busyWith taxi (earlier.reverse ++ .handled message :: trace) := by
        rw [busyWith_produce, if_neg (by simp [quiet.1])]
      rw [trips]
      refine Trips.assign_service_kept (wellFormed.taxiOfService service) service ?_ busy
      rintro rfl
      apply told.trans
      rw [busyWith_dispatch dispatch, if_pos rfl, (dispatch.exclusive_iff.mp exclusive).1]
  | summoned next coord kind trips dest dispatch =>
      rw [trips]
      refine Trips.assign_service_kept (wellFormed.taxiOfService service) service ?_ busy
      rintro rfl
      rw [busyWith_dispatch dispatch, if_pos rfl, (dispatch.exclusive_iff.mp exclusive).1]
  | redirected coord frees kind trips goTo sent heading recorded =>
      rw [trips, Trips.landNamesake_service]
      exact service

/-! ### Whole runs -/

namespace CentralStep

/-- A taxi which still has to serve whom its `service` names keeps that `service`. -/
def KeepsService (taken : CentralStep) : Prop :=
  ∀ row ∈ taken.before.db.taxis.rows, ∀ customer ∈ row.service,
    customer ∈ busyWith row.id taken.after.trace →
      taken.after.db.serviceOf row.id = some customer

/-- The request of the step, if any, is not about to assign a busy taxi. -/
def SendsFree (session : Uuid) (taken : CentralStep) : Prop :=
  ∀ asked ∈ taken.request? session,
    KafkaServer.AssignsFree taken.before.db.toTables asked.1 asked.2 taken.before.trace

/-- `NEW_TAXI` and `TAXI_RECONNECTED` are consumed once for each time they were announced. -/
def ArrivalAnnounced (session : Uuid) (taken : CentralStep) : Prop :=
  ∀ asked ∈ taken.request? session, asked.2 = .newTaxi ∨ asked.2 = .taxiReconnected →
    taken.before.trace.count (.handled asked.1) < taken.before.trace.count (.announce asked.1)

/-- A customer whose request is pending does not ask again. -/
def AsksOnce (session : Uuid) (taken : CentralStep) : Prop :=
  ∀ asked ∈ taken.request? session, asked.2 = .customerServiceRequest →
    pending asked.1.id taken.before.trace = false

instance (taken : CentralStep) : Decidable taken.KeepsService := by
  unfold KeepsService
  infer_instance

instance (session : Uuid) (taken : CentralStep) : Decidable (taken.SendsFree session) := by
  unfold SendsFree
  infer_instance

instance (session : Uuid) (taken : CentralStep) : Decidable (taken.ArrivalAnnounced session) := by
  unfold ArrivalAnnounced
  infer_instance

instance (session : Uuid) (taken : CentralStep) : Decidable (taken.AsksOnce session) := by
  unfold AsksOnce
  infer_instance

variable {session : Uuid} {taken : CentralStep}

/-- A step from exclusive assignments stays good exactly when it sends a free taxi. -/
theorem exclusive_iff
    (stepped : (System.machine session).step taken.before taken.event = some taken.after)
    (succeeds : taken.Succeeds) (before : Exclusive taken.before.trace) :
    (Exclusive taken.after.trace ∧ taken.KeepsService) ↔ taken.SendsFree session := by
  -- Both sides hold of a step without a request: its tables keep every `service`.
  cases taken_of_step stepped succeeds with
  | added now taxiId reconnect unasked tables response trace =>
      refine iff_of_true ⟨?_, ?_⟩ (by simp [SendsFree, unasked])
      · rw [trace]
        exact before
      · intro row member customer service _
        rw [Option.mem_def, ← Tables.serviceOf_of_mem member] at service
        cases reconnect with
        | true =>
            simp only [AuthServer.addedTables, if_true, Option.some.injEq] at tables
            have same := congrArg (fun tables => tables.trips.service row.id) tables.symm
            rw [Tables.trips_setConnected] at same
            exact same.trans service
        | false =>
            simp only [AuthServer.addedTables, Bool.false_eq_true, if_false] at tables
            obtain ⟨trips, free⟩ := Tables.trips_insertTaxi tables
            have stored := taken.before.db.trips_wellFormed.taxiOfService service
            have different : row.id ≠ taxiId := by
              rintro rfl
              simp [free] at stored
            have same := congrFun (congrArg Trips.service trips) row.id
            exact (same.trans (Function.update_of_ne different _ _)).trans service
  | dropped unasked unchanged =>
      refine iff_of_true ⟨by rwa [unchanged], ?_⟩ (by simp [SendsFree, unasked])
      intro row member customer service _
      rw [unchanged, Tables.serviceOf_of_mem member]
      exact service
  | treated now message subject outages handled acts maps asked treats db response trace =>
      have named : message.subject = .request subject := subject_of_asked asked
      have sends : taken.SendsFree session ↔ KafkaServer.AssignsFree taken.before.db.toTables
          message subject taken.before.trace := by simp [SendsFree, asked]
      have grows : Exclusive taken.after.trace ↔
          KafkaServer.AssignsFree taken.before.db.toTables message subject taken.before.trace ∧
            Exclusive taken.before.trace := by
        rw [trace, exclusive_publishMap]
        exact treats.exclusive_iff named
      constructor
      · exact fun good => sends.mpr (grows.mp good.1).1
      · intro free
        have exclusive := grows.mpr ⟨sends.mp free, before⟩
        refine ⟨exclusive, ?_⟩
        intro row member customer service busy
        rw [Option.mem_def, ← Tables.serviceOf_of_mem member] at service
        rw [trace, exclusive_publishMap] at exclusive
        rw [trace, busyWith_publishMap] at busy
        rw [db]
        exact (treats.tripStep named).service_kept taken.before.db.trips_wellFormed exclusive
          service busy

end CentralStep

/-- A run of Central in which every query succeeds never assigns a busy taxi, and never
overwrites the `service` of a taxi which still has to serve it, exactly when no service
request is consumed while the first connected taxi is busy, and no taxi arrives while it
is busy and somebody is queued. -/
theorem assignments_exclusive_iff (session : Uuid) (locations : Table LocationRow.id)
    (events : List System.Event)
    (succeed : ∀ taken ∈ (System.machine session).run (System.start locations) events,
      CentralStep.Succeeds taken) :
    (∀ taken ∈ (System.machine session).run (System.start locations) events,
        Exclusive taken.after.trace ∧ CentralStep.KeepsService taken) ↔
      ∀ taken ∈ (System.machine session).run (System.start locations) events,
        CentralStep.SendsFree session taken := by
  have initial : Exclusive (System.start locations).trace := trivial
  refine Machine.run_exact (fun system => Exclusive system.trace) ?_ ?_ initial succeed
  · exact fun taken stepped succeeds before => CentralStep.exclusive_iff stepped succeeds before
  · intro taken stepped succeeds free before
    exact ((CentralStep.exclusive_iff stepped succeeds before).mpr free).1

/-- Two customers ask while the only taxi is connected. -/
def twoCustomersOneTaxi : List System.Event :=
  Town.join 1 ++ [Town.register 65 ⟨1, 1⟩, Town.register 74 ⟨2, 2⟩, Town.ask 65 74, Town.ask 74 65]

/-- The only taxi is assigned to the second customer while it is on its way to the first. -/
theorem busy_taxi_is_assigned :
    ¬ ∀ (session : Uuid) (locations : Table LocationRow.id) (events : List System.Event),
      (∀ taken ∈ (System.machine session).run (System.start locations) events,
        CentralStep.Succeeds taken ∧ CentralStep.ArrivalAnnounced session taken ∧
          CentralStep.AsksOnce session taken) →
      ∀ taken ∈ (System.machine session).run (System.start locations) events,
        Exclusive taken.after.trace ∧ CentralStep.KeepsService taken := by
  intro claimed
  have good := claimed Town.session Town.locations twoCustomersOneTaxi (by decide +kernel)
  revert good
  decide +kernel

/-- One customer and one taxi. -/
def oneCustomerOneTaxi : List System.Event :=
  Town.join 1 ++ [Town.register 65 ⟨1, 1⟩, Town.ask 65 74]

/-- The only taxi is assigned to the only customer. -/
theorem assignments_exclusive_one_taxi :
    (Town.run oneCustomerOneTaxi).length = 4 ∧
      ∀ taken ∈ Town.run oneCustomerOneTaxi,
        Exclusive taken.after.trace ∧ CentralStep.KeepsService taken :=
  ⟨by decide +kernel, (assignments_exclusive_iff Town.session Town.locations oneCustomerOneTaxi
    (by decide +kernel)).mpr (by decide +kernel)⟩

end EasyCab
