import EasyCab.Central.Queue

/-!
# For which of its requests a customer is served

No row and no response says to which service request of a customer it belongs. `Ledger` notes it
beside the tables: by which request the customer was last queued, for which it was last assigned
to a taxi, and for which the taxi last took it aboard. A row which names the customer always has
its note, and what ends a service request is produced only where a taxi arrives.
-/

namespace EasyCab

open Library KafkaServer

/-- `askService` of the customer returns true on the response. -/
def Message.answers (message : Message) (customer : Id) : Bool :=
  message.id = customer &&
    (message.subject = .response .customerServiceCompleted ||
      message.subject = .response .customerServiceDenied)

/-- What answers a service request ends a service. -/
theorem Message.answers_of_endsService {message : Message} (open_ : message.endsService = false)
    (customer : Id) : message.answers customer = false := by
  rw [← Bool.not_eq_true, Message.endsService_iff] at open_
  simp only [answers, Bool.and_eq_false_iff, Bool.or_eq_false_iff, decide_eq_false_iff_not]
  tauto

/-- For which of the service requests of a customer Central does what. -/
structure Ledger where
  /-- By which the customer was last queued. -/
  queued : Option Nat
  /-- For which the customer was last assigned to the taxi. -/
  served : TaxiId → Option Nat
  /-- For which the taxi last took the customer aboard. -/
  aboard : TaxiId → Option Nat

namespace Ledger

/-- Before the first request. -/
def blank : Ledger := ⟨none, fun _ => none, fun _ => none⟩

variable (ledger : Ledger) (customer : Id) (tables : Tables) (request : Message)

/-- For which of the requests of the customer an arriving taxi is under way. -/
def arriving? (taxi : TaxiId) : Option Nat :=
  match tables.customerIdOf taxi with
  | some other => if other = customer then ledger.aboard taxi else none
  | none => if tables.serviceOf taxi = some customer then ledger.served taxi else none

/-- Which request of the customer Central serves where it treats this one, which has a number if
it is itself one of them. -/
def serving? (number : Option Nat) : SubjRequest → Option Nat
  | .customerServiceRequest => number
  | .taxiDestinationReached => ledger.arriving? customer tables request.taxiId
  | _ => none

/-- The notes after a request is treated. -/
def note (number : Option Nat) (subject : SubjRequest) : Ledger where
  queued :=
    if subject = .customerServiceRequest ∧ request.id = customer ∧ tables.available = none then number
    else ledger.queued
  served :=
    match assignment? tables request subject with
    | some (taxi, other) =>
        if other = customer then
          Function.update ledger.served taxi
            (if subject = .customerServiceRequest then number else ledger.queued)
        else ledger.served
    | none => ledger.served
  aboard :=
    if subject = .taxiDestinationReached ∧ tables.customerIdOf request.taxiId = none ∧
        tables.serviceOf request.taxiId = some customer then
      Function.update ledger.aboard request.taxiId (ledger.served request.taxiId)
    else ledger.aboard

/-- A row which names the customer has its note. -/
structure Covers : Prop where
  queued : (tables.inQueueOf customer).isSome → ledger.queued.isSome
  served : ∀ taxi, tables.serviceOf taxi = some customer → (ledger.served taxi).isSome
  aboard : ∀ taxi, tables.customerIdOf taxi = some customer → (ledger.aboard taxi).isSome

/-- All notes are of requests before this one. -/
structure Before (bound : Nat) : Prop where
  queued : ∀ number ∈ ledger.queued, number < bound
  served : ∀ taxi, ∀ number ∈ ledger.served taxi, number < bound
  aboard : ∀ taxi, ∀ number ∈ ledger.aboard taxi, number < bound

end Ledger

/-! ### Rows which name a customer -/

namespace Trips

variable {trips : Trips} {taxi other : TaxiId} {customer next : Id}

/-- After an assignment a taxi serves whom it served before or was assigned to. -/
theorem service_of_assign (serves : (trips.assign taxi next).service other = some customer) :
    trips.service other = some customer ∨ (taxi, next) = (other, customer) := by
  by_cases same : other = taxi
  · subst same
    unfold assign at serves
    cases stored : trips.customerAt next with
    | none =>
        rw [stored] at serves
        exact .inl serves
    | some coord =>
        simp only [stored, Function.update_self, Option.map_eq_some_iff] at serves
        obtain ⟨_, _, rfl⟩ := serves
        exact .inr rfl
  · rw [assign_service_of_ne _ _ _ same] at serves
    exact .inl serves

/-- After a taxi took somebody aboard, a taxi carries whom it carried before or took aboard. -/
theorem carried_of_setOnboard
    (carries : (trips.setOnboard next taxi true).carried other = some customer) :
    trips.carried other = some customer ∨ (taxi, next) = (other, customer) := by
  by_cases same : other = taxi
  · subst same
    simp only [setOnboard, carry, setOnboardFlag, if_true, Function.update_self,
      Option.bind_eq_some_iff] at carries
    obtain ⟨_, _, named⟩ := carries
    exact .inr (by rw [Option.some.inj named])
  · simp only [setOnboard, carry, setOnboardFlag, Function.update_of_ne same] at carries
    exact .inl carries

end Trips

namespace TripStep

variable {before after : Trips} {message : Message} {subject : SubjRequest} {acts : List Act}
  {taxi : TaxiId} {customer : Id}

/-- A taxi serves whom it served before or was assigned to. -/
theorem service_cases (step : TripStep before message subject after acts)
    (serves : after.service taxi = some customer) :
    before.service taxi = some customer ∨ .assign taxi customer ∈ acts := by
  have assigned {trips : Trips} {other : TaxiId} {next : Id}
      (serves : (trips.assign other next).service taxi = some customer)
      (dispatched : .assign other next ∈ acts) :
      trips.service taxi = some customer ∨ .assign taxi customer ∈ acts := by
    refine (Trips.service_of_assign serves).imp_right fun same => ?_
    cases same
    exact dispatched
  cases step with
  | droppedOffAndSent other next middle coord later kind carried dropped trips answer told named
      dest dispatch recorded =>
      rw [trips] at serves
      have kept := assigned serves (recorded ▸ List.mem_cons_of_mem _ dispatch.assign_mem)
      rwa [dropped, show ((before.drive message.taxiId message.coord).setOnboard other
        message.taxiId false).service = before.service from before.drive_service _ _] at kept
  | requested other coord earlier answer kind trips dest dispatch quiet recorded =>
      rw [trips] at serves
      have kept := assigned serves (recorded ▸ List.mem_append_left _ dispatch.assign_mem)
      exact kept
  | summoned next coord kind trips dest dispatch =>
      rw [trips] at serves
      exact assigned serves dispatch.assign_mem
  | drove kind trips recorded =>
      rw [trips, Trips.drive_service] at serves
      exact .inl serves
  | droppedOff other kind carried trips | boardedDenied other kind empty served nowhere trips
  | boarded other coord kind empty served destination trips =>
      rw [trips] at serves
      exact .inl ((congrFun (before.drive_service _ _) taxi).symm.trans serves)
  | redirected coord frees kind trips =>
      rw [trips, Trips.landNamesake_service] at serves
      exact .inl serves
  | quiet calm same | relocated kind same | left kind same | joined kind same =>
      rw [same] at serves
      exact .inl serves

/-- A taxi carries whom it carried before, or whom it served when it arrived with nobody. -/
theorem carried_cases (step : TripStep before message subject after acts)
    (carries : after.carried taxi = some customer) :
    before.carried taxi = some customer ∨
      subject = .taxiDestinationReached ∧ message.taxiId = taxi ∧ before.carried taxi = none ∧
        before.service taxi = some customer := by
  have boarding {other : Id} (kind : subject = .taxiDestinationReached)
      (empty : before.carried message.taxiId = none)
      (served : before.service message.taxiId = some other)
      (trips : after = (before.drive message.taxiId message.coord).setOnboard other
        message.taxiId true) :
      before.carried taxi = some customer ∨
        subject = .taxiDestinationReached ∧ message.taxiId = taxi ∧ before.carried taxi = none ∧
          before.service taxi = some customer := by
    rw [trips] at carries
    refine (Trips.carried_of_setOnboard carries).imp (fun kept => ?_) fun same => ?_
    · rwa [Trips.drive_carried] at kept
    · cases same
      exact ⟨kind, rfl, empty, served⟩
  cases step with
  | boardedDenied other kind empty served nowhere trips => exact boarding kind empty served trips
  | boarded other coord kind empty served destination trips => exact boarding kind empty served trips
  | drove kind trips =>
      rw [trips, Trips.drive_carried] at carries
      exact .inl carries
  | droppedOff other kind carried trips =>
      rw [trips, Trips.setOnboard_false_carried_iff, Trips.drive_carried] at carries
      exact .inl carries.2
  | droppedOffAndSent other next middle coord later kind carried dropped trips =>
      rw [trips, Trips.assign_carried, dropped, Trips.setOnboard_false_carried_iff,
        Trips.drive_carried] at carries
      exact .inl carries.2
  | requested other coord earlier answer kind trips =>
      rw [trips, Trips.assign_carried] at carries
      exact .inl carries
  | summoned next coord kind trips =>
      rw [trips, Trips.assign_carried] at carries
      exact .inl carries
  | redirected coord frees kind trips =>
      rw [trips, Trips.redirect_carried_iff] at carries
      exact .inl carries.2
  | quiet calm same | relocated kind same | left kind same | joined kind same =>
      rw [same] at carries
      exact .inl carries

end TripStep

namespace KafkaServer

variable {now : Timestamp} {session : Uuid} {before after : KafkaServer} {request : Message}
  {subject : SubjRequest} {acts : List Act} {customer : Id}

/-- No update of one statement without an answer touches an `in_queue`. -/
theorem inQueueOf_silentEffect {effect : Tables → Tables} {tables : Tables}
    (kind : silentEffect now request subject = some effect) :
    (effect tables).inQueueOf customer = tables.inQueueOf customer := by
  cases subject <;> simp only [silentEffect, Option.some.injEq, reduceCtorEq] at kind <;> subst kind
  case customerPing =>
    exact inQueueOf_updateCustomer (fun row => { row with lastUpdate := now }) (fun _ => rfl)
      fun _ => rfl
  case customerUpdateNextRequest =>
    exact inQueueOf_updateCustomer (fun row => { row with nextRequest := request.intFromData })
      (fun _ => rfl) fun _ => rfl
  all_goals rfl

/-- No flag of a taxi is an `in_queue`. -/
theorem inQueueOf_flagEffect {effect : Tables → Tables} {tables : Tables} {answer : SubjResponse}
    (kind : flagEffect now request subject = some (effect, answer)) :
    (effect tables).inQueueOf customer = tables.inQueueOf customer := by
  cases subject <;> simp only [flagEffect, Option.some.injEq, Prod.mk.injEq, reduceCtorEq] at kind <;>
    obtain ⟨rfl, rfl⟩ := kind <;> rfl

/-- After an `in_queue` is written, a customer is queued who was queued before, or was named. -/
theorem queued_of_setInQueue {tables : Tables} {other : Id} {inQueue : Option Timestamp}
    (queued : ((tables.setInQueue now other inQueue).inQueueOf customer).isSome) :
    (tables.inQueueOf customer).isSome ∨ other = customer ∧ inQueue.isSome := by
  simp only [Tables.inQueueOf, Tables.setInQueue, Tables.updateCustomer, Table.lookup_modify] at queued ⊢
  split at queued
  · next same =>
    cases stored : tables.customers.lookup customer with
    | none => simp [stored] at queued
    | some row => exact .inr ⟨same.symm, by simpa [stored] using queued⟩
  · exact .inl queued

/-- A reported position leaves every `in_queue` as it is. -/
theorem inQueueOf_movedTables {tables : Tables} {taxi : TaxiId} {coord : Coordinate}
    {carried : Option Id} :
    (movedTables now taxi coord carried tables).inQueueOf customer = tables.inQueueOf customer := by
  cases carried with
  | none => rfl
  | some passenger =>
      exact inQueueOf_updateCustomer (fun row => { row with x := coord.x, y := coord.y })
        (fun _ => rfl) fun _ => rfl

/-- The flag of the namesake of a taxi leaves every `in_queue` as it is. -/
theorem inQueueOf_landNamesake {tables : Tables} {taxi : TaxiId} :
    (tables.landNamesake now taxi).inQueueOf customer = tables.inQueueOf customer := by
  unfold Tables.landNamesake
  cases Tables.charOfTaxiId? taxi with
  | none => rfl
  | some namesake =>
      exact inQueueOf_updateCustomer (fun row => { row with onboard := false }) (fun _ => rfl)
        fun _ => rfl

/-- A destination leaves every `in_queue` as it is. -/
theorem inQueueOf_setDestination {tables : Tables} {other location : Id} :
    (tables.setDestination now other location).inQueueOf customer = tables.inQueueOf customer :=
  inQueueOf_updateCustomer (fun row => { row with destination := some location }) (fun _ => rfl)
    fun _ => rfl

/-- A new customer is not queued, and the others are as they were. -/
theorem queued_of_insertCustomer {tables next : Tables} {other : Id} {coord : Coordinate}
    (inserted : tables.insertCustomer now other coord = some next)
    (queued : (next.inQueueOf customer).isSome) : (tables.inQueueOf customer).isSome := by
  obtain ⟨customers, added, rfl⟩ := Option.map_eq_some_iff.mp inserted
  simp only [Tables.inQueueOf, Table.lookup_insert? added] at queued ⊢
  split at queued
  · cases queued
  · exact queued

/-- A deleted customer is not queued, and the others are as they were. -/
theorem queued_of_deleteCustomer {tables : Tables} {other : Id}
    (queued : ((tables.deleteCustomer other).inQueueOf customer).isSome) :
    (tables.inQueueOf customer).isSome := by
  simp only [Tables.inQueueOf, Tables.deleteCustomer, Table.lookup_erase] at queued ⊢
  split at queued
  · cases queued
  · exact queued

/-- A customer is queued who was queued before, or who asks while no taxi is connected. -/
theorem Handled.queued_cases (handled : Handled now session before request subject after acts)
    (queued : (after.db.inQueueOf customer).isSome) :
    (before.db.inQueueOf customer).isSome ∨
      subject = .customerServiceRequest ∧ request.id = customer ∧ before.db.available = none := by
  cases handled with
  | ignored code undeclared kind db | arrivedIdle kind empty db | denied kind taken db =>
      exact .inl (db ▸ queued)
  | arrivedAssigned next kind head assigned =>
      rw [assigned.tables, inQueueOf_assignTaxi] at queued
      exact .inl queued
  | silent effect kind db =>
      rw [db, inQueueOf_silentEffect kind] at queued
      exact .inl queued
  | flagged effect answer kind db =>
      rw [db, inQueueOf_flagEffect kind] at queued
      exact .inl queued
  | deleted kind db => exact .inl (queued_of_deleteCustomer (db ▸ queued))
  | prioritized kind db =>
      rw [db] at queued
      rcases queued_of_setInQueue queued with kept | ⟨_, none⟩
      · exact .inl kept
      · cases none
  | accepted kind db => exact .inl (queued_of_insertCustomer db queued)
  | moved kind db =>
      rw [db, inQueueOf_movedTables] at queued
      exact .inl queued
  | completed passenger kind carried db | pickUpDenied passenger kind empty service nowhere db
  | pickedUp passenger coord kind empty service destination db =>
      rw [db, inQueueOf_onboardTables] at queued
      exact .inl queued
  | completedAssigned passenger next middle later kind carried db head response assigned =>
      rw [assigned.tables, inQueueOf_assignTaxi, db, inQueueOf_onboardTables] at queued
      exact .inl queued
  | enqueued kind none db =>
      rw [db] at queued
      exact (queued_of_setInQueue queued).imp_right fun ⟨same, _⟩ => ⟨kind, same, none⟩
  | requestAssigned taxi middle earlier kind found db response assigned =>
      rw [assigned.tables, inQueueOf_assignTaxi, db, inQueueOf_setDestination] at queued
      exact .inl queued
  | redirected coord kind db =>
      rw [db, inQueueOf_landNamesake] at queued
      exact .inl queued

end KafkaServer

namespace Ledger

variable {now : Timestamp} {session : Uuid} {before after : KafkaServer} {request : Message}
  {subject : SubjRequest} {acts : List Act} {customer : Id} {ledger : Ledger} {number : Option Nat}

theorem blank_covers {locations : Table LocationRow.id} :
    blank.Covers customer (Db.initial locations).toTables :=
  ⟨nofun, nofun, nofun⟩

/-- Notes of requests before a bound are of requests before a later one. -/
theorem Before.mono {bound later : Nat} (earlier : ledger.Before bound) (le : bound ≤ later) :
    ledger.Before later where
  queued number noted := Nat.lt_of_lt_of_le (earlier.queued number noted) le
  served taxi number noted := Nat.lt_of_lt_of_le (earlier.served taxi number noted) le
  aboard taxi number noted := Nat.lt_of_lt_of_le (earlier.aboard taxi number noted) le

/-- A treated request is noted under its own number or an earlier one. -/
theorem Before.note {bound : Nat} (earlier : ledger.Before bound)
    (counted : ∀ own ∈ number, own < bound) {tables : Tables} :
    (ledger.note customer tables request number subject).Before bound := by
  refine ⟨fun own noted => ?_, fun taxi own noted => ?_, fun taxi own noted => ?_⟩
  · simp only [Ledger.note] at noted
    split at noted
    · exact counted own noted
    · exact earlier.queued own noted
  · simp only [Ledger.note] at noted
    cases due : assignment? tables request subject with
    | none =>
        rw [due] at noted
        exact earlier.served taxi own noted
    | some pair =>
        rw [due] at noted
        simp only at noted
        split at noted
        · by_cases same : taxi = pair.1
          · subst same
            rw [Function.update_self] at noted
            split at noted
            · exact counted own noted
            · exact earlier.queued own noted
          · rw [Function.update_of_ne same] at noted
            exact earlier.served taxi own noted
        · exact earlier.served taxi own noted
  · simp only [Ledger.note] at noted
    split at noted
    · by_cases same : taxi = request.taxiId
      · subst same
        rw [Function.update_self] at noted
        exact earlier.served _ own noted
      · rw [Function.update_of_ne same] at noted
        exact earlier.aboard taxi own noted
    · exact earlier.aboard taxi own noted

/-- An arriving taxi is under way for a noted request. -/
theorem Before.arriving {bound : Nat} (earlier : ledger.Before bound) {tables : Tables}
    {taxi : TaxiId} : ∀ own ∈ ledger.arriving? customer tables taxi, own < bound := by
  intro own arrives
  unfold arriving? at arrives
  cases carried : tables.customerIdOf taxi with
  | some other =>
      rw [carried] at arrives
      exact earlier.aboard taxi own (Option.ite_none_right_eq_some.mp arrives).2
  | none =>
      rw [carried] at arrives
      exact earlier.served taxi own (Option.ite_none_right_eq_some.mp arrives).2

/-- A taxi which arrives for the customer is under way for one of its requests. -/
theorem Covers.arriving {tables : Tables} (covers : ledger.Covers customer tables) {taxi : TaxiId}
    (serves : tables.customerIdOf taxi = some customer ∨
      tables.customerIdOf taxi = none ∧ tables.serviceOf taxi = some customer) :
    (ledger.arriving? customer tables taxi).isSome := by
  unfold arriving?
  rcases serves with carries | ⟨empty, serves⟩
  · rw [carries]
    simpa using covers.aboard taxi carries
  · rw [empty]
    simpa [serves] using covers.served taxi serves

/-- Where the customer is assigned to a taxi, the request is known for which it is. -/
theorem Covers.assigned (covers : ledger.Covers customer before.db.toTables)
    (numbered : subject = .customerServiceRequest → request.id = customer → number.isSome)
    {taxi : TaxiId} (due : assignment? before.db.toTables request subject = some (taxi, customer)) :
    (if subject = .customerServiceRequest then number else ledger.queued).isSome := by
  by_cases asks : subject = .customerServiceRequest
  · rw [if_pos asks]
    subst asks
    obtain ⟨_, _, same⟩ := Option.map_eq_some_iff.mp due
    cases same
    exact numbered rfl rfl
  · rw [if_neg asks]
    have dequeued : dequeued? before.db.toTables request subject = some customer := by
      simp [dequeued?, asks, due]
    exact covers.queued (Tables.inQueueOf_queueHead (queueHead_of_dequeued dequeued))

/-- A treated request leaves every row which names the customer with its note. -/
theorem Covers.note (covers : ledger.Covers customer before.db.toTables)
    (asked : request.subject = .request subject)
    (handled : Handled now session before request subject after acts)
    (numbered : subject = .customerServiceRequest → request.id = customer → number.isSome) :
    (ledger.note customer before.db.toTables request number subject).Covers customer
      after.db.toTables := by
  have step := handled.tripStep asked
  refine ⟨fun queued => ?_, fun taxi serves => ?_, fun taxi carries => ?_⟩
  · simp only [Ledger.note]
    rcases handled.queued_cases queued with kept | ⟨asks, named, none⟩
    · split
      · next enqueues => exact numbered enqueues.1 enqueues.2.1
      · exact covers.queued kept
    · rw [if_pos ⟨asks, named, none⟩]
      exact numbered asks named
  · simp only [Ledger.note]
    have cases_ : before.db.serviceOf taxi = some customer ∨
        assignment? before.db.toTables request subject = some (taxi, customer) :=
      (step.service_cases serves).imp_right fun assigned => handled.due_of_assign assigned
    cases due : assignment? before.db.toTables request subject with
    | none =>
        rw [due] at cases_
        exact covers.served taxi (cases_.resolve_right (by simp))
    | some pair =>
        rw [due] at cases_
        obtain ⟨other, next⟩ := pair
        simp only
        by_cases same : next = customer
        · subst same
          rw [if_pos rfl]
          by_cases here : taxi = other
          · subst here
            rw [Function.update_self]
            exact covers.assigned numbered due
          · rw [Function.update_of_ne here]
            refine covers.served taxi (cases_.resolve_right fun assigned => here ?_)
            cases assigned
            rfl
        · rw [if_neg same]
          refine covers.served taxi (cases_.resolve_right fun assigned => same ?_)
          cases assigned
          rfl
  · simp only [Ledger.note]
    rcases step.carried_cases carries with kept | ⟨arrives, rfl, empty, serves⟩
    · have known : (ledger.aboard taxi).isSome := covers.aboard taxi kept
      split
      · next boards =>
        by_cases same : taxi = request.taxiId
        · subst same
          rw [Function.update_self]
          exact covers.served _ boards.2.2
        · rw [Function.update_of_ne same]
          exact known
      · exact known
    · rw [if_pos ⟨arrives, empty, serves⟩, Function.update_self]
      exact covers.served _ serves

/-- Rows which name nobody new keep their notes. -/
theorem Covers.of_trips {tables next : Tables} (covers : ledger.Covers customer tables)
    (queued : next.inQueueOf customer = tables.inQueueOf customer)
    (served : ∀ taxi, next.trips.service taxi = some customer →
      tables.trips.service taxi = some customer)
    (aboard : ∀ taxi, next.trips.carried taxi = some customer →
      tables.trips.carried taxi = some customer) : ledger.Covers customer next where
  queued := queued ▸ covers.queued
  served taxi serves := covers.served taxi (served taxi serves)
  aboard taxi carries := covers.aboard taxi (aboard taxi carries)

/-- A taxi which is added or reconnected serves nobody new. -/
theorem Covers.added {tables next : Tables} (covers : ledger.Covers customer tables)
    {taxi : TaxiId} {reconnect : Bool}
    (stored : AuthServer.addedTables now taxi reconnect tables = some next) :
    ledger.Covers customer next := by
  cases reconnect with
  | true =>
      simp only [AuthServer.addedTables, if_true, Option.some.injEq] at stored
      subst stored
      refine covers.of_trips rfl (fun other serves => ?_) fun other carries => ?_
      · rwa [Tables.trips_setConnected] at serves
      · rwa [Tables.trips_setConnected] at carries
  | false =>
      simp only [AuthServer.addedTables, Bool.false_eq_true, if_false] at stored
      obtain ⟨trips, _⟩ := Tables.trips_insertTaxi stored
      obtain ⟨taxis, _, rfl⟩ := Option.map_eq_some_iff.mp stored
      refine covers.of_trips rfl (fun other serves => ?_) fun other carries => ?_
      · rw [trips] at serves
        exact (Trips.update_none_eq_some_iff.mp serves).2
      · rw [trips] at carries
        exact (Trips.update_none_eq_some_iff.mp carries).2

end Ledger

/-! ### What answers a service request -/

/-- None of the acts answers a service request of the customer. -/
def Unanswered (customer : Id) (acts : List Act) : Prop :=
  ∀ answer, .produce answer ∈ acts → answer.answers customer = false

/-- Quiet acts answer nobody. -/
theorem unanswered_of_quiet {acts : List Act} (quiet : ∀ act ∈ acts, act.Quiet) (customer : Id) :
    Unanswered customer acts :=
  fun _ member => Message.answers_of_endsService (quiet _ member).1 customer

/-- A dispatch answers no service request. -/
theorem Dispatch.unanswered {taxi : TaxiId} {next : Id} {coord : Coordinate} {acts : List Act}
    (dispatch : Dispatch taxi next coord acts) (customer : Id) : Unanswered customer acts := by
  obtain ⟨goTo, accepted, rfl, sent, _, _, quiet⟩ := dispatch.acts
  intro answer member
  simp only [List.mem_cons, reduceCtorEq, Act.produce.injEq, List.not_mem_nil, or_false,
    false_or] at member
  rcases member with rfl | rfl
  · simp [Message.answers, sent]
  · exact Message.answers_of_endsService quiet.1 customer

namespace TripStep

variable {before after : Trips} {message : Message} {subject : SubjRequest} {acts : List Act}

/-- A request of a customer is answered once at most, and only where a taxi arrives which carries
the customer, or carries nobody and serves the customer. -/
theorem answers_cases (step : TripStep before message subject after acts) (customer : Id) :
    Unanswered customer acts ∨
      ∃ answer later, acts = .produce answer :: later ∧ Unanswered customer later ∧
        answer.answers customer = true ∧ subject = .taxiDestinationReached ∧
          (before.carried message.taxiId = some customer ∨
            before.carried message.taxiId = none ∧ before.service message.taxiId = some customer) := by
  -- What is produced for somebody else answers nobody.
  have answering {reply : Message} {later : List Act} {other : Id}
      (recorded : acts = .produce reply :: later) (rest : Unanswered customer later)
      (named : reply.id = other)
      (told : reply.subject = .response .customerServiceCompleted ∨
        reply.subject = .response .customerServiceDenied)
      (kind : subject = .taxiDestinationReached)
      (serves : before.carried message.taxiId = some other ∨
        before.carried message.taxiId = none ∧ before.service message.taxiId = some other) :
      Unanswered customer acts ∨
        ∃ answer later, acts = .produce answer :: later ∧ Unanswered customer later ∧
          answer.answers customer = true ∧ subject = .taxiDestinationReached ∧
            (before.carried message.taxiId = some customer ∨
              before.carried message.taxiId = none ∧
                before.service message.taxiId = some customer) := by
    by_cases same : other = customer
    · subst same
      exact .inr ⟨reply, later, recorded, rest, by simpa [Message.answers, named] using told, kind,
        serves⟩
    · refine .inl fun produced member => ?_
      rw [recorded, List.mem_cons] at member
      rcases member with first | later
      · cases first
        simp [Message.answers, named, same]
      · exact rest produced later
  cases step with
  | quiet calm same quiet => exact .inl (unanswered_of_quiet quiet customer)
  | joined kind trips free quiet => exact .inl (unanswered_of_quiet quiet customer)
  | relocated kind trips recorded | drove kind trips recorded =>
      subst recorded
      exact .inl (by rintro _ ⟨⟩)
  | left kind trips answer told named recorded =>
      subst recorded
      refine .inl fun produced member => ?_
      cases List.mem_singleton.mp member
      simp [Message.answers, told]
  | droppedOff other kind carried trips answer told named recorded =>
      exact answering recorded (by rintro _ ⟨⟩) named (.inl told) kind (.inl carried)
  | droppedOffAndSent other next middle coord later kind carried dropped trips answer told named dest
      dispatch recorded =>
      exact answering recorded (dispatch.unanswered customer) named (.inl told) kind (.inl carried)
  | boardedDenied other kind empty served nowhere trips answer told named recorded =>
      exact answering recorded (by rintro _ ⟨⟩) named (.inr told) kind (.inr ⟨empty, served⟩)
  | boarded other coord kind empty served destination trips pickedUp goTo quiet sent taxi heading
      recorded =>
      subst recorded
      refine .inl fun produced member => ?_
      simp only [List.mem_cons, Act.produce.injEq, List.not_mem_nil, or_false] at member
      rcases member with rfl | rfl
      · exact Message.answers_of_endsService quiet.1 customer
      · simp [Message.answers, sent]
  | requested taxi coord earlier answer kind trips dest dispatch quiet recorded =>
      subst recorded
      refine .inl fun produced member => ?_
      rcases List.mem_append.mp member with sent | last
      · exact dispatch.unanswered customer produced sent
      · cases List.mem_singleton.mp last
        exact Message.answers_of_endsService quiet.1 customer
  | summoned next coord kind trips dest dispatch => exact .inl (dispatch.unanswered customer)
  | redirected coord frees kind trips goTo sent taxi heading recorded =>
      subst recorded
      refine .inl fun produced member => ?_
      cases List.mem_singleton.mp member
      simp [Message.answers, sent]

end TripStep

end EasyCab
