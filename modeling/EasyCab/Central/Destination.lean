import EasyCab.Central.Observers

/-!
# Customers are taken where they asked

The destination of a customer is stored when a service request is assigned at once
and not when it is queued, so the column a pick-up reads may be the one of an
earlier trip. `Headed` is the invariant that a taxi with a customer aboard was last
sent to the location its customer named last. It is kept as long as the stored
destination is the one asked for at every pick-up, no taxi with a customer aboard is
assigned, and no customer aboard asks for another place.
-/

namespace EasyCab

open Library Trace

/-- A taxi with a customer aboard was last sent to the location named in the latest service
request of the customer. -/
def Headed (trips : Trips) (last : TaxiId → Option Coordinate) (asked : Id → Option Id) : Prop :=
  ∀ taxi customer, trips.carried taxi = some customer →
    ∃ coord, (asked customer).bind trips.placeAt = some coord ∧ last taxi = some coord

/-- The customers whose service is completed, by some acts. -/
def completions (acts : List Act) : List Id :=
  acts.filterMap fun act =>
    match act with
    | .produce message =>
        if message.subject = .response .customerServiceCompleted then some message.id else none
    | _ => none

@[simp] theorem completions_nil : completions [] = [] := rfl

theorem completions_append (first second : List Act) :
    completions (first ++ second) = completions first ++ completions second :=
  List.filterMap_append

/-- Quiet acts complete nothing. -/
theorem completions_quiet {acts : List Act} (quiet : ∀ act ∈ acts, act.Quiet) :
    completions acts = [] := by
  refine List.filterMap_eq_nil_iff.mpr fun act member => ?_
  have calm := quiet act member
  cases act <;> simp_all [Act.Quiet, Message.Quiet, Message.endsService]

/-- A dispatch completes nothing. -/
theorem completions_dispatch {taxi : TaxiId} {customer : Id} {coord : Coordinate} {acts : List Act}
    (dispatch : Dispatch taxi customer coord acts) : completions acts = [] := by
  obtain ⟨goTo, accepted, rfl, sent, _, _, quiet⟩ := dispatch.acts
  simpa [completions, sent] using completions_quiet quiet.produced

namespace Headed

variable {trips next : Trips} {last : TaxiId → Option Coordinate}
  {asked : Id → Option Id} {taxi : TaxiId} {customer : Id} {coord : Coordinate}

/-- Taxis are headed as before where nobody else is aboard and no location moved. -/
theorem of_carried (headed : Headed trips last asked)
    (kept : ∀ taxi customer, next.carried taxi = some customer →
      trips.carried taxi = some customer) (placeAt : next.placeAt = trips.placeAt) :
    Headed next last asked := by
  intro taxi customer carried
  rw [placeAt]
  exact headed taxi customer (kept taxi customer carried)

/-- A taxi which drives leaves taxis headed where they were. -/
theorem drive (headed : Headed trips last asked) (taxi : TaxiId) (coord : Coordinate) :
    Headed (trips.drive taxi coord) last asked := by
  refine headed.of_carried ?_ (trips.drive_placeAt taxi coord)
  intro other customer carried
  rwa [Trips.drive_carried] at carried

/-- Putting a customer down leaves the other taxis headed where they were. -/
theorem putDown (headed : Headed trips last asked) (customer : Id) (taxi : TaxiId) :
    Headed (trips.setOnboard customer taxi false) last asked := by
  refine headed.of_carried ?_ (Trips.setOnboard_placeAt ..)
  intro other passenger carried
  exact (Trips.setOnboard_false_carried_iff.mp carried).2

/-- Redirecting a taxi in the tables leaves taxis headed where they were. -/
theorem redirect (headed : Headed trips last asked) (taxi : TaxiId) (coord : Coordinate) :
    Headed ((trips.redirect taxi coord).landNamesake taxi) last asked := by
  refine headed.of_carried ?_ (Trips.landNamesake_placeAt ..)
  intro other passenger carried
  exact (Trips.redirect_carried_iff.mp carried).2

/-- A taxi which carries nobody may be sent anywhere. -/
theorem send (headed : Headed trips last asked) (idle : trips.carried taxi = none)
    (coord : Coordinate) :
    Headed trips (fun other => if taxi = other then some coord else last other) asked := by
  intro other customer carried
  have different : taxi ≠ other := by
    rintro rfl
    simp [idle] at carried
  obtain ⟨place, wanted, sent⟩ := headed other customer carried
  exact ⟨place, wanted, (if_neg different).trans sent⟩

/-- A taxi takes a customer aboard and is sent to where the customer asked to be. -/
theorem takeAboard (headed : Headed trips last asked) (stored : (trips.taxiAt taxi).isSome)
    (wanted : (asked customer).bind trips.placeAt = some coord) :
    Headed (trips.setOnboard customer taxi true)
      (fun other => if taxi = other then some coord else last other) asked := by
  intro other passenger aboard
  rw [trips.setOnboard_true_carried taxi customer stored] at aboard
  by_cases same : other = taxi
  · subst same
    rw [Function.update_self] at aboard
    cases aboard
    exact ⟨coord, wanted, if_pos rfl⟩
  · rw [Function.update_of_ne same] at aboard
    obtain ⟨place, wanted, sent⟩ := headed other passenger aboard
    exact ⟨place, wanted, (if_neg (Ne.symm same)).trans sent⟩

section Trace

/-! ### What the acts of a request do to the invariant -/

variable {message : Message} {acts trace : List Act}

/-- Entering a request leaves taxis headed where they were, if customers aboard ask for the same
place as before. -/
theorem enter (headed : Headed trips (lastGoTo · trace) (lastRequested · trace))
    (asks : ∀ taxi customer, trips.carried taxi = some customer →
      (lastRequested customer (.handled message :: trace)).bind trips.placeAt =
        (lastRequested customer trace).bind trips.placeAt) :
    Headed trips (lastGoTo · (.handled message :: trace))
      (lastRequested · (.handled message :: trace)) := by
  intro taxi customer carried
  rw [asks taxi customer carried]
  exact headed taxi customer carried

/-- Quiet acts leave taxis headed where they were. -/
theorem hush (headed : Headed trips (lastGoTo · trace) asked) (quiet : ∀ act ∈ acts, act.Quiet) :
    Headed trips (lastGoTo · (acts.reverse ++ trace)) asked := by
  have reversed : ∀ act ∈ acts.reverse, act.Quiet :=
    fun act member => quiet act (List.mem_reverse.mp member)
  simpa only [lastGoTo_quiet reversed] using headed

/-- The end of a service leaves taxis headed where they were. -/
theorem ended (headed : Headed trips (lastGoTo · trace) asked) (ends : message.endsService) :
    Headed trips (lastGoTo · (.produce message :: trace)) asked := by
  simpa only [lastGoTo_ended ends] using headed

/-- Assigning a taxi which carries nobody leaves the others headed where they were. -/
theorem dispatch (headed : Headed trips (lastGoTo · trace) asked)
    (idle : trips.carried taxi = none) (dispatch : Dispatch taxi customer coord acts) :
    Headed (trips.assign taxi customer) (lastGoTo · (acts.reverse ++ trace)) asked := by
  simp only [lastGoTo_dispatch dispatch]
  refine (headed.send idle coord).of_carried ?_ (trips.assign_placeAt taxi customer)
  intro other passenger carried
  rwa [Trips.assign_carried] at carried

/-- Sending a taxi which carries nobody somewhere leaves the others headed where they were. -/
theorem goTo (headed : Headed trips (lastGoTo · trace) asked)
    (idle : trips.carried message.taxiId = none) (sent : message.subject = .response .taxiGoTo) :
    Headed trips (lastGoTo · (.produce message :: trace)) asked := by
  simp only [lastGoTo_goTo sent]
  exact headed.send idle message.coord

/-- A taxi takes a customer aboard and is sent to where the customer asked to be. -/
theorem board (headed : Headed trips (lastGoTo · trace) asked)
    (stored : (trips.taxiAt taxi).isSome)
    (wanted : (asked customer).bind trips.placeAt = some coord)
    (sent : message.subject = .response .taxiGoTo) (named : message.taxiId = taxi)
    (heading : message.coord = coord) :
    Headed (trips.setOnboard customer taxi true) (lastGoTo · (.produce message :: trace))
      asked := by
  simp only [lastGoTo_goTo sent, named, heading]
  exact headed.takeAboard stored wanted

end Trace

end Headed

/-! ### The condition on a request -/

namespace Tables

/-- A taxi takes a customer aboard only when the stored destination is the location asked
for; the taxi which a request assigns carries nobody, once a completed service has ended;
and a customer aboard does not ask for another location. -/
def KeepsDestinations (tables : Tables) (trace : List Act) (message : Message)
    (subject : SubjRequest) : Prop :=
  match subject with
  | .taxiDestinationReached =>
      tables.customerIdOf message.taxiId = none →
        ∀ customer ∈ tables.serviceOf message.taxiId,
          (tables.destinationOf customer).isSome ∧
            tables.destinationOf customer =
              (lastRequested customer trace).bind tables.locationCoord
  | .newTaxi | .taxiReconnected =>
      tables.queueHead ≠ none → tables.customerIdOf message.taxiId = none
  | .customerServiceRequest =>
      (∀ taxi ∈ tables.available, tables.customerIdOf taxi = none) ∧
        ∀ row ∈ tables.taxis.rows, row.customerId = some message.id →
          tables.locationCoord message.charFromData =
            (lastRequested message.id trace).bind tables.locationCoord
  | _ => True

instance (tables : Tables) (trace : List Act) (message : Message) (subject : SubjRequest) :
    Decidable (tables.KeepsDestinations trace message subject) := by
  unfold KeepsDestinations
  split <;> infer_instance

/-- A taxi which is assigned before anything ends carries nobody. -/
theorem KeepsDestinations.idle {tables : Tables} {trace : List Act} {message : Message}
    {subject : SubjRequest} (keeps : tables.KeepsDestinations trace message subject)
    (early : subject ≠ .taxiDestinationReached) {taxi : TaxiId} {customer : Id}
    (due : KafkaServer.assignment? tables message subject = some (taxi, customer)) :
    tables.trips.carried taxi = none := by
  cases subject <;> simp only [KafkaServer.assignment?, reduceCtorEq, Option.map_eq_some_iff,
    Prod.mk.injEq, ne_eq, not_true_eq_false] at due early
  case newTaxi =>
    obtain ⟨head, found, rfl, _⟩ := due
    exact keeps (by simp [found])
  case taxiReconnected =>
    obtain ⟨head, found, rfl, _⟩ := due
    exact keeps (by simp [found])
  case customerServiceRequest =>
    obtain ⟨found, available, rfl, _⟩ := due
    exact keeps.1 found available

/-- A customer aboard who asks again names the same place. -/
theorem KeepsDestinations.asks_same {tables : Tables} {trace : List Act} {message : Message}
    (keeps : tables.KeepsDestinations trace message .customerServiceRequest) {taxi : TaxiId}
    (carried : tables.trips.carried taxi = some message.id) :
    tables.locationCoord message.charFromData =
      (lastRequested message.id trace).bind tables.locationCoord := by
  obtain ⟨row, found, aboard⟩ := Option.bind_eq_some_iff.mp carried
  exact keeps.2 row (Table.mem_of_lookup found) aboard

end Tables

namespace TripStep

variable {before after : Trips} {message : Message} {subject : SubjRequest} {acts trace : List Act}

/-- The acts of a step enter no further request. -/
theorem not_handled (step : TripStep before message subject after acts) (request : Message) :
    Act.handled request ∉ acts := by
  have hushed {quietly : List Act} (quiet : ∀ act ∈ quietly, act.Quiet) :
      Act.handled request ∉ quietly := fun member => quiet _ member
  have dispatched {taxi : TaxiId} {customer : Id} {coord : Coordinate} {sent : List Act}
      (dispatch : Dispatch taxi customer coord sent) : Act.handled request ∉ sent := by
    obtain ⟨_, _, rfl, _⟩ := dispatch.acts
    simp
  cases step with
  | quiet calm same quiet => exact hushed quiet
  | joined kind trips free quiet => exact hushed quiet
  | droppedOffAndSent customer next middle coord later kind carried left trips answer told named
      dest dispatch recorded =>
      rw [recorded]
      simpa using dispatched dispatch
  | requested taxi coord earlier answer kind trips dest dispatch quiet recorded =>
      rw [recorded]
      simpa using dispatched dispatch
  | summoned customer coord kind trips dest dispatch => exact dispatched dispatch
  | _ => simp [*]

/-- The acts of a step ask for nothing. -/
theorem lastRequested_acts (step : TripStep before message subject after acts) (customer : Id) :
    lastRequested customer (acts.reverse ++ .handled message :: trace) =
      lastRequested customer (.handled message :: trace) := by
  apply observe_append_ignored
  intro act member
  rw [List.mem_reverse] at member
  cases act with
  | handled request => exact absurd member (step.not_handled request)
  | _ => exact fun _ => rfl

/-- A handled request which meets the condition keeps the invariant. -/
theorem headed {tables : Tables} (step : TripStep tables.trips message subject after acts)
    (named : message.subject = .request subject) (wellFormed : tables.trips.WellFormed)
    (headed : Headed tables.trips (lastGoTo · trace) (lastRequested · trace))
    (keeps : tables.KeepsDestinations trace message subject)
    (stays : subject ≠ .orderLocationMove)
    (due : ∀ taxi customer, .assign taxi customer ∈ acts →
      KafkaServer.assignment? tables message subject = some (taxi, customer)) :
    Headed after (lastGoTo · (acts.reverse ++ .handled message :: trace))
      (lastRequested · (acts.reverse ++ .handled message :: trace)) := by
  have entered : Headed tables.trips (lastGoTo · (.handled message :: trace))
      (lastRequested · (.handled message :: trace)) := by
    refine headed.enter fun taxi customer carried => ?_
    rw [lastRequested_handled]
    split
    · next asks =>
        obtain ⟨asks, rfl⟩ := asks
        obtain rfl : subject = .customerServiceRequest := by simpa [named] using asks
        exact keeps.asks_same carried
    · rfl
  -- A taxi is dispatched with nobody aboard.
  have idle {taxi : TaxiId} {customer : Id} {coord : Coordinate} {sent rest : List Act}
      (early : subject ≠ .taxiDestinationReached) (dispatch : Dispatch taxi customer coord sent)
      (recorded : acts = sent ++ rest) : tables.trips.carried taxi = none := by
    refine keeps.idle early (due taxi customer ?_)
    rw [recorded]
    exact List.mem_append_left rest dispatch.assign_mem
  simp only [step.lastRequested_acts]
  cases step with
  | quiet calm same quiet =>
      subst same
      exact entered.hush quiet
  | relocated kind trips recorded => exact absurd kind stays
  | left kind trips answer told named recorded =>
      subst trips recorded
      have gone : Headed (tables.trips.leave message.id) (lastGoTo · (.handled message :: trace))
          (lastRequested · (.handled message :: trace)) :=
        entered.of_carried (fun _ _ carried => carried) rfl
      exact gone.ended (Message.endsService_iff.mpr (.inr (.inr told)))
  | joined kind trips free quiet =>
      subst trips
      have joined : Headed (tables.trips.join message.id message.coord)
          (lastGoTo · (.handled message :: trace)) (lastRequested · (.handled message :: trace)) :=
        entered.of_carried (fun _ _ carried => carried) rfl
      exact joined.hush quiet
  | drove kind trips recorded =>
      subst trips recorded
      exact entered.drive message.taxiId message.coord
  | droppedOff customer kind carried trips answer told named recorded =>
      subst trips recorded
      have dropped := (entered.drive message.taxiId message.coord).putDown customer message.taxiId
      exact dropped.ended (Message.endsService_iff.mpr (.inl told))
  | droppedOffAndSent customer next middle coord later kind carried left trips answer told named
      dest dispatch recorded =>
      subst trips left recorded
      have dropped := (entered.drive message.taxiId message.coord).putDown customer message.taxiId
      have empty : ((tables.trips.drive message.taxiId message.coord).setOnboard customer
          message.taxiId false).carried message.taxiId = none := by
        rw [Trips.setOnboard_false_carried, Function.update_self]
      rw [List.reverse_cons, List.append_assoc]
      exact (dropped.ended (Message.endsService_iff.mpr (.inl told))).dispatch empty dispatch
  | boardedDenied customer kind empty service nowhere trips answer told named recorded =>
      subst kind
      have wanted := (keeps empty customer service).1
      rw [Tables.destinationOf_eq, nowhere] at wanted
      cases wanted
  | boarded customer coord kind empty service destination trips pickedUp goTo quiet sent taxi heading
      recorded =>
      subst kind trips recorded
      have stored := wellFormed.drive_taxiAt service message.coord
      -- The destination stored is the one asked for, by the condition.
      have wanted : (lastRequested customer (.handled message :: trace)).bind
          (tables.trips.drive message.taxiId message.coord).placeAt = some coord := by
        have asked := (keeps empty customer service).2
        rw [Tables.destinationOf_eq, destination] at asked
        rw [Trips.drive_placeAt, lastRequested_handled, if_neg (by simp [named])]
        exact asked.symm
      exact ((entered.drive message.taxiId message.coord).hush quiet.produced).board stored wanted
        sent taxi heading
  | requested taxi coord earlier answer kind trips dest dispatch quiet recorded =>
      subst kind trips
      have empty := idle (by simp) dispatch recorded
      subst recorded
      have named : Headed (tables.trips.setDestination message.id message.charFromData)
          (lastGoTo · (.handled message :: trace)) (lastRequested · (.handled message :: trace)) :=
        entered.of_carried (fun _ _ carried => carried) rfl
      rw [List.reverse_append, List.append_assoc]
      exact (named.dispatch empty dispatch).hush quiet.produced
  | summoned customer coord kind trips dest dispatch =>
      subst trips
      have early : subject ≠ .taxiDestinationReached := by rcases kind with rfl | rfl <;> simp
      exact entered.dispatch (idle early dispatch (List.append_nil acts).symm) dispatch
  | redirected coord frees kind trips goTo sent taxi heading recorded =>
      subst trips recorded
      refine (entered.redirect message.taxiId coord).goTo ?_ sent
      rw [Trips.redirect_carried, taxi, Function.update_self]

/-- A completed service ends where the taxi arrived. -/
theorem completion (step : TripStep before message subject after acts)
    (wellFormed : before.WellFormed) {customer : Id} (completed : customer ∈ completions acts) :
    subject = .taxiDestinationReached ∧ before.carried message.taxiId = some customer ∧
      after.customerAt customer = some message.coord ∧ after.placeAt = before.placeAt := by
  cases step with
  | quiet calm same quiet => simp [completions_quiet quiet] at completed
  | joined kind trips free quiet => simp [completions_quiet quiet] at completed
  | relocated kind trips recorded => simp [recorded] at completed
  | drove kind trips recorded => simp [recorded] at completed
  | left kind trips answer told named recorded => simp [recorded, completions, told] at completed
  | droppedOff passenger kind carried trips answer told named recorded =>
      obtain rfl : customer = passenger := by
        simpa [recorded, completions, told, named] using completed
      refine ⟨kind, carried, ?_, ?_⟩
      · rw [trips, Trips.setOnboard_customerAt]
        exact wellFormed.drive_customerAt carried _
      · rw [trips, Trips.setOnboard_placeAt, Trips.drive_placeAt]
  | droppedOffAndSent passenger next middle coord later kind carried left trips answer told named
      dest dispatch recorded =>
      have only : completions acts = [passenger] := by
        rw [recorded, ← List.singleton_append, completions_append, completions_dispatch dispatch]
        simp [completions, told, named]
      obtain rfl : customer = passenger := by simpa [only] using completed
      refine ⟨kind, carried, ?_, ?_⟩
      · rw [trips, Trips.assign_customerAt, left, Trips.setOnboard_customerAt]
        exact wellFormed.drive_customerAt carried _
      · rw [trips, Trips.assign_placeAt, left, Trips.setOnboard_placeAt, Trips.drive_placeAt]
  | boardedDenied passenger kind empty service nowhere trips answer told named recorded =>
      simp [recorded, completions, told] at completed
  | boarded passenger coord kind empty service destination trips pickedUp goTo quiet sent taxi heading
      recorded =>
      have none : completions acts = [] := by
        rw [recorded, ← List.singleton_append, completions_append, completions_quiet quiet.produced]
        simp [completions, sent]
      simp [none] at completed
  | requested taxi coord earlier answer kind trips dest dispatch quiet recorded =>
      rw [recorded, completions_append, completions_dispatch dispatch, completions_quiet quiet.produced]
        at completed
      cases completed
  | summoned next coord kind trips dest dispatch =>
      simp [completions_dispatch dispatch] at completed
  | redirected coord frees kind trips goTo sent taxi heading recorded =>
      simp [recorded, completions, sent] at completed

end TripStep

/-! ### Whole runs -/

namespace CentralStep

/-- Whose service is completed is stored at the location named in their latest request. -/
def CompletesWhereAsked (taken : CentralStep) : Prop :=
  ∀ customer ∈ completions taken.recorded,
    (taken.after.db.customerCoord customer).isSome ∧
      taken.after.db.customerCoord customer =
        (lastRequested customer taken.after.trace).bind taken.after.db.locationCoord

/-- No location moves. -/
def LocationsStay (session : Uuid) (taken : CentralStep) : Prop :=
  ∀ asked ∈ taken.request? session, asked.2 ≠ .orderLocationMove

/-- The request of the step, if any, meets the condition of `Tables.KeepsDestinations`. -/
def KeepsDestinations (session : Uuid) (taken : CentralStep) : Prop :=
  ∀ asked ∈ taken.request? session,
    taken.before.db.KeepsDestinations taken.before.trace asked.1 asked.2

instance (taken : CentralStep) : Decidable taken.CompletesWhereAsked := by
  unfold CompletesWhereAsked
  infer_instance

instance (session : Uuid) (taken : CentralStep) : Decidable (taken.LocationsStay session) := by
  unfold LocationsStay
  infer_instance

instance (session : Uuid) (taken : CentralStep) : Decidable (taken.KeepsDestinations session) := by
  unfold KeepsDestinations
  infer_instance

variable {session : Uuid} {taken : CentralStep}

/-- A step whose request meets the condition keeps the invariant. -/
theorem headed (stepped : (System.machine session).step taken.before taken.event = some taken.after)
    (succeeds : taken.Succeeds) (stays : taken.LocationsStay session)
    (keeps : taken.KeepsDestinations session)
    (before : Headed taken.before.db.trips (lastGoTo · taken.before.trace)
      (lastRequested · taken.before.trace)) :
    Headed taken.after.db.trips (lastGoTo · taken.after.trace)
      (lastRequested · taken.after.trace) := by
  cases travels_of_step stepped succeeds with
  | still added unasked trips trace quiet =>
      rw [trips, trace]
      simp only [lastGoTo_quiet quiet, lastRequested_quiet quiet]
      exact before
  | registered taxiId added unasked trips free trace quiet =>
      rw [trips, trace]
      simp only [lastGoTo_quiet quiet, lastRequested_quiet quiet]
      refine before.of_carried (fun taxi customer carried => ?_) rfl
      exact (Trips.update_none_eq_some_iff.mp carried).2
  | treated message subject acts maps asked step due trace =>
      rw [trace]
      simp only [lastGoTo_publishMap, lastRequested_publishMap]
      exact step.headed (subject_of_asked asked) taken.before.db.trips_wellFormed before
        (keeps _ asked) (stays _ asked) due

/-- A step from the invariant completes services where they were asked for. -/
theorem completes_where_asked
    (stepped : (System.machine session).step taken.before taken.event = some taken.after)
    (succeeds : taken.Succeeds) (arrives : taken.ArrivesWhereSent session)
    (before : Headed taken.before.db.trips (lastGoTo · taken.before.trace)
      (lastRequested · taken.before.trace)) : taken.CompletesWhereAsked := by
  intro customer completed
  cases travels_of_step stepped succeeds with
  | still added unasked trips trace quiet =>
      rw [recorded_append trace, completions_quiet quiet] at completed
      cases completed
  | registered taxiId added unasked trips free trace quiet =>
      rw [recorded_append trace, completions_quiet quiet] at completed
      cases completed
  | treated message subject acts maps asked step due trace =>
      have grows : taken.after.trace =
          (maps.map .publishMap ++ (acts.reverse ++ [.handled message])) ++ taken.before.trace := by
        simpa using trace
      have hushed : completions (maps.map .publishMap) = [] :=
        completions_quiet (by simp [Act.Quiet])
      have entered : completions [.handled message] = [] := rfl
      rw [recorded_append grows, completions_append, completions_append, hushed, entered,
        List.nil_append, List.append_nil, completions, List.filterMap_reverse,
        List.mem_reverse] at completed
      obtain ⟨rfl, carried, ended, places⟩ :=
        step.completion taken.before.db.trips_wellFormed completed
      -- The taxi arrived where it was last sent, which is where its customer asked to be.
      obtain ⟨place, wanted, sent⟩ := before message.taxiId customer carried
      obtain rfl : message.coord = place :=
        Option.some.inj ((arrives _ asked rfl).symm.trans sent)
      have latest : lastRequested customer taken.after.trace =
          lastRequested customer taken.before.trace := by
        rw [trace, lastRequested_publishMap, step.lastRequested_acts, lastRequested_handled,
          if_neg (by simp [subject_of_asked asked])]
      have stored : taken.after.db.customerCoord customer = some message.coord := ended
      refine ⟨by rw [stored]; rfl, ?_⟩
      rw [stored, latest]
      exact wanted.symm.trans (congrArg _ places.symm)

end CentralStep

/-- In a run of Central in which every query succeeds, no location moves and taxis arrive only
where they were last sent, every completed service ends where it was last asked for, as
long as the stored destination is the one asked for at every pick-up, no taxi with a
customer aboard is assigned, and no customer aboard asks for another location. -/
theorem completed_where_asked (session : Uuid) (locations : Table LocationRow.id)
    (events : List System.Event)
    (proper : ∀ taken ∈ (System.machine session).run (System.start locations) events,
      CentralStep.Succeeds taken ∧ CentralStep.LocationsStay session taken ∧
        CentralStep.ArrivesWhereSent session taken)
    (keeps : ∀ taken ∈ (System.machine session).run (System.start locations) events,
      CentralStep.KeepsDestinations session taken) :
    ∀ taken ∈ (System.machine session).run (System.start locations) events,
      CentralStep.CompletesWhereAsked taken := by
  have initial : Headed (System.start locations).db.trips
      (lastGoTo · (System.start locations).trace)
      (lastRequested · (System.start locations).trace) := by
    intro taxi customer carried
    cases carried
  have guarded : ∀ taken ∈ (System.machine session).run (System.start locations) events,
      (CentralStep.Succeeds taken ∧ CentralStep.LocationsStay session taken ∧
        CentralStep.ArrivesWhereSent session taken) ∧
        CentralStep.KeepsDestinations session taken :=
    fun taken member => ⟨proper taken member, keeps taken member⟩
  intro taken member
  have headed := Machine.run_invariant
    (fun system => Headed system.db.trips (lastGoTo · system.trace) (lastRequested · system.trace))
    (fun taken stepped guard before =>
      CentralStep.headed stepped guard.1.1 guard.1.2.1 guard.2 before)
    initial guarded taken member
  obtain ⟨succeeds, _, arrives⟩ := proper taken member
  exact CentralStep.completes_where_asked (Machine.run_step member) succeeds arrives headed.1

/-- A customer who was taken to `J` asks for `A` while no taxi is connected, and the taxi
which reconnects is assigned from the queue. -/
def queuedSecondTrip : List System.Event :=
  Town.join 1 ++ [Town.register 65 ⟨1, 1⟩, Town.ask 65 74, Town.arrive 1 ⟨1, 1⟩,
    Town.arrive 1 ⟨7, 7⟩,
    Town.consume { Message.request [] .orderTaxiDisconnect with taxiId := 1 },
    Town.ask 65 65, .addTaxi 0 1 true [],
    Town.consume (AuthServer.announcement Town.session 1 true),
    Town.arrive 1 ⟨7, 7⟩, Town.arrive 1 ⟨7, 7⟩]

/-- The second trip ends at the destination of the first one. -/
theorem queued_trip_ends_elsewhere :
    ¬ ∀ (session : Uuid) (locations : Table LocationRow.id) (events : List System.Event),
      (∀ taken ∈ (System.machine session).run (System.start locations) events,
        CentralStep.Succeeds taken ∧ CentralStep.LocationsStay session taken ∧
          CentralStep.ArrivesWhereSent session taken) →
      ∀ taken ∈ (System.machine session).run (System.start locations) events,
        CentralStep.CompletesWhereAsked taken := by
  intro claimed
  have ended := claimed Town.session Town.locations queuedSecondTrip (by decide +kernel)
  revert ended
  decide +kernel

/-- A customer is taken to `J`. -/
def firstTrip : List System.Event :=
  Town.join 1 ++ [Town.register 65 ⟨1, 1⟩, Town.ask 65 74, Town.arrive 1 ⟨1, 1⟩,
    Town.arrive 1 ⟨7, 7⟩]

/-- The first trip ends at `J`. -/
theorem completed_where_asked_first_trip :
    (∃ taken ∈ Town.run firstTrip, completions (CentralStep.recorded taken) = [65]) ∧
      ∀ taken ∈ Town.run firstTrip, CentralStep.CompletesWhereAsked taken :=
  ⟨by decide +kernel, completed_where_asked Town.session Town.locations firstTrip
    (by decide +kernel) (by decide +kernel)⟩

end EasyCab
