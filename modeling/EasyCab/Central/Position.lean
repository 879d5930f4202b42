import EasyCab.Central.Observers

/-!
# A carried customer is where its taxi is

The customer of a pick-up is read from `service`, which outlives the trip it was
written for. `Placed` is the invariant under which a pick-up happens at the
customer: a taxi on its way to the customer of an open assignment was last sent to
where that customer is. It is kept as long as a taxi which carries nobody arrives
only for an open assignment, no other taxi serves a customer who is driven about,
and nobody registers while an assignment for them is open.
-/

namespace EasyCab

open Library Trace

/-- Carried customers are where their taxis are, and a taxi with an open assignment was last
sent to where its customer is. -/
structure Placed (trips : Trips) (busy : TaxiId → List Id) (last : TaxiId → Option Coordinate) :
    Prop where
  aboard : ∀ taxi customer, trips.carried taxi = some customer →
    trips.taxiAt taxi = trips.customerAt customer
  bound : ∀ taxi customer coord, customer ∈ busy taxi → trips.service taxi = some customer →
    trips.carried taxi ≠ some customer → trips.customerAt customer = some coord →
    last taxi = some coord ∧ trips.dest taxi = some coord

namespace Placed

variable {trips next : Trips} {busy later : TaxiId → List Id}
  {last latest : TaxiId → Option Coordinate}

/-- Closing assignments keeps the invariant, and so does what changes no position, no trip
and no order. -/
theorem congr (placed : Placed trips busy last) (carried : next.carried = trips.carried)
    (service : next.service = trips.service) (dest : next.dest = trips.dest)
    (taxiAt : next.taxiAt = trips.taxiAt) (customerAt : next.customerAt = trips.customerAt)
    (fewer : ∀ taxi, later taxi ⊆ busy taxi) (sent : latest = last) :
    Placed next later latest where
  aboard := by
    rw [carried, taxiAt, customerAt]
    exact placed.aboard
  bound := by
    rw [carried, service, dest, customerAt, sent]
    exact fun taxi customer coord open_ => placed.bound taxi customer coord (fewer taxi open_)

/-- A customer who leaves keeps the invariant, as no taxi carries it. -/
theorem leave (placed : Placed trips busy last) {customer : Id}
    (wellFormed : (trips.leave customer).WellFormed) : Placed (trips.leave customer) busy last := by
  have elsewhere {other : Id} (stored : ((trips.leave customer).customerAt other).isSome) :
      (trips.leave customer).customerAt other = trips.customerAt other := by
    have different : other ≠ customer := by
      rintro rfl
      simp [Trips.leave] at stored
    exact Function.update_of_ne different _ _
  constructor
  · intro taxi other carried
    rw [elsewhere (wellFormed.customerOfCarried carried)]
    exact placed.aboard taxi other carried
  · intro taxi other coord open_ service apart stored
    rw [elsewhere (by rw [stored]; rfl)] at stored
    exact placed.bound taxi other coord open_ service apart stored

/-- A customer who joins keeps the invariant where no open assignment is for it. -/
theorem join (placed : Placed trips busy last) (wellFormed : trips.WellFormed) {customer : Id}
    (free : trips.customerAt customer = none)
    (unserved : ∀ taxi, trips.service taxi = some customer → customer ∉ busy taxi)
    (coord : Coordinate) : Placed (trips.join customer coord) busy last := by
  constructor
  · intro taxi other carried
    have stored := wellFormed.customerOfCarried carried
    have different : other ≠ customer := by
      rintro rfl
      simp [free] at stored
    apply (placed.aboard taxi other carried).trans
    exact (Function.update_of_ne different _ _).symm
  · intro taxi other place open_ service apart stored
    have different : other ≠ customer := by
      rintro rfl
      exact unserved taxi service open_
    apply placed.bound taxi other place open_ service apart
    exact (Function.update_of_ne different _ _).symm.trans stored

/-- A taxi which joins keeps the invariant, as it carries and serves nobody. -/
theorem register (placed : Placed trips busy last) (taxi : TaxiId) :
    Placed (trips.register taxi) busy last := by
  constructor
  · intro other customer carried
    obtain ⟨different, carried⟩ := Trips.update_none_eq_some_iff.mp carried
    apply (Function.update_of_ne different _ _).trans
    exact placed.aboard other customer carried
  · intro other customer coord open_ service apart stored
    obtain ⟨different, service⟩ := Trips.update_none_eq_some_iff.mp service
    simp only [Trips.register, Function.update_of_ne different] at apart ⊢
    exact placed.bound other customer coord open_ service apart stored

/-- A taxi which drives takes its customer along, whom nobody else serves. -/
theorem drive (placed : Placed trips busy last) (wellFormed : trips.WellFormed) {taxi : TaxiId}
    (alone : ∀ customer, trips.carried taxi = some customer → ∀ other, other ≠ taxi →
      trips.carried other ≠ some customer ∧
        (trips.service other = some customer → customer ∉ busy other))
    (coord : Coordinate) : Placed (trips.drive taxi coord) busy last := by
  cases carries : trips.carried taxi with
  | none =>
      have driven : trips.drive taxi coord = trips.moveTaxi taxi coord := by
        simp [Trips.drive, carries]
      rw [driven]
      refine ⟨fun other customer carried => ?_, placed.bound⟩
      have different : other ≠ taxi := by
        rintro rfl
        exact absurd (carries.symm.trans carried) (by simp)
      apply (Function.update_of_ne different _ _).trans
      exact placed.aboard other customer carried
  | some passenger =>
      have driven : trips.drive taxi coord =
          (trips.moveTaxi taxi coord).moveCustomer passenger coord := by
        simp [Trips.drive, carries]
      rw [driven]
      have alone := alone passenger carries
      constructor
      · intro other customer carried
        by_cases same : other = taxi
        · subst same
          obtain rfl : passenger = customer := Option.some.inj (carries.symm.trans carried)
          have here := wellFormed.taxiOfCarried carried
          have there := wellFormed.customerOfCarried carried
          rw [Option.isSome_iff_exists] at here there
          obtain ⟨_, here⟩ := here
          obtain ⟨_, there⟩ := there
          simp [Trips.moveCustomer, Trips.moveTaxi, here, there]
        · have different : customer ≠ passenger := by
            rintro rfl
            exact (alone other same).1 carried
          simp only [Trips.moveCustomer, Trips.moveTaxi, Function.update_of_ne same,
            Function.update_of_ne different]
          exact placed.aboard other customer carried
      · intro other customer place open_ service apart stored
        have different : customer ≠ passenger := by
          rintro rfl
          by_cases same : other = taxi
          · exact apart (same ▸ carries)
          · exact (alone other same).2 service open_
        apply placed.bound other customer place open_ service apart
        exact (Function.update_of_ne different _ _).symm.trans stored

/-- A customer who is put down is in no open assignment afterwards. -/
theorem putDown (placed : Placed trips busy last) {taxi : TaxiId} {customer : Id}
    (carries : trips.carried taxi = some customer) :
    Placed (trips.setOnboard customer taxi false)
      (fun taxi => (busy taxi).filter fun other => other ≠ customer) last := by
  constructor
  · intro other passenger carried
    exact placed.aboard other passenger (Trips.setOnboard_false_carried_iff.mp carried).2
  · intro other passenger coord open_ service apart stored
    rw [List.mem_filter, decide_eq_true_eq] at open_
    refine placed.bound other passenger coord open_.1 service ?_ stored
    by_cases same : other = taxi
    · rw [same, carries]
      exact fun equal => open_.2 (Option.some.inj equal).symm
    · exact fun carried => apart (Trips.setOnboard_false_carried_iff.mpr ⟨same, carried⟩)

/-- A taxi which carries nobody takes the customer aboard to whom it was last sent. -/
theorem takeAboard (placed : Placed trips busy last) {taxi : TaxiId} {customer : Id}
    {coord : Coordinate} (stored : (trips.taxiAt taxi).isSome)
    (known : (trips.customerAt customer).isSome) (empty : trips.carried taxi = none)
    (service : trips.service taxi = some customer) (open_ : customer ∈ busy taxi)
    (arrived : last taxi = some coord) :
    Placed ((trips.drive taxi coord).setOnboard customer taxi true) busy last := by
  obtain ⟨place, known⟩ := Option.isSome_iff_exists.mp known
  have here := placed.bound taxi customer place open_ service (by simp [empty]) known
  obtain rfl : coord = place := Option.some.inj (arrived.symm.trans here.1)
  have driven : trips.drive taxi coord = trips.moveTaxi taxi coord := by simp [Trips.drive, empty]
  obtain ⟨_, stored⟩ := Option.isSome_iff_exists.mp stored
  have boarded := (trips.moveTaxi taxi coord).setOnboard_true_carried taxi customer
    (by simp [Trips.moveTaxi, stored])
  rw [driven]
  constructor
  · intro other passenger carried
    rw [boarded] at carried
    by_cases same : other = taxi
    · subst same
      rw [Function.update_self] at carried
      cases carried
      simp [Trips.setOnboard, Trips.carry, Trips.setOnboardFlag, Trips.moveTaxi, stored, known]
    · rw [Function.update_of_ne same] at carried
      apply (Function.update_of_ne same _ _).trans
      exact placed.aboard other passenger carried
  · intro other passenger place openToo serves apart at_
    rw [boarded] at apart
    have different : other ≠ taxi := by
      rintro rfl
      rw [Function.update_self] at apart
      exact apart (service.symm.trans serves)
    rw [Function.update_of_ne different] at apart
    exact placed.bound other passenger place openToo serves apart at_

/-- A taxi may be sent anywhere which is on its way to nobody. -/
theorem send (placed : Placed trips busy last) {taxi : TaxiId}
    (settled : ∀ customer ∈ busy taxi, trips.service taxi = some customer →
      trips.carried taxi = some customer) (coord : Coordinate) :
    Placed trips busy (fun other => if taxi = other then some coord else last other) := by
  refine ⟨placed.aboard, ?_⟩
  intro other customer place open_ service apart stored
  have different : taxi ≠ other := by
    rintro rfl
    exact apart (settled customer open_ service)
  rw [if_neg different]
  exact placed.bound other customer place open_ service apart stored

/-- Assigning a taxi and sending it to where its customer is keeps the invariant. -/
theorem assign (placed : Placed trips busy last) {taxi : TaxiId} {customer : Id}
    {coord : Coordinate} (dest : (trips.assign taxi customer).dest taxi = some coord) :
    Placed (trips.assign taxi customer)
      (fun other => if taxi = other then customer :: busy other else busy other)
      (fun other => if taxi = other then some coord else last other) := by
  constructor
  · rw [Trips.assign_carried, Trips.assign_taxiAt, Trips.assign_customerAt]
    exact placed.aboard
  · intro other passenger place open_ service apart at_
    rw [Trips.assign_carried] at apart
    rw [Trips.assign_customerAt] at at_
    by_cases same : taxi = other
    · subst same
      rw [if_pos rfl] at open_ ⊢
      suffices same : coord = place from ⟨by rw [same], by rw [dest, same]⟩
      cases known : trips.customerAt customer with
      | none =>
          -- The statement joined no customer and changed nothing.
          have unchanged : trips.assign taxi customer = trips := by simp [Trips.assign, known]
          rw [unchanged] at service dest
          have different : passenger ≠ customer := by
            rintro rfl
            simp [known] at at_
          have older := (List.mem_cons.mp open_).resolve_left different
          have here := placed.bound taxi passenger place older service apart at_
          exact Option.some.inj (dest.symm.trans here.2)
      | some target =>
          simp only [Trips.assign, known, Function.update_self, Option.map_eq_some_iff]
            at service dest
          obtain ⟨_, _, rfl⟩ := service
          obtain ⟨_, _, rfl⟩ := dest
          exact Option.some.inj (known.symm.trans at_)
    · rw [if_neg same] at open_ ⊢
      rw [trips.assign_service_of_ne taxi customer (Ne.symm same)] at service
      rw [trips.assign_dest_of_ne taxi customer (Ne.symm same)]
      exact placed.bound other passenger place open_ service apart at_

/-- Redirecting a taxi without open assignments keeps the invariant. -/
theorem redirect (placed : Placed trips busy last) {taxi : TaxiId} {coord : Coordinate}
    (freed : busy taxi = []) :
    Placed ((trips.redirect taxi coord).landNamesake taxi) busy last := by
  constructor
  · intro other customer carried
    rw [Trips.landNamesake_taxiAt, Trips.landNamesake_customerAt]
    exact placed.aboard other customer (Trips.redirect_carried_iff.mp carried).2
  · intro other customer place open_ service apart at_
    have different : other ≠ taxi := by
      rintro rfl
      simp [freed] at open_
    have ashore : trips.carried other ≠ some customer := fun carried =>
      apart (Trips.redirect_carried_iff.mpr ⟨different, carried⟩)
    rw [Trips.landNamesake_service] at service
    rw [Trips.landNamesake_customerAt] at at_
    rw [Trips.landNamesake_dest]
    apply (placed.bound other customer place open_ service ashore at_).imp_right
    exact (Function.update_of_ne different _ _).trans

section Trace

/-! ### What the acts of a request do to the invariant -/

variable {taxi : TaxiId} {customer : Id} {coord : Coordinate} {message : Message}
  {acts trace : List Act}

/-- Entering a request keeps the invariant. -/
theorem enter (placed : Placed trips (busyWith · trace) (lastGoTo · trace)) :
    Placed trips (busyWith · (.handled message :: trace))
      (lastGoTo · (.handled message :: trace)) :=
  placed.congr rfl rfl rfl rfl rfl (fun _ => busyWith_handled_subset) rfl

/-- Quiet acts keep the invariant. -/
theorem hush (placed : Placed trips (busyWith · trace) (lastGoTo · trace))
    (quiet : ∀ act ∈ acts, act.Quiet) :
    Placed trips (busyWith · (acts.reverse ++ trace)) (lastGoTo · (acts.reverse ++ trace)) := by
  have reversed : ∀ act ∈ acts.reverse, act.Quiet :=
    fun act member => quiet act (List.mem_reverse.mp member)
  simpa only [busyWith_quiet reversed, lastGoTo_quiet reversed] using placed

/-- The end of a service keeps the invariant. -/
theorem ended (placed : Placed trips (busyWith · trace) (lastGoTo · trace))
    (ends : message.endsService) :
    Placed trips (busyWith · (.produce message :: trace))
      (lastGoTo · (.produce message :: trace)) := by
  simp only [busyWith_ended ends, lastGoTo_ended ends]
  exact placed.congr rfl rfl rfl rfl rfl (fun _ => List.filter_subset_self _) rfl

/-- The end of a service whose customer is put down keeps the invariant. -/
theorem completed (placed : Placed trips (busyWith · trace) (lastGoTo · trace))
    (carries : trips.carried taxi = some customer) (ends : message.endsService)
    (named : message.id = customer) :
    Placed (trips.setOnboard customer taxi false) (busyWith · (.produce message :: trace))
      (lastGoTo · (.produce message :: trace)) := by
  simp only [busyWith_ended ends, lastGoTo_ended ends, named]
  exact placed.putDown carries

/-- Sending a taxi somewhere keeps the invariant, if it carries whom it serves. -/
theorem goTo (placed : Placed trips (busyWith · trace) (lastGoTo · trace))
    (sent : message.subject = .response .taxiGoTo)
    (settled : ∀ customer ∈ busyWith message.taxiId trace,
      trips.service message.taxiId = some customer →
        trips.carried message.taxiId = some customer) :
    Placed trips (busyWith · (.produce message :: trace))
      (lastGoTo · (.produce message :: trace)) := by
  simp only [busyWith_goTo sent, lastGoTo_goTo sent]
  exact placed.send settled message.coord

/-- An assignment keeps the invariant. -/
theorem dispatch (placed : Placed trips (busyWith · trace) (lastGoTo · trace))
    (dispatch : Dispatch taxi customer coord acts)
    (dest : (trips.assign taxi customer).dest taxi = some coord) :
    Placed (trips.assign taxi customer) (busyWith · (acts.reverse ++ trace))
      (lastGoTo · (acts.reverse ++ trace)) := by
  simp only [busyWith_dispatch dispatch, lastGoTo_dispatch dispatch]
  exact placed.assign dest

end Trace

end Placed

/-! ### The condition on a request -/

namespace Tables

/-- No other taxi carries the customer or is on its way to it. -/
def ServesAlone (tables : Tables) (trace : List Act) (taxi : TaxiId) (customer : Id) : Prop :=
  ∀ row ∈ tables.taxis.rows, row.id ≠ taxi →
    row.customerId ≠ some customer ∧
      (row.service = some customer → customer ∉ busyWith row.id trace)

instance (tables : Tables) (trace : List Act) (taxi : TaxiId) (customer : Id) :
    Decidable (tables.ServesAlone trace taxi customer) := by
  unfold ServesAlone
  infer_instance

/-- A taxi moves only with a customer whom no other taxi serves; one which carries nobody
arrives only while the assignment in its `service` is open; and nobody registers while a
taxi is still on its way to them. -/
def KeepsPlaces (tables : Tables) (trace : List Act) (message : Message) : SubjRequest → Prop
  | .taxiMove =>
      ∀ customer ∈ tables.customerIdOf message.taxiId,
        tables.ServesAlone trace message.taxiId customer
  | .taxiDestinationReached =>
      (∀ customer ∈ tables.customerIdOf message.taxiId,
          tables.ServesAlone trace message.taxiId customer) ∧
        (tables.customerIdOf message.taxiId = none →
          ∀ customer ∈ tables.serviceOf message.taxiId,
            customer ∈ busyWith message.taxiId trace)
  | .newCustomer =>
      tables.customerCoord message.id = none → ∀ row ∈ tables.taxis.rows,
        row.service = some message.id → message.id ∉ busyWith row.id trace
  | _ => True

instance (tables : Tables) (trace : List Act) (message : Message) (subject : SubjRequest) :
    Decidable (tables.KeepsPlaces trace message subject) := by
  unfold KeepsPlaces
  split <;> infer_instance

/-- A taxi serves a customer alone only if no other taxi carries it or serves it by an open
assignment. -/
theorem ServesAlone.of_carried {tables : Tables} {trace : List Act} {taxi : TaxiId} {customer : Id}
    (alone : tables.ServesAlone trace taxi customer) {other : TaxiId} (different : other ≠ taxi) :
    tables.trips.carried other ≠ some customer ∧
      (tables.trips.service other = some customer → customer ∉ busyWith other trace) := by
  constructor
  · intro carried
    obtain ⟨row, found, aboard⟩ := Option.bind_eq_some_iff.mp carried
    obtain rfl := Table.key_of_lookup found
    exact (alone row (Table.mem_of_lookup found) different).1 aboard
  · intro service
    obtain ⟨row, found, serves⟩ := Option.bind_eq_some_iff.mp service
    obtain rfl := Table.key_of_lookup found
    exact (alone row (Table.mem_of_lookup found) different).2 serves

end Tables

/-- Whoever a taxi took aboard has a row, by the foreign key. -/
theorem Trips.WellFormed.customer_of_boarded {trips : Trips} {taxi : TaxiId} {customer : Id}
    {coord : Coordinate}
    (keys : ((trips.drive taxi coord).setOnboard customer taxi true).WellFormed)
    (stored : (trips.taxiAt taxi).isSome) : (trips.customerAt customer).isSome := by
  have boarded := (trips.drive taxi coord).setOnboard_true_carried taxi customer
    (by rwa [Trips.drive_taxiAt_isSome])
  have aboard : ((trips.drive taxi coord).setOnboard customer taxi true).carried taxi =
      some customer := by rw [boarded, Function.update_self]
  rw [← Trips.drive_customerAt_isSome trips taxi coord]
  exact keys.customerOfCarried aboard

/-- A handled request which meets the condition keeps the invariant. -/
theorem TripStep.placed {tables : Tables} {after : Trips} {message : Message}
    {subject : SubjRequest} {acts trace : List Act}
    (step : TripStep tables.trips message subject after acts)
    (before : tables.trips.WellFormed) (wellFormed : after.WellFormed)
    (placed : Placed tables.trips (busyWith · trace) (lastGoTo · trace))
    (keeps : tables.KeepsPlaces trace message subject)
    (arrives : subject = .taxiDestinationReached →
      lastGoTo message.taxiId trace = some message.coord) :
    Placed after (busyWith · (acts.reverse ++ .handled message :: trace))
      (lastGoTo · (acts.reverse ++ .handled message :: trace)) := by
  have driven (alone : ∀ customer ∈ tables.customerIdOf message.taxiId,
      tables.ServesAlone trace message.taxiId customer) :=
    placed.drive before (fun customer carries _ different =>
      (alone customer carries).of_carried different) message.coord
  cases step with
  | quiet calm same quiet =>
      subst same
      exact placed.enter.hush quiet
  | relocated kind trips recorded =>
      subst kind trips recorded
      exact placed.enter.congr rfl rfl rfl rfl rfl (fun _ => List.Subset.refl _) rfl
  | left kind trips answer told named recorded =>
      subst trips recorded
      exact (placed.leave wellFormed).enter.ended (Message.endsService_iff.mpr (.inr (.inr told)))
  | joined kind trips free quiet =>
      subst kind trips
      have unserved (taxi : TaxiId) (service : tables.trips.service taxi = some message.id) :
          message.id ∉ busyWith taxi trace := by
        obtain ⟨row, found, serves⟩ := Option.bind_eq_some_iff.mp service
        obtain rfl := Table.key_of_lookup found
        exact keeps free row (Table.mem_of_lookup found) serves
      exact (placed.join before free unserved message.coord).enter.hush quiet
  | drove kind trips recorded =>
      subst kind trips recorded
      exact (driven keeps).enter
  | droppedOff customer kind carried trips answer told named recorded =>
      subst kind trips recorded
      have aboard : (tables.trips.drive message.taxiId message.coord).carried message.taxiId =
          some customer := by rwa [Trips.drive_carried]
      exact (driven keeps.1).enter.completed aboard (Message.endsService_iff.mpr (.inl told)) named
  | droppedOffAndSent customer next middle coord later kind carried left trips answer told named
      dest dispatch recorded =>
      subst kind trips left recorded
      have aboard : (tables.trips.drive message.taxiId message.coord).carried message.taxiId =
          some customer := by rwa [Trips.drive_carried]
      rw [List.reverse_cons, List.append_assoc]
      refine Placed.dispatch ?_ dispatch dest
      exact (driven keeps.1).enter.completed aboard (Message.endsService_iff.mpr (.inl told)) named
  | boardedDenied customer kind empty service nowhere trips answer told named recorded =>
      subst kind trips recorded
      have stored := before.taxiOfService service
      have boarded := placed.takeAboard stored (wellFormed.customer_of_boarded stored) empty service
        (keeps.2 empty customer service) (arrives rfl)
      exact boarded.enter.ended (Message.endsService_iff.mpr (.inr (.inl told)))
  | boarded customer coord kind empty service destination trips pickedUp goTo quiet sent taxi heading
      recorded =>
      subst kind trips recorded
      have stored := before.taxiOfService service
      have boarded := placed.takeAboard stored (wellFormed.customer_of_boarded stored) empty service
        (keeps.2 empty customer service) (arrives rfl)
      -- The taxi carries whom it serves from now on.
      refine (boarded.enter.hush quiet.produced).goTo sent fun other _ serves => ?_
      rw [taxi] at serves ⊢
      rw [Trips.setOnboard_true_carried _ _ _ (by rwa [Trips.drive_taxiAt_isSome]),
        Function.update_self, ← service, ← serves]
      exact (congrFun (Trips.drive_service ..) _).symm
  | requested taxi coord earlier answer kind trips dest dispatch quiet recorded =>
      subst kind trips recorded
      have named : Placed (tables.trips.setDestination message.id message.charFromData)
          (busyWith · (.handled message :: trace)) (lastGoTo · (.handled message :: trace)) :=
        placed.enter.congr rfl rfl rfl rfl rfl (fun _ => List.Subset.refl _) rfl
      rw [List.reverse_append, List.append_assoc]
      exact (named.dispatch dispatch dest).hush quiet.produced
  | summoned customer coord kind trips dest dispatch =>
      subst trips
      exact placed.enter.dispatch dispatch dest
  | redirected coord frees kind trips goTo sent taxi heading recorded =>
      subst trips recorded
      have freed : busyWith message.taxiId (.handled message :: trace) = [] := by
        rw [busyWith_handled, if_pos ⟨frees, rfl⟩]
      refine (placed.enter.redirect freed).goTo sent fun customer open_ => ?_
      simp [taxi, freed] at open_

/-! ### Whole runs -/

/-- Every carried customer is stored where its taxi is. -/
def Tables.CarriedTogether (tables : Tables) : Prop :=
  ∀ row ∈ tables.taxis.rows, ∀ customer ∈ row.customerId,
    tables.customerCoord customer = some row.coord

instance : DecidablePred Tables.CarriedTogether := fun tables => by
  unfold Tables.CarriedTogether
  infer_instance

/-- The invariant implies that carried customers are where their taxis are. -/
theorem Placed.carriedTogether {tables : Tables} {busy : TaxiId → List Id}
    {last : TaxiId → Option Coordinate} (placed : Placed tables.trips busy last) :
    tables.CarriedTogether := by
  intro row member customer aboard
  have carried : tables.trips.carried row.id = some customer :=
    (Tables.customerIdOf_of_mem member).trans aboard
  apply (placed.aboard row.id customer carried).symm.trans
  simp [Tables.trips, Tables.taxiCoord, Table.lookup_of_mem member]

namespace CentralStep

/-- The request of the step, if any, meets the condition of `Tables.KeepsPlaces`. -/
def KeepsPlaces (session : Uuid) (taken : CentralStep) : Prop :=
  ∀ asked ∈ taken.request? session,
    taken.before.db.KeepsPlaces taken.before.trace asked.1 asked.2

instance (session : Uuid) (taken : CentralStep) : Decidable (taken.KeepsPlaces session) := by
  unfold KeepsPlaces
  infer_instance

variable {session : Uuid} {taken : CentralStep}

/-- A step whose request meets the condition keeps the invariant. -/
theorem placed (stepped : (System.machine session).step taken.before taken.event = some taken.after)
    (succeeds : taken.Succeeds) (arrives : taken.ArrivesWhereSent session)
    (keeps : taken.KeepsPlaces session)
    (before : Placed taken.before.db.trips (busyWith · taken.before.trace)
      (lastGoTo · taken.before.trace)) :
    Placed taken.after.db.trips (busyWith · taken.after.trace) (lastGoTo · taken.after.trace) := by
  cases travels_of_step stepped succeeds with
  | still added unasked trips trace quiet =>
      rw [trips, trace]
      simp only [busyWith_quiet quiet, lastGoTo_quiet quiet]
      exact before
  | registered taxiId added unasked trips free trace quiet =>
      rw [trips, trace]
      simp only [busyWith_quiet quiet, lastGoTo_quiet quiet]
      exact before.register taxiId
  | treated message subject acts maps asked step due trace =>
      rw [trace]
      simp only [busyWith_publishMap, lastGoTo_publishMap]
      exact step.placed taken.before.db.trips_wellFormed taken.after.db.trips_wellFormed before
        (keeps _ asked) (arrives _ asked)

end CentralStep

/-- In a run of Central in which every query succeeds and taxis arrive only where they were
last sent, carried customers stay where their taxis are as long as no taxi moves with a
customer whom another taxi serves, a taxi which carries nobody arrives only while the
assignment in its `service` is open, and nobody registers while a taxi is still on its
way to them. -/
theorem carried_together_of_open (session : Uuid) (locations : Table LocationRow.id)
    (events : List System.Event)
    (proper : ∀ taken ∈ (System.machine session).run (System.start locations) events,
      CentralStep.Succeeds taken ∧ CentralStep.ArrivesWhereSent session taken)
    (keeps : ∀ taken ∈ (System.machine session).run (System.start locations) events,
      CentralStep.KeepsPlaces session taken) :
    ∀ taken ∈ (System.machine session).run (System.start locations) events,
      taken.after.db.CarriedTogether := by
  have initial : Placed (System.start locations).db.trips (busyWith · (System.start locations).trace)
      (lastGoTo · (System.start locations).trace) := by
    constructor
    · intro taxi customer carried
      cases carried
    · intro taxi customer coord open_
      cases open_
  have guarded : ∀ taken ∈ (System.machine session).run (System.start locations) events,
      (CentralStep.Succeeds taken ∧ CentralStep.ArrivesWhereSent session taken) ∧
        CentralStep.KeepsPlaces session taken :=
    fun taken member => ⟨proper taken member, keeps taken member⟩
  intro taken member
  have placed := Machine.run_invariant
    (fun system => Placed system.db.trips (busyWith · system.trace) (lastGoTo · system.trace))
    (fun taken stepped guard before =>
      CentralStep.placed stepped guard.1.1 guard.1.2 guard.2 before)
    initial guarded taken member
  exact placed.2.carriedTogether

/-- A taxi takes its customer to `J`. -/
def completedTrip : List System.Event :=
  Town.join 1 ++ [Town.register 65 ⟨1, 1⟩, Town.ask 65 74, Town.arrive 1 ⟨1, 1⟩,
    Town.arrive 1 ⟨7, 7⟩]

/-- After the trip to `J` the operator sends the empty taxi to (9, 9), where it arrives. -/
def diversionAfterTrip : List System.Event :=
  completedTrip ++ [Town.consume { Message.request [] .orderTaxiGoTo with
    taxiId := 1, coord := ⟨9, 9⟩ }, Town.arrive 1 ⟨9, 9⟩]

/-- The diverted taxi takes the customer of its former trip aboard, who is at `J`. -/
theorem pick_up_away_from_customer :
    ¬ ∀ (session : Uuid) (locations : Table LocationRow.id) (events : List System.Event),
      (∀ taken ∈ (System.machine session).run (System.start locations) events,
        CentralStep.Succeeds taken ∧ CentralStep.ArrivesWhereSent session taken) →
      ∀ taken ∈ (System.machine session).run (System.start locations) events,
        taken.after.db.CarriedTogether := by
  intro claimed
  have together := claimed Town.session Town.locations diversionAfterTrip (by decide +kernel)
  revert together
  decide +kernel

/-- On the trip to `J` without a diversion carried customers stay where their taxi is. -/
theorem carried_together_completedTrip :
    (Town.run completedTrip).length = completedTrip.length ∧
      ∀ taken ∈ Town.run completedTrip, taken.after.db.CarriedTogether :=
  ⟨by decide +kernel, carried_together_of_open Town.session Town.locations completedTrip
    (by decide +kernel) (by decide +kernel)⟩

end EasyCab
