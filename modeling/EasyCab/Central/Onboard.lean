import EasyCab.Central.Observers

/-!
# The onboard flag and the carrying taxi

That a customer is aboard is stored twice: as a flag of the customer and as the
`customer_id` of a taxi. `Trips.Flagged` is the invariant which keeps both in step:
a flagged customer is carried by exactly one taxi and any other by none. Two
handlers can break it. A redirection clears the flag of the customer whose
identifier spells the taxi, not of the one it puts down; and a taxi takes whoever
its `service` names aboard, also when another taxi carries them.
-/

namespace EasyCab

open Library

/-! ### Agreement in the tables -/

/-- The taxis which carry a customer. -/
def Tables.carriers (tables : Tables) (customer : Id) : List TaxiRow :=
  tables.taxis.rows.filter fun row => row.customerId = some customer

/-- A customer is flagged exactly when exactly one taxi carries it. -/
def Tables.OnboardAgrees (tables : Tables) : Prop :=
  ∀ row ∈ tables.customers.rows, row.onboard = true ↔ (tables.carriers row.id).length = 1

instance : DecidablePred Tables.OnboardAgrees := fun tables => by
  unfold Tables.OnboardAgrees
  infer_instance

namespace Trips

/-- A customer is flagged exactly when exactly one taxi carries it. -/
def Agrees (trips : Trips) : Prop :=
  ∀ customer flag, trips.onboard customer = some flag →
    (flag = true ↔ ∃! taxi, trips.carried taxi = some customer)

/-- A flagged customer is carried by exactly one taxi and any other by none. -/
def Flagged (trips : Trips) : Prop :=
  ∀ customer flag, trips.onboard customer = some flag →
    if flag then ∃! taxi, trips.carried taxi = some customer
    else ∀ taxi, trips.carried taxi ≠ some customer

/-- The invariant implies the agreement. -/
theorem Flagged.agrees {trips : Trips} (flagged : trips.Flagged) : trips.Agrees := by
  intro customer flag stored
  have holds := flagged _ _ stored
  cases flag with
  | true => simpa using holds
  | false =>
      simp only [Bool.false_eq_true, if_false] at holds
      simp only [Bool.false_eq_true, false_iff]
      rintro ⟨taxi, carried, _⟩
      exact holds taxi carried

/-- A carried customer is flagged, and nobody else carries it. -/
theorem Flagged.of_carried {trips : Trips} (flagged : trips.Flagged)
    (wellFormed : trips.WellFormed) {taxi : TaxiId} {customer : Id}
    (carried : trips.carried taxi = some customer) :
    trips.onboard customer = some true ∧
      ∀ other, trips.carried other = some customer → other = taxi := by
  have stored := wellFormed.flagOfCustomer (wellFormed.customerOfCarried carried)
  obtain ⟨flag, stored⟩ := Option.isSome_iff_exists.mp stored
  have holds := flagged _ _ stored
  cases flag with
  | false => exact absurd carried (by simpa using holds taxi)
  | true =>
      simp only [if_true] at holds
      exact ⟨stored, fun other carriedToo => holds.unique carriedToo carried⟩

/-- Operations which change neither flags nor whom taxis carry keep the invariant. -/
theorem Flagged.congr {trips next : Trips} (flagged : trips.Flagged)
    (carried : next.carried = trips.carried) (onboard : next.onboard = trips.onboard) :
    next.Flagged := by
  intro customer flag stored
  rw [onboard] at stored
  rw [carried]
  exact flagged _ _ stored

/-- A customer who leaves keeps the invariant. -/
theorem Flagged.leave {trips : Trips} (flagged : trips.Flagged) (customer : Id) :
    (trips.leave customer).Flagged := by
  intro other flag stored
  by_cases same : other = customer
  · subst same
    simp [Trips.leave] at stored
  · simp only [Trips.leave, Function.update_of_ne same] at stored
    exact flagged _ _ stored

/-- A customer who joins keeps the invariant, as nobody carries it. -/
theorem Flagged.join {trips : Trips} (flagged : trips.Flagged) (wellFormed : trips.WellFormed)
    {customer : Id} (free : trips.customerAt customer = none) (coord : Coordinate) :
    (trips.join customer coord).Flagged := by
  intro other flag stored
  by_cases same : other = customer
  · subst same
    simp only [Trips.join, Function.update_self, Option.some.injEq] at stored
    subst stored
    simp only [Bool.false_eq_true, if_false]
    intro taxi carried
    have known := wellFormed.customerOfCarried carried
    simp [free] at known
  · simp only [Trips.join, Function.update_of_ne same] at stored
    exact flagged _ _ stored

/-- A taxi which joins keeps the invariant, as it carries nobody. -/
theorem Flagged.register {trips : Trips} (flagged : trips.Flagged) (wellFormed : trips.WellFormed)
    {taxi : TaxiId} (free : trips.taxiAt taxi = none) : (trips.register taxi).Flagged := by
  have empty : trips.carried taxi = none := by
    by_contra carries
    obtain ⟨customer, carried⟩ := Option.ne_none_iff_exists'.mp carries
    have known := wellFormed.taxiOfCarried carried
    simp [free] at known
  refine flagged.congr ?_ rfl
  exact Function.update_eq_iff.mpr ⟨empty.symm, fun _ _ => rfl⟩

/-- A customer whom the same taxis carry as before is flagged as before. -/
theorem Flagged.kept {trips next : Trips} (flagged : trips.Flagged) {customer : Id} {flag : Bool}
    (stored : trips.onboard customer = some flag)
    (elsewhere : ∀ taxi, next.carried taxi = some customer ↔ trips.carried taxi = some customer) :
    if flag then ∃! taxi, next.carried taxi = some customer
    else ∀ taxi, next.carried taxi ≠ some customer := by
  have holds := flagged _ _ stored
  cases flag <;> simpa [elsewhere] using holds

/-- Putting the carried customer down keeps the invariant. -/
theorem Flagged.putDown {trips : Trips} (flagged : trips.Flagged) (wellFormed : trips.WellFormed)
    {taxi : TaxiId} {customer : Id} (carried : trips.carried taxi = some customer) :
    (trips.setOnboard customer taxi false).Flagged := by
  obtain ⟨aboard, only⟩ := flagged.of_carried wellFormed carried
  intro other flag stored
  by_cases same : other = customer
  · subst same
    simp only [setOnboard, carry, setOnboardFlag, Function.update_self, aboard, Option.map_some,
      Option.some.injEq] at stored
    subst stored
    simp only [Bool.false_eq_true, if_false]
    intro carrier carriedToo
    obtain ⟨different, before⟩ := setOnboard_false_carried_iff.mp carriedToo
    exact different (only carrier before)
  · simp only [setOnboard, carry, setOnboardFlag, Function.update_of_ne same] at stored
    refine flagged.kept stored fun carrier => ?_
    rw [setOnboard_false_carried_iff]
    refine and_iff_right_of_imp fun before => ?_
    rintro rfl
    exact same (Option.some.inj (before.symm.trans carried))

/-- Taking somebody aboard whom no taxi carries keeps the invariant. -/
theorem Flagged.takeAboard {trips : Trips} (flagged : trips.Flagged) {taxi : TaxiId} {customer : Id}
    (stored : (trips.taxiAt taxi).isSome) (empty : trips.carried taxi = none)
    (ashore : ∀ other, trips.carried other ≠ some customer) :
    (trips.setOnboard customer taxi true).Flagged := by
  have aboard := trips.setOnboard_true_carried taxi customer stored
  intro other flag found
  rw [aboard]
  by_cases same : other = customer
  · subst same
    have raised : flag = true := by
      simp only [setOnboard, carry, setOnboardFlag, Function.update_self,
        Option.map_eq_some_iff] at found
      obtain ⟨_, _, rfl⟩ := found
      rfl
    subst raised
    refine ⟨taxi, Function.update_self _ _ _, ?_⟩
    intro carrier carried
    by_contra different
    rw [Function.update_of_ne different] at carried
    exact ashore carrier carried
  · simp only [setOnboard, carry, setOnboardFlag, Function.update_of_ne same] at found
    rw [← aboard]
    refine flagged.kept found fun carrier => ?_
    rw [aboard]
    by_cases self : carrier = taxi
    · simp [self, empty, Ne.symm same]
    · rw [Function.update_of_ne self]

/-- Taking somebody aboard whom another taxi carries breaks the agreement. -/
theorem not_carried_of_agrees {trips : Trips} {taxi : TaxiId} {customer : Id}
    (stored : (trips.taxiAt taxi).isSome) (empty : trips.carried taxi = none)
    (known : (trips.onboard customer).isSome)
    (agrees : (trips.setOnboard customer taxi true).Agrees) (other : TaxiId) :
    trips.carried other ≠ some customer := by
  intro carried
  obtain ⟨flag, known⟩ := Option.isSome_iff_exists.mp known
  have raised : (trips.setOnboard customer taxi true).onboard customer = some true := by
    simp [setOnboard, carry, setOnboardFlag, known]
  obtain ⟨carrier, _, only⟩ := (agrees _ _ raised).mp rfl
  simp only [trips.setOnboard_true_carried taxi customer stored] at only
  have different : other ≠ taxi := by
    rintro rfl
    simp [empty] at carried
  have first := only taxi (Function.update_self _ _ _)
  have second := only other (by rw [Function.update_of_ne different, carried])
  exact different (second.trans first.symm)

/-- The customer whose identifier spells the taxi is the one it carries, if it carries
anybody or that customer is aboard. -/
def CarriesNamesake (trips : Trips) (taxi : TaxiId) : Prop :=
  (∀ customer, trips.carried taxi = some customer → Tables.charOfTaxiId? taxi = some customer) ∧
    ∀ customer, Tables.charOfTaxiId? taxi = some customer → trips.onboard customer = some true →
      trips.carried taxi = some customer

/-- Redirecting a taxi which carries its namesake, or nobody, keeps the invariant. -/
theorem Flagged.redirect {trips : Trips} (flagged : trips.Flagged) (wellFormed : trips.WellFormed)
    {taxi : TaxiId} (namesake : trips.CarriesNamesake taxi) (coord : Coordinate) :
    ((trips.redirect taxi coord).landNamesake taxi).Flagged := by
  intro customer flag stored
  by_cases spelled : Tables.charOfTaxiId? taxi = some customer
  · -- Whom the redirected taxi carried is its namesake, whose flag is cleared.
    obtain rfl : flag = false := by
      rw [landNamesake_onboard spelled] at stored
      obtain ⟨_, _, cleared⟩ := Option.map_eq_some_iff.mp stored
      exact cleared.symm
    simp only [Bool.false_eq_true, if_false]
    intro other carried
    obtain ⟨different, before⟩ := redirect_carried_iff.mp carried
    obtain ⟨aboard, only⟩ := flagged.of_carried wellFormed before
    exact different (only taxi (namesake.2 customer spelled aboard)).symm
  · rw [landNamesake_onboard_of_ne spelled] at stored
    refine flagged.kept stored fun carrier => ?_
    rw [redirect_carried_iff]
    refine and_iff_right_of_imp fun before => ?_
    rintro rfl
    exact spelled (namesake.1 customer before)

/-- After a redirection the flags agree only if the taxi carried nobody but its namesake. -/
theorem spelled_of_agrees {trips : Trips} (flagged : trips.Flagged) (wellFormed : trips.WellFormed)
    {taxi : TaxiId} {customer : Id} {coord : Coordinate}
    (agrees : ((trips.redirect taxi coord).landNamesake taxi).Agrees)
    (carried : trips.carried taxi = some customer) :
    Tables.charOfTaxiId? taxi = some customer := by
  by_contra misspelled
  obtain ⟨aboard, only⟩ := flagged.of_carried wellFormed carried
  have kept : ((trips.redirect taxi coord).landNamesake taxi).onboard customer = some true :=
    (landNamesake_onboard_of_ne misspelled).trans aboard
  obtain ⟨carrier, carrying, _⟩ := (agrees _ _ kept).mp rfl
  obtain ⟨different, before⟩ := redirect_carried_iff.mp carrying
  exact different (only carrier before)

/-- After a redirection the flags agree only if nobody else carried the namesake. -/
theorem carried_of_agrees {trips : Trips} (flagged : trips.Flagged) {taxi : TaxiId} {customer : Id}
    {coord : Coordinate} (agrees : ((trips.redirect taxi coord).landNamesake taxi).Agrees)
    (spelled : Tables.charOfTaxiId? taxi = some customer)
    (aboard : trips.onboard customer = some true) : trips.carried taxi = some customer := by
  by_contra elsewhere
  have cleared :
      ((trips.redirect taxi coord).landNamesake taxi).onboard customer = some false := by
    have same : (trips.redirect taxi coord).onboard customer = some true := aboard
    rw [landNamesake_onboard spelled, same, Option.map_some]
  have holds := flagged _ _ aboard
  simp only [if_true] at holds
  obtain ⟨carrier, carrying, only⟩ := holds
  have different : carrier ≠ taxi := by
    rintro rfl
    exact elsewhere carrying
  have raised : false = true := by
    refine (agrees _ _ cleared).mpr ⟨carrier, redirect_carried_iff.mpr ⟨different, carrying⟩, ?_⟩
    intro other carriedToo
    exact only other (redirect_carried_iff.mp carriedToo).2
  cases raised

/-- Redirecting a taxi keeps the agreement only when the taxi carries its namesake, or
carries nobody while its namesake is not aboard. -/
theorem carriesNamesake_of_agrees {trips : Trips} (flagged : trips.Flagged)
    (wellFormed : trips.WellFormed) {taxi : TaxiId} {coord : Coordinate}
    (agrees : ((trips.redirect taxi coord).landNamesake taxi).Agrees) :
    trips.CarriesNamesake taxi :=
  ⟨fun _ carried => spelled_of_agrees flagged wellFormed agrees carried,
    fun _ spelled aboard => carried_of_agrees flagged agrees spelled aboard⟩

end Trips

/-! ### The condition on a request -/

namespace Tables

/-- A taxi which carries nobody does not arrive for a customer whom some taxi carries, and a
taxi is redirected only if it carries its namesake, or carries nobody while its namesake
is not aboard. -/
def KeepsFlags (tables : Tables) (message : Message) : SubjRequest → Prop
  | .taxiDestinationReached =>
      tables.customerIdOf message.taxiId = none →
        ∀ customer ∈ tables.serviceOf message.taxiId, ∀ row ∈ tables.taxis.rows,
          row.customerId ≠ some customer
  | .orderTaxiGoTo | .orderTaxiReturnToBase =>
      (∀ customer ∈ tables.customerIdOf message.taxiId,
          charOfTaxiId? message.taxiId = some customer) ∧
        ∀ customer ∈ charOfTaxiId? message.taxiId, tables.onboardOf customer = some true →
          tables.customerIdOf message.taxiId = some customer
  | _ => True

instance (tables : Tables) (message : Message) (subject : SubjRequest) :
    Decidable (tables.KeepsFlags message subject) := by
  unfold KeepsFlags
  split <;> infer_instance

/-- No row names a customer exactly when no taxi carries it. -/
theorem forall_customerId_ne_iff {tables : Tables} {customer : Id} :
    (∀ row ∈ tables.taxis.rows, row.customerId ≠ some customer) ↔
      ∀ taxi, tables.trips.carried taxi ≠ some customer := by
  constructor
  · intro ashore taxi carried
    obtain ⟨row, found, aboard⟩ := Option.bind_eq_some_iff.mp carried
    exact ashore row (Table.mem_of_lookup found) aboard
  · intro ashore row member aboard
    exact ashore row.id ((customerIdOf_of_mem member).trans aboard)

/-- The tables agree exactly when their trips do. -/
theorem onboardAgrees_iff {tables : Tables} : tables.OnboardAgrees ↔ tables.trips.Agrees := by
  have unique (customer : Id) : (tables.carriers customer).length = 1 ↔
      ∃! taxi, tables.trips.carried taxi = some customer := by
    rw [carriers, Table.length_filter_eq_one_iff]
    simp [trips, customerIdOf, Option.bind_eq_some_iff]
  constructor
  · intro agrees customer flag stored
    obtain ⟨row, found, rfl⟩ := Option.map_eq_some_iff.mp stored
    have same := Table.key_of_lookup found
    subst same
    rw [← unique]
    exact agrees row (Table.mem_of_lookup found)
  · intro agrees row member
    rw [unique]
    apply agrees row.id row.onboard
    simp [trips, onboardOf, Table.lookup_of_mem member]

end Tables

/-- An arrival for a pick-up keeps the flags in step exactly when nobody carries the customer. -/
theorem Trips.Flagged.arrive {tables : Tables} {after : Trips} {message : Message} {customer : Id}
    (flagged : tables.trips.Flagged) (before : tables.trips.WellFormed)
    (wellFormed : after.WellFormed) (empty : tables.trips.carried message.taxiId = none)
    (service : tables.trips.service message.taxiId = some customer)
    (trips : after = (tables.trips.drive message.taxiId message.coord).setOnboard customer
      message.taxiId true) :
    (after.Agrees ↔ tables.KeepsFlags message .taxiDestinationReached) ∧
      (tables.KeepsFlags message .taxiDestinationReached → after.Flagged) := by
  let driven := tables.trips.drive message.taxiId message.coord
  have drivenFlagged : driven.Flagged :=
    flagged.congr (Trips.drive_carried ..) (Trips.drive_onboard ..)
  have drivenEmpty : driven.carried message.taxiId = none := by rwa [Trips.drive_carried]
  have stored : (driven.taxiAt message.taxiId).isSome :=
    before.drive_taxiAt service message.coord
  have known : (driven.onboard customer).isSome := by
    have carries : after.carried message.taxiId = some customer := by
      rw [trips, driven.setOnboard_true_carried message.taxiId customer stored, Function.update_self]
    have flag := wellFormed.flagOfCustomer (wellFormed.customerOfCarried carries)
    rw [trips] at flag
    simpa [driven, Trips.setOnboard, Trips.carry, Trips.setOnboardFlag] using flag
  have keeps : tables.KeepsFlags message .taxiDestinationReached ↔
      ∀ taxi, driven.carried taxi ≠ some customer := by
    have asked : tables.customerIdOf message.taxiId = none := empty
    have served : tables.serviceOf message.taxiId = some customer := service
    simp only [Tables.KeepsFlags, asked, served, Option.mem_def, Option.some.injEq, forall_eq',
      true_implies]
    rw [Tables.forall_customerId_ne_iff]
    simp only [driven, Trips.drive_carried]
  have next (ashore : ∀ taxi, driven.carried taxi ≠ some customer) : after.Flagged :=
    trips ▸ drivenFlagged.takeAboard stored drivenEmpty ashore
  refine ⟨⟨fun agrees => keeps.mpr ?_, fun condition => (next (keeps.mp condition)).agrees⟩,
    fun condition => next (keeps.mp condition)⟩
  exact Trips.not_carried_of_agrees stored drivenEmpty known (trips ▸ agrees)

/-- A handled request keeps the flags in step exactly when it meets the condition. -/
theorem TripStep.flags {tables : Tables} {after : Trips} {message : Message}
    {subject : SubjRequest} {acts : List Act}
    (step : TripStep tables.trips message subject after acts) (flagged : tables.trips.Flagged)
    (before : tables.trips.WellFormed) (wellFormed : after.WellFormed) :
    (after.Agrees ↔ tables.KeepsFlags message subject) ∧
      (tables.KeepsFlags message subject → after.Flagged) := by
  -- A step which keeps the invariant whatever it does needs no condition.
  have safe (keeps : tables.KeepsFlags message subject) (next : after.Flagged) :
      (after.Agrees ↔ tables.KeepsFlags message subject) ∧
        (tables.KeepsFlags message subject → after.Flagged) :=
    ⟨iff_of_true next.agrees keeps, fun _ => next⟩
  have unneeded {customer : Id} (carried : tables.trips.carried message.taxiId = some customer) :
      tables.KeepsFlags message .taxiDestinationReached := by
    intro empty
    have carrying : tables.customerIdOf message.taxiId = some customer := carried
    simp [empty] at carrying
  have dropped {customer : Id} (carried : tables.trips.carried message.taxiId = some customer) :
      ((tables.trips.drive message.taxiId message.coord).setOnboard customer message.taxiId
        false).Flagged := by
    have driven : (tables.trips.drive message.taxiId message.coord).Flagged :=
      flagged.congr (Trips.drive_carried ..) (Trips.drive_onboard ..)
    exact driven.putDown (before.drive _ _) (by rwa [Trips.drive_carried])
  cases step with
  | quiet calm same quiet =>
      refine safe ?_ (same ▸ flagged)
      cases subject <;> simp_all [SubjRequest.Calm, Tables.KeepsFlags]
  | relocated kind trips recorded =>
      subst kind trips
      exact safe trivial (flagged.congr rfl rfl)
  | left kind trips answer told named recorded =>
      subst kind trips
      exact safe trivial (flagged.leave _)
  | joined kind trips free quiet =>
      subst kind trips
      exact safe trivial (flagged.join before free _)
  | drove kind trips recorded =>
      subst kind trips
      exact safe trivial (flagged.congr (Trips.drive_carried ..) (Trips.drive_onboard ..))
  | droppedOff customer kind carried trips answer told named recorded =>
      subst kind trips
      exact safe (unneeded carried) (dropped carried)
  | droppedOffAndSent customer next middle coord later kind carried left trips answer told named
      dest dispatch recorded =>
      subst kind trips left
      refine safe (unneeded carried) ((dropped carried).congr ?_ ?_)
      · exact Trips.assign_carried ..
      · exact Trips.assign_onboard ..
  | boardedDenied customer kind empty service nowhere trips answer told named recorded =>
      subst kind
      exact flagged.arrive before wellFormed empty service trips
  | boarded customer coord kind empty service destination trips pickedUp goTo quiet sent heading
      recorded =>
      subst kind
      exact flagged.arrive before wellFormed empty service trips
  | requested taxi coord earlier answer kind trips dest dispatch quiet recorded =>
      subst kind trips
      refine safe trivial (flagged.congr ?_ ?_)
      · exact Trips.assign_carried ..
      · exact Trips.assign_onboard ..
  | summoned customer coord kind trips dest dispatch =>
      subst trips
      refine safe (by rcases kind with rfl | rfl <;> trivial) (flagged.congr ?_ ?_)
      · exact Trips.assign_carried ..
      · exact Trips.assign_onboard ..
  | redirected coord frees kind trips goTo sent heading recorded =>
      subst trips
      have keeps : tables.KeepsFlags message subject ↔
          tables.trips.CarriesNamesake message.taxiId := by
        rcases kind with rfl | rfl <;> exact Iff.rfl
      refine ⟨⟨fun agrees => keeps.mpr ?_, fun condition => ?_⟩, fun condition => ?_⟩
      · exact Trips.carriesNamesake_of_agrees flagged before agrees
      · exact (flagged.redirect before (keeps.mp condition) coord).agrees
      · exact flagged.redirect before (keeps.mp condition) coord

/-! ### Whole runs -/

namespace CentralStep

/-- The request of the step, if any, keeps the flags in step. -/
def KeepsFlags (session : Uuid) (taken : CentralStep) : Prop :=
  ∀ asked ∈ taken.request? session, taken.before.db.KeepsFlags asked.1 asked.2

instance (session : Uuid) (taken : CentralStep) : Decidable (taken.KeepsFlags session) := by
  unfold KeepsFlags
  infer_instance

variable {session : Uuid} {taken : CentralStep}

/-- A step keeps the flags in step exactly when its request meets the condition. -/
theorem flags (stepped : (System.machine session).step taken.before taken.event = some taken.after)
    (succeeds : taken.Succeeds) (flagged : taken.before.db.trips.Flagged) :
    (taken.after.db.OnboardAgrees ↔ taken.KeepsFlags session) ∧
      (taken.KeepsFlags session → taken.after.db.trips.Flagged) := by
  have before := taken.before.db.trips_wellFormed
  rw [Tables.onboardAgrees_iff]
  cases travels_of_step stepped succeeds with
  | still added unasked trips trace quiet =>
      have next : taken.after.db.trips.Flagged := trips ▸ flagged
      exact ⟨iff_of_true next.agrees (by simp [KeepsFlags, unasked]), fun _ => next⟩
  | registered taxiId added unasked trips free trace quiet =>
      have next : taken.after.db.trips.Flagged := trips ▸ flagged.register before free
      exact ⟨iff_of_true next.agrees (by simp [KeepsFlags, unasked]), fun _ => next⟩
  | treated message subject acts maps asked step due trace =>
      have keeps : taken.KeepsFlags session ↔ taken.before.db.KeepsFlags message subject := by
        simp [KeepsFlags, asked]
      rw [keeps]
      exact step.flags flagged before taken.after.db.trips_wellFormed

end CentralStep

/-- A run of Central in which every query succeeds keeps flags and carrying taxis in
agreement exactly when no taxi arrives for a customer who is already carried, and no
taxi is redirected while it carries anybody but the customer whose identifier spells
the taxi, or while that customer is aboard of another. -/
theorem onboard_agrees_iff (session : Uuid) (locations : Table LocationRow.id)
    (events : List System.Event)
    (succeed : ∀ taken ∈ (System.machine session).run (System.start locations) events,
      CentralStep.Succeeds taken) :
    (∀ taken ∈ (System.machine session).run (System.start locations) events,
        taken.after.db.OnboardAgrees) ↔
      ∀ taken ∈ (System.machine session).run (System.start locations) events,
        CentralStep.KeepsFlags session taken := by
  have initial : (System.start locations).db.trips.Flagged := by
    intro customer flag stored
    cases stored
  refine Machine.run_exact (fun system => system.db.trips.Flagged) ?_ ?_ initial succeed
  · exact fun taken stepped succeeds flagged => (CentralStep.flags stepped succeeds flagged).1
  · intro taken stepped succeeds keeps flagged
    exact (CentralStep.flags stepped succeeds flagged).2 keeps

/-- A taxi takes a customer aboard. -/
def customerAboard : List System.Event :=
  Town.join 1 ++ [Town.register 65 ⟨1, 1⟩, Town.ask 65 74, Town.arrive 1 ⟨1, 1⟩]

/-- The operator sends the taxi elsewhere while the customer is aboard. -/
def redirectedAboard : List System.Event :=
  customerAboard ++ [Town.consume { Message.request [] .orderTaxiGoTo with
    taxiId := 1, coord := ⟨9, 9⟩ }]

/-- After the redirection nobody carries the customer, who is still flagged. -/
theorem redirection_leaves_flag :
    ¬ ∀ (session : Uuid) (locations : Table LocationRow.id) (events : List System.Event),
      (∀ taken ∈ (System.machine session).run (System.start locations) events,
        CentralStep.Succeeds taken) →
      ∀ taken ∈ (System.machine session).run (System.start locations) events,
        taken.after.db.OnboardAgrees := by
  intro claimed
  have agrees := claimed Town.session Town.locations redirectedAboard (by decide +kernel)
  revert agrees
  decide +kernel

/-- On the trip without a redirection flags and carrying taxis agree. -/
theorem onboard_agrees_customerAboard :
    (Town.run (customerAboard ++ [Town.arrive 1 ⟨7, 7⟩])).length = 6 ∧
      ∀ taken ∈ Town.run (customerAboard ++ [Town.arrive 1 ⟨7, 7⟩]),
        taken.after.db.OnboardAgrees :=
  ⟨by decide +kernel, (onboard_agrees_iff Town.session Town.locations
    (customerAboard ++ [Town.arrive 1 ⟨7, 7⟩]) (by decide +kernel)).mpr (by decide +kernel)⟩

end EasyCab
