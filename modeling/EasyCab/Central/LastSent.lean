import EasyCab.Central.Observers

/-!
# Where the taxis are sent, and where the map says

`TAXI_GO_TO` is produced by `assign`, by a pick-up and for the operator. `Heading` says
that the destination columns of every taxi hold the last coordinate it was sent to. A
pick-up sends its taxi without writing them, so `destination_last_sent_iff` says that they
hold throughout a run exactly if every pick-up sends the taxi where it is already sent,
and no taxi was sent anywhere before it has its row.
-/

namespace EasyCab

open Library Trace

/-- The stored destination of every taxi is where it was last sent. -/
def Heading (trips : Trips) (last : TaxiId → Option Coordinate) : Prop :=
  ∀ taxi coord, (trips.taxiAt taxi).isSome → last taxi = some coord →
    trips.dest taxi = some coord

namespace Heading

variable {trips next : Trips} {last : TaxiId → Option Coordinate} {taxi : TaxiId}
  {coord : Coordinate} {message : Message} {acts trace : List Act}

/-- Trips with the same taxis and destinations store the same headings. -/
theorem congr (heading : Heading trips last) (dest : next.dest = trips.dest)
    (stored : ∀ taxi, (next.taxiAt taxi).isSome = (trips.taxiAt taxi).isSome) :
    Heading next last := by
  intro taxi coord known sent
  rw [dest]
  rw [stored] at known
  exact heading taxi coord known sent

/-- Sending a taxi somewhere keeps every destination stored, if the row of the taxi, where it has
one, says so. -/
theorem send (heading : Heading trips last)
    (rows : ∀ other, (next.taxiAt other).isSome → (trips.taxiAt other).isSome)
    (others : ∀ other ≠ taxi, next.dest other = trips.dest other)
    (written : (next.taxiAt taxi).isSome → next.dest taxi = some coord) :
    Heading next (fun other => if taxi = other then some coord else last other) := by
  intro other place known sent
  by_cases same : other = taxi
  · subst same
    obtain rfl : coord = place := by simpa using sent
    exact written known
  · rw [others other same]
    exact heading other place (rows other known) (by simpa [Ne.symm same] using sent)

/-- A taxi which gets its row, without a destination, keeps every destination stored exactly if it
was sent nowhere. -/
theorem register_iff (heading : Heading trips last) (free : trips.taxiAt taxi = none) :
    Heading (trips.register taxi) last ↔ last taxi = none := by
  constructor
  · intro kept
    refine Option.eq_none_iff_forall_ne_some.mpr fun coord sent => ?_
    have stored := kept taxi coord (by simp [Trips.register]) sent
    simp [Trips.register] at stored
  · intro nowhere other coord known sent
    have different : other ≠ taxi := by
      rintro rfl
      simp [nowhere] at sent
    simp only [Trips.register, Function.update_of_ne different] at known ⊢
    exact heading other coord known sent

section Trace

/-! ### What the acts of a request do to the invariant -/

/-- Quiet acts leave every destination stored. -/
theorem hush (heading : Heading trips (lastGoTo · trace)) (quiet : ∀ act ∈ acts, act.Quiet) :
    Heading trips (lastGoTo · (acts.reverse ++ trace)) := by
  have reversed : ∀ act ∈ acts.reverse, act.Quiet :=
    fun act member => quiet act (List.mem_reverse.mp member)
  simpa only [lastGoTo_quiet reversed] using heading

/-- The end of a service leaves every destination stored. -/
theorem ended (heading : Heading trips (lastGoTo · trace)) (ends : message.endsService) :
    Heading trips (lastGoTo · (.produce message :: trace)) := by
  simpa only [lastGoTo_ended ends] using heading

/-- A taxi which drives leaves every destination stored. -/
theorem drive (heading : Heading trips last) (taxi : TaxiId) (coord : Coordinate) :
    Heading (trips.drive taxi coord) last :=
  heading.congr (trips.drive_dest taxi coord) (trips.drive_taxiAt_isSome taxi coord)

/-- Putting a customer down leaves every destination stored. -/
theorem alight (heading : Heading trips last) (customer : Id) (taxi : TaxiId) :
    Heading (trips.setOnboard customer taxi false) last := heading.congr rfl fun _ => rfl

/-- An assignment keeps every destination stored: `assign` sends its taxi to the one it stores. -/
theorem dispatch {customer : Id} (heading : Heading trips (lastGoTo · trace))
    (dest : (trips.assign taxi customer).dest taxi = some coord)
    (dispatch : Dispatch taxi customer coord acts) :
    Heading (trips.assign taxi customer) (lastGoTo · (acts.reverse ++ trace)) := by
  simp only [lastGoTo_dispatch dispatch]
  refine heading.send ?_ (fun _ different => trips.assign_dest_of_ne taxi customer different)
    fun _ => dest
  intro other known
  rwa [Trips.assign_taxiAt] at known

/-- A redirection keeps every destination stored: it stores the one to which it sends the taxi. -/
theorem redirect (heading : Heading trips (lastGoTo · trace)) (taxi : TaxiId) (coord : Coordinate)
    (sent : message.subject = .response .taxiGoTo) (named : message.taxiId = taxi)
    (there : message.coord = coord) :
    Heading ((trips.redirect taxi coord).landNamesake taxi)
      (lastGoTo · (.produce message :: trace)) := by
  simp only [lastGoTo_goTo sent, named, there]
  refine heading.send ?_ ?_ ?_
  · intro other known
    rwa [Trips.landNamesake_taxiAt] at known
  · intro other different
    rw [Trips.landNamesake_dest]
    exact Function.update_of_ne different _ _
  · intro known
    rw [Trips.landNamesake_taxiAt] at known
    obtain ⟨place, stored⟩ := Option.isSome_iff_exists.mp known
    have before : trips.taxiAt taxi = some place := stored
    simp [Trips.redirect, before]

/-- A pick-up, which sends its taxi and stores no destination, keeps them stored exactly if this one
was. -/
theorem board_iff (customer : Id) (heading : Heading trips (lastGoTo · trace))
    (stored : (trips.taxiAt taxi).isSome) (sent : message.subject = .response .taxiGoTo)
    (named : message.taxiId = taxi) (there : message.coord = coord) :
    Heading (trips.setOnboard customer taxi true) (lastGoTo · (.produce message :: trace)) ↔
      trips.dest taxi = some coord := by
  simp only [lastGoTo_goTo sent, named, there]
  constructor
  · intro kept
    exact kept taxi coord stored (if_pos rfl)
  · intro written
    exact heading.send (fun _ known => known) (fun _ _ => rfl) fun _ => written

end Trace

end Heading

/-! ### The condition on a request -/

/-- A taxi which takes a customer aboard is already sent to the destination of the customer. -/
def Tables.KeepsHeadings (tables : Tables) (message : Message) (subject : SubjRequest) : Prop :=
  match subject with
  | .taxiDestinationReached =>
      tables.customerIdOf message.taxiId = none →
        ∀ customer ∈ tables.serviceOf message.taxiId, ∀ coord ∈ tables.destinationOf customer,
          tables.destOf message.taxiId = some coord
  | _ => True

instance (tables : Tables) (message : Message) (subject : SubjRequest) :
    Decidable (tables.KeepsHeadings message subject) := by
  unfold Tables.KeepsHeadings
  split <;> infer_instance

/-- A request which reports no arrival keeps the headings. -/
theorem Tables.KeepsHeadings.of_ne {tables : Tables} {message : Message} {subject : SubjRequest}
    (different : subject ≠ .taxiDestinationReached) : tables.KeepsHeadings message subject := by
  unfold KeepsHeadings
  split
  · exact absurd rfl different
  · trivial

/-- Where the stored destinations are where the taxis were last sent, a handled request keeps it so
exactly if it meets the condition. -/
theorem TripStep.heading_iff {tables : Tables} {after : Trips} {message : Message}
    {subject : SubjRequest} {acts trace : List Act}
    (step : TripStep tables.trips message subject after acts) (wellFormed : tables.trips.WellFormed)
    (heading : Heading tables.trips (lastGoTo · trace)) :
    Heading after (lastGoTo · (acts.reverse ++ .handled message :: trace)) ↔
      tables.KeepsHeadings message subject := by
  have entered : Heading tables.trips (lastGoTo · (.handled message :: trace)) := heading
  have rows := entered.drive message.taxiId message.coord
  cases step with
  | quiet calm same quiet =>
      subst same
      refine iff_of_true (entered.hush quiet) (.of_ne ?_)
      rintro rfl
      simp [SubjRequest.Calm] at calm
  | relocated kind trips recorded =>
      subst kind trips recorded
      exact iff_of_true (entered.congr rfl fun _ => rfl) (.of_ne (by simp))
  | left kind trips answer told named recorded =>
      subst kind trips recorded
      have ends : answer.endsService := Message.endsService_iff.mpr (.inr (.inr told))
      have gone : Heading (tables.trips.leave message.id) (lastGoTo · (.handled message :: trace)) :=
        entered.congr rfl fun _ => rfl
      exact iff_of_true (gone.ended ends) (.of_ne (by simp))
  | joined kind trips free quiet =>
      subst kind trips
      have joined : Heading (tables.trips.join message.id message.coord)
          (lastGoTo · (.handled message :: trace)) := entered.congr rfl fun _ => rfl
      exact iff_of_true (joined.hush quiet) (.of_ne (by simp))
  | drove kind trips recorded =>
      subst kind trips recorded
      exact iff_of_true rows (.of_ne (by simp))
  | droppedOff customer kind carried trips answer told named recorded =>
      subst kind trips recorded
      have ends : answer.endsService := Message.endsService_iff.mpr (.inl told)
      refine iff_of_true ((rows.alight customer message.taxiId).ended ends) fun empty => ?_
      exact absurd (carried.symm.trans empty) (by simp)
  | droppedOffAndSent customer next middle coord later kind carried left trips answer told named
      dest dispatch recorded =>
      subst kind left trips recorded
      have ends : answer.endsService := Message.endsService_iff.mpr (.inl told)
      rw [List.reverse_cons, List.append_assoc]
      refine iff_of_true (((rows.alight customer message.taxiId).ended ends).dispatch dest dispatch)
        fun empty => ?_
      exact absurd (carried.symm.trans empty) (by simp)
  | boardedDenied customer kind empty service nowhere trips answer told named recorded =>
      subst kind trips recorded
      have ends : answer.endsService := Message.endsService_iff.mpr (.inr (.inl told))
      have aboard : Heading ((tables.trips.drive message.taxiId message.coord).setOnboard customer
          message.taxiId true) (lastGoTo · (.handled message :: trace)) :=
        rows.congr rfl fun _ => rfl
      refine iff_of_true (aboard.ended ends) fun _ other served coord found => ?_
      obtain rfl : customer = other := Option.some.inj (service.symm.trans served)
      rw [Tables.destinationOf_eq, nowhere] at found
      cases found
  | boarded customer coord kind empty service destination trips pickedUp goTo quiet sent taxi there
      recorded =>
      subst kind trips recorded
      have stored := wellFormed.drive_taxiAt service message.coord
      have boarded := (rows.hush quiet.produced).board_iff customer stored sent taxi there
      rw [Trips.drive_dest] at boarded
      refine boarded.trans ⟨fun written _ other served place found => ?_, fun keeps => ?_⟩
      · obtain rfl : customer = other := Option.some.inj (service.symm.trans served)
        rw [Tables.destinationOf_eq, destination] at found
        cases found
        exact written
      · exact keeps empty customer service coord destination
  | requested taxi coord earlier answer kind trips dest dispatch quiet recorded =>
      subst kind trips recorded
      have named : Heading (tables.trips.setDestination message.id message.charFromData)
          (lastGoTo · (.handled message :: trace)) := entered.congr rfl fun _ => rfl
      rw [List.reverse_append, List.append_assoc]
      exact iff_of_true ((named.dispatch dest dispatch).hush quiet.produced) (.of_ne (by simp))
  | summoned customer coord kind trips dest dispatch =>
      subst trips
      refine iff_of_true (entered.dispatch dest dispatch) (.of_ne ?_)
      rcases kind with rfl | rfl <;> simp
  | redirected coord frees kind trips goTo sent taxi there recorded =>
      subst trips recorded
      refine iff_of_true (entered.redirect message.taxiId coord sent taxi there) (.of_ne ?_)
      rcases kind with rfl | rfl <;> simp

/-! ### Whole runs -/

namespace CentralStep

/-- Every stored taxi to which some `TAXI_GO_TO` was produced is stored with the coordinate of the
last one. -/
def SentWhereStored (taken : CentralStep) : Prop :=
  Heading taken.after.db.trips (lastGoTo · taken.after.trace)

/-- A taxi which gets its row was sent nowhere before, and the request of the step, if any, meets
the condition of `Tables.KeepsHeadings`. -/
def KeepsHeadings (session : Uuid) (taken : CentralStep) : Prop :=
  (∀ added ∈ taken.added?, added.2 = false → lastGoTo added.1 taken.before.trace = none) ∧
    ∀ asked ∈ taken.request? session, taken.before.db.KeepsHeadings asked.1 asked.2

instance (session : Uuid) (taken : CentralStep) : Decidable (taken.KeepsHeadings session) := by
  unfold KeepsHeadings
  infer_instance

variable {session : Uuid} {taken : CentralStep}

/-- A step keeps the stored destinations where the taxis were sent exactly if it meets the
condition. -/
theorem sentWhereStored_iff
    (stepped : (System.machine session).step taken.before taken.event = some taken.after)
    (succeeds : taken.Succeeds)
    (heading : Heading taken.before.db.trips (lastGoTo · taken.before.trace)) :
    taken.SentWhereStored ↔ taken.KeepsHeadings session := by
  unfold SentWhereStored KeepsHeadings
  cases travels_of_step stepped succeeds with
  | still added unasked trips trace quiet event =>
      rw [trips, trace]
      simp only [lastGoTo_quiet quiet]
      refine iff_of_true heading ⟨fun joined found reconnected => ?_, by simp [unasked]⟩
      simp [event joined found] at reconnected
  | registered taxiId added unasked trips free trace quiet event =>
      rw [trips, trace]
      simp only [lastGoTo_quiet quiet, event, unasked, Option.mem_def, Option.some.injEq,
        forall_eq', reduceCtorEq, false_implies, implies_true, and_true, true_implies]
      exact heading.register_iff free
  | treated message subject acts maps asked step due trace =>
      rw [trace]
      simp only [lastGoTo_publishMap, added?_of_asked asked, asked, Option.mem_def, reduceCtorEq,
        false_implies, implies_true, true_and, Option.some.injEq, forall_eq']
      exact step.heading_iff taken.before.db.trips_wellFormed heading

end CentralStep

/-- In a run of Central in which every query succeeds, the stored destination of every taxi is
always where it was last sent exactly if every pick-up sends its taxi where it is already sent, and
every taxi which gets its row was sent nowhere before. -/
theorem destination_last_sent_iff (session : Uuid) (locations : Table LocationRow.id)
    (events : List System.Event)
    (succeed : ∀ taken ∈ (System.machine session).run (System.start locations) events,
      CentralStep.Succeeds taken) :
    (∀ taken ∈ (System.machine session).run (System.start locations) events,
        CentralStep.SentWhereStored taken) ↔
      ∀ taken ∈ (System.machine session).run (System.start locations) events,
        CentralStep.KeepsHeadings session taken := by
  have initial : Heading (System.start locations).db.trips
      (lastGoTo · (System.start locations).trace) := by
    intro taxi coord _ sent
    cases sent
  refine Machine.run_exact (fun system => Heading system.db.trips (lastGoTo · system.trace)) ?_ ?_
    initial succeed
  · intro taken stepped succeeds heading
    exact CentralStep.sentWhereStored_iff stepped succeeds heading
  · intro taken stepped succeeds keeps heading
    exact (CentralStep.sentWhereStored_iff stepped succeeds heading).mpr keeps

/-- A customer at a place asks to be taken to `J`, and the taxi arrives there. -/
def pickUpAt (coord : Coordinate) : List System.Event :=
  Town.join 1 ++ [Town.register 65 coord, Town.ask 65 74, Town.arrive 1 coord]

/-- A customer who is at `J` already sends the taxi nowhere else. -/
theorem destination_last_sent_at_j :
    (∃ taken ∈ Town.run (pickUpAt ⟨7, 7⟩), lastGoTo 1 taken.after.trace = some ⟨7, 7⟩) ∧
      ∀ taken ∈ Town.run (pickUpAt ⟨7, 7⟩), CentralStep.SentWhereStored taken := by
  refine ⟨by decide +kernel, ?_⟩
  have keeps : ∀ taken ∈ Town.run (pickUpAt ⟨7, 7⟩),
      CentralStep.KeepsHeadings Town.session taken := by
    decide +kernel
  exact (destination_last_sent_iff Town.session Town.locations (pickUpAt ⟨7, 7⟩)
    (by decide +kernel)).mpr keeps

/-- The first pick-up sends the taxi to `J` and leaves the place of the customer in its row. -/
theorem pick_up_leaves_destination :
    ¬ ∀ (session : Uuid) (locations : Table LocationRow.id) (events : List System.Event),
      (∀ taken ∈ (System.machine session).run (System.start locations) events,
        CentralStep.Succeeds taken) →
      ∀ taken ∈ (System.machine session).run (System.start locations) events,
        CentralStep.SentWhereStored taken := by
  intro claimed
  have kept := claimed Town.session Town.locations (pickUpAt ⟨1, 1⟩) (by decide +kernel)
  have stale : ∃ taken ∈ Town.run (pickUpAt ⟨1, 1⟩),
      (taken.after.db.trips.taxiAt 1).isSome ∧ lastGoTo 1 taken.after.trace = some ⟨7, 7⟩ ∧
        taken.after.db.trips.dest 1 ≠ some ⟨7, 7⟩ := by
    decide +kernel
  obtain ⟨taken, member, stored, sent, written⟩ := stale
  exact written (kept taken member 1 ⟨7, 7⟩ stored sent)

end EasyCab
