import EasyCab.De.Turns
import EasyCab.Library.Machine

/-!
# The latest order of a taxi

A `Journey` is a run of the taxi beside the coordinate of the last `TAXI_GO_TO` it
consumed. An order to go where the taxi already stands is answered at once and leaves
`dest` alone, so a destination which was still ahead is then overlooked: it stays in
`dest`. `latest_order_obeyed_iff` says that this is the only way in which an
earlier destination is driven to or reported.
-/

namespace EasyCab

open Library

/-! ### What a turn does to the position and the destination -/

namespace EcDe

/-- The coordinate of the `TAXI_GO_TO` which an event makes the taxi consume. -/
def goTo? (taxi : EcDe) : Event → Option Coordinate
  | .consume (some message) =>
      if taxi.order? message = some .taxiGoTo then some message.1.coord else none
  | _ => none

/-- The event makes the taxi consume a `TAXI_RETURN_TO_BASE`. -/
def Returns (taxi : EcDe) : Event → Prop
  | .consume (some message) => taxi.order? message = some .taxiReturnToBase
  | _ => False

/-- The event is a tick with no waiting time, while the taxi is not ordered to stop. -/
def Rolls (taxi : EcDe) : Event → Prop
  | .tick waitTime _ => ¬ 0 < waitTime ∧ ¬ taxi.orderedToStop
  | _ => False

/-- The coordinates of the arrivals which are reported. -/
def reports (acts : List Act) : List Coordinate :=
  acts.filterMap fun
    | .produce message =>
        if message.1.subject = .request .taxiDestinationReached then some message.1.coord else none
    | .answer _ => none

instance (taxi : EcDe) (event : Event) : Decidable (taxi.Returns event) := by
  unfold Returns
  split <;> infer_instance

instance (taxi : EcDe) (event : Event) : Decidable (taxi.Rolls event) := by
  unfold Rolls
  split <;> infer_instance

/-- What a turn without `TAXI_RETURN_TO_BASE` does to the position and the destination, and
the arrivals it reports. -/
inductive Went (taxi : EcDe) (event : Event) (next : EcDe) (acts : List Act) : Prop where
  /-- An order to go somewhere is consumed. -/
  | ordered (coord : Coordinate) (goTo : taxi.goTo? event = some coord) (resting : ¬ taxi.Rolls event)
      (pos : next.pos = taxi.pos) (dest : next.dest = if taxi.pos = coord then taxi.dest else coord)
      (reported : ∀ place ∈ reports acts, place = coord)
  /-- The taxi moves towards its destination. -/
  | drove (goTo : taxi.goTo? event = none) (rolls : taxi.Rolls event) (apart : taxi.pos ≠ taxi.dest)
      (dest : next.dest = taxi.dest) (reported : ∀ place ∈ reports acts, place = taxi.dest)
  /-- No order to go somewhere is consumed and the taxi does not move. -/
  | stayed (goTo : taxi.goTo? event = none) (resting : taxi.Rolls event → taxi.pos = taxi.dest)
      (pos : next.pos = taxi.pos) (dest : next.dest = taxi.dest) (reported : reports acts = [])

variable {taxi next : EcDe} {event : Event} {acts : List Act}

/-- A message of the process itself reports no arrival. -/
theorem reports_message {subject : SubjRequest} (other : subject ≠ .taxiDestinationReached) :
    reports [.produce (taxi.message subject)] = [] := by
  have different : (taxi.message subject).1.subject ≠ .request .taxiDestinationReached := by
    intro same
    cases same
    exact other rfl
  simp [reports, different]

/-- What the taxi does on an order which does not recall it is listed in `Went`. -/
theorem Obeyed.went {message : FullMessage} {subject : SubjResponse}
    (obeyed : taxi.Obeyed message subject next acts) (ordered : taxi.order? message = some subject)
    (stays : ¬ taxi.Returns (.consume message)) :
    Went taxi (.consume message) { next with listening := !next.stop } acts := by
  cases obeyed with
  | arrived there =>
      refine .ordered message.1.coord ?_ (fun rolls => rolls.elim) rfl (if_pos there).symm ?_
      · simp [goTo?, ordered]
      · simp [reports, there]
  | sent away =>
      refine .ordered message.1.coord ?_ (fun rolls => rolls.elim) rfl (if_neg away).symm ?_
      · simp [goTo?, ordered]
      · simp [reports]
  | returned => exact absurd ordered stays
  | stopped | continued | dismissed =>
      exact .stayed (by simp [goTo?, ordered]) (fun rolls => rolls.elim) rfl rfl rfl
  | ignored other =>
      have elsewhere : subject ≠ .taxiGoTo := by
        rintro rfl
        simp at other
      exact .stayed (by simp [goTo?, ordered, elsewhere]) (fun rolls => rolls.elim) rfl rfl rfl

/-- What the taxi does on a tick is listed in `Went`, whatever the sensor is told. -/
theorem Driven.went {message : FullMessage} {waitTime : Int32} {again : Bool}
    {sent : Option FullMessage} {sensor : SensorThread} {moving : Bool}
    (drove : taxi.Driven message waitTime next sent) :
    Went taxi (.tick waitTime again) { next with sensor := sensor }
      (sent.toList.map .produce ++ [.answer moving]) := by
  cases drove with
  | waits waiting =>
      refine .stayed rfl (fun rolls => absurd waiting rolls.1) rfl rfl ?_
      simp [reports, Message.setIntData]
  | moves rolls apart allowed move =>
      refine .drove rfl ⟨rolls, allowed⟩ apart rfl fun place reported => ?_
      -- The arrival is reported where the position has become the destination.
      by_cases arrived : move = taxi.dest
      · simpa [reports, arrived] using reported
      · simp [reports, arrived] at reported
  | rests held =>
      exact .stayed rfl (fun rolls => held.resolve_right rolls.2) rfl rfl rfl

/-- A turn without `TAXI_RETURN_TO_BASE` goes one of the listed ways. -/
theorem went_of_turn (turned : taxi.turn event = some (next, acts))
    (stays : ¬ taxi.Returns event) : Went taxi event next acts := by
  cases turned_of_turn turned with
  | @unheard message unordered =>
      refine .stayed ?_ (fun rolls => rolls.elim) rfl rfl rfl
      cases message with
      | none => rfl
      | some message => simp [goTo?, show taxi.order? message = none from unordered]
  | heard ordered obeyed => exact obeyed.went ordered stays
  | ticked attending drove => exact drove.went
  | ended | connected | left | pinged =>
      exact .stayed rfl (fun rolls => rolls.elim) rfl rfl (reports_message (by decide))
  | accepting | quit => exact .stayed rfl (fun rolls => rolls.elim) rfl rfl rfl

end EcDe

/-! ### Journeys -/

/-- A taxi, the coordinate of the last `TAXI_GO_TO` it consumed, and whether that order found
it there with another destination ahead. -/
structure Journey where
  taxi : EcDe
  latest : Option Coordinate
  overlooked : Bool

namespace Journey

/-- One step of the taxi. -/
def step (journey : Journey) (event : EcDe.Event) : Option Journey :=
  (journey.taxi.turn event).map fun (taxi, _) =>
    { taxi := taxi
      latest := (journey.taxi.goTo? event).or journey.latest
      overlooked :=
        match journey.taxi.goTo? event with
        | none => journey.overlooked
        | some coord => journey.taxi.pos = coord && journey.taxi.dest ≠ coord }

/-- A taxi on its journey as a machine. -/
def machine : Machine Journey EcDe.Event := ⟨step⟩

/-- A taxi which has just authenticated. -/
def start (id : TaxiId) (session : Uuid) : Journey := ⟨.start id session, none, false⟩

/-- Before any order the taxi is where it is going, and afterwards it is going where the
latest order says, unless that order left an earlier destination standing. -/
def Inv (journey : Journey) : Prop :=
  match journey.latest with
  | none => journey.taxi.pos = journey.taxi.dest ∧ ¬ journey.overlooked
  | some coord =>
      if journey.overlooked then journey.taxi.pos = coord ∧ journey.taxi.dest ≠ coord
      else journey.taxi.dest = coord

end Journey

/-- A step of a journey. -/
abbrev JourneyStep := Transition Journey EcDe.Event

namespace JourneyStep

/-- What the taxi does in the step. -/
def acts (taken : JourneyStep) : List EcDe.Act :=
  ((taken.before.taxi.turn taken.event).map (·.2)).getD []

/-- The step consumes a `TAXI_RETURN_TO_BASE`. -/
abbrev Returns (taken : JourneyStep) : Prop := taken.before.taxi.Returns taken.event

/-- The step is a tick on which nothing holds the taxi back. -/
abbrev Rolls (taken : JourneyStep) : Prop := taken.before.taxi.Rolls taken.event

/-- Every reported arrival is at the coordinate of the latest order, and the taxi is driven
there only. -/
def ObeysLatest (taken : JourneyStep) : Prop :=
  (∀ place ∈ EcDe.reports taken.acts, taken.after.latest = some place) ∧
    (taken.Rolls → taken.before.taxi.pos ≠ taken.before.taxi.dest →
      taken.before.latest = some taken.before.taxi.dest)

instance (taken : JourneyStep) : Decidable taken.ObeysLatest := by
  unfold ObeysLatest
  infer_instance

variable {taken : JourneyStep}

/-- A step of the machine does what the taxi does in it, and notes the latest order. -/
theorem went_of_step
    (stepped : Journey.machine.step taken.before taken.event = some taken.after)
    (stays : ¬ taken.Returns) :
    EcDe.Went taken.before.taxi taken.event taken.after.taxi taken.acts ∧
      taken.after.latest = (taken.before.taxi.goTo? taken.event).or taken.before.latest ∧
      taken.after.overlooked =
        match taken.before.taxi.goTo? taken.event with
        | none => taken.before.overlooked
        | some coord =>
            decide (taken.before.taxi.pos = coord) && decide (taken.before.taxi.dest ≠ coord) := by
  obtain ⟨⟨next, done⟩, turned, same⟩ := Option.map_eq_some_iff.mp stepped
  have acted : taken.acts = done := by simp [acts, turned]
  rw [acted, ← same]
  exact ⟨EcDe.went_of_turn turned stays, rfl, rfl⟩

/-- A step obeys the latest order exactly when it does not roll past an overlooked one. -/
theorem obeysLatest_iff
    (stepped : Journey.machine.step taken.before taken.event = some taken.after)
    (stays : ¬ taken.Returns) (holds : taken.before.Inv) :
    taken.ObeysLatest ↔ (taken.Rolls → ¬ taken.before.overlooked) := by
  obtain ⟨went, latest, _⟩ := went_of_step stepped stays
  cases went with
  | ordered coord goTo resting pos dest reported =>
      rw [goTo, Option.some_or] at latest
      refine iff_of_true ⟨?_, fun rolls => absurd rolls resting⟩ fun rolls => absurd rolls resting
      intro place member
      rw [latest, reported place member]
  | drove goTo rolls apart dest reported =>
      rw [goTo, Option.none_or] at latest
      cases ordered : taken.before.latest with
      | none =>
          simp only [Journey.Inv, ordered] at holds
          exact absurd holds.1 apart
      | some coord =>
          simp only [Journey.Inv, ordered] at holds
          rw [ordered] at latest
          by_cases overlooked : taken.before.overlooked = true
          · rw [if_pos overlooked] at holds
            refine iff_of_false ?_ fun guard => guard rolls overlooked
            rintro ⟨_, driven⟩
            have same : some coord = some taken.before.taxi.dest := ordered ▸ driven rolls apart
            exact holds.2 (Option.some.inj same).symm
          · rw [if_neg overlooked] at holds
            refine iff_of_true ⟨?_, fun _ _ => ?_⟩ fun _ => overlooked
            · intro place member
              rw [latest, reported place member, holds]
            · rw [ordered, holds]
  | stayed goTo resting pos dest reported =>
      constructor
      · rintro _ rolls overlooked
        -- An overlooked order finds the taxi away from its destination.
        have together : taken.before.taxi.pos = taken.before.taxi.dest := resting rolls
        cases ordered : taken.before.latest with
        | none =>
            simp only [Journey.Inv, ordered] at holds
            exact holds.2 overlooked
        | some coord =>
            simp only [Journey.Inv, ordered, if_pos overlooked] at holds
            exact holds.2 (together ▸ holds.1)
      · refine fun _ => ⟨?_, fun rolls apart => absurd (resting rolls) apart⟩
        simp [reported]

/-- A step which does not roll past an overlooked order keeps the invariant. -/
theorem inv_preserved
    (stepped : Journey.machine.step taken.before taken.event = some taken.after)
    (stays : ¬ taken.Returns) (guard : taken.Rolls → ¬ taken.before.overlooked)
    (holds : taken.before.Inv) : taken.after.Inv := by
  obtain ⟨went, latest, overlooked⟩ := went_of_step stepped stays
  unfold Journey.Inv at holds ⊢
  cases went with
  | ordered coord goTo resting pos dest reported =>
      simp only [goTo, Option.some_or] at latest overlooked
      rw [latest, overlooked, pos, dest]
      by_cases there : taken.before.taxi.pos = coord
      · by_cases heading : taken.before.taxi.dest = coord
        · simp [there, heading]
        · simp [there, heading]
      · simp [there]
  | drove goTo rolls apart dest reported =>
      simp only [goTo, Option.none_or] at latest overlooked
      rw [latest, overlooked, dest]
      cases ordered : taken.before.latest with
      | none =>
          simp only [ordered] at holds
          exact absurd holds.1 apart
      | some coord => simpa only [ordered, if_neg (guard rolls)] using holds
  | stayed goTo resting pos dest reported =>
      simp only [goTo, Option.none_or] at latest overlooked
      rw [latest, overlooked, pos, dest]
      exact holds

end JourneyStep

/-- In a run without `TAXI_RETURN_TO_BASE`, the latest order is obeyed throughout exactly when
the taxi is never rolling while its latest order is overlooked. -/
theorem latest_order_obeyed_iff {id : TaxiId} {session : Uuid} {events : List EcDe.Event}
    (stays : ∀ taken ∈ Journey.machine.run (.start id session) events,
      ¬ JourneyStep.Returns taken) :
    (∀ taken ∈ Journey.machine.run (.start id session) events,
        JourneyStep.ObeysLatest taken) ↔
      ∀ taken ∈ Journey.machine.run (.start id session) events,
        JourneyStep.Rolls taken → ¬ taken.before.overlooked :=
  Machine.run_exact Journey.Inv
    (fun _ stepped => JourneyStep.obeysLatest_iff stepped)
    (fun _ stepped => JourneyStep.inv_preserved stepped)
    ⟨rfl, Bool.false_ne_true⟩ stays

/-! ### Two journeys -/

namespace Journey

/-- A session. -/
def session : Uuid := Sized.fill 36 48

/-- Taxi 1 is ordered to go somewhere. -/
def order (coord : Coordinate) : EcDe.Event :=
  .consume (some ⟨{ Message.new with
    subject := .response .taxiGoTo, taxiId := 1, coord := coord, session := session.1 }, session.2⟩)

/-- A sensor connects and sends a waiting time of zero. -/
def sense : List EcDe.Event := [.check, .connect, .tick 0 true]

/-- The run of taxi 1. -/
def run (events : List EcDe.Event) : List JourneyStep :=
  machine.run (.start 1 session) events

end Journey

/-- A taxi which consumes one order arrives where it says. -/
theorem order_obeyed :
    (∃ taken ∈ Journey.run (Journey.order ⟨1, 1⟩ :: Journey.sense),
        EcDe.reports (JourneyStep.acts taken) = [⟨1, 1⟩]) ∧
      ∀ taken ∈ Journey.run (Journey.order ⟨1, 1⟩ :: Journey.sense),
        JourneyStep.ObeysLatest taken := by
  refine ⟨by decide +kernel, (latest_order_obeyed_iff ?_).mpr ?_⟩
  · change ∀ taken ∈ Journey.run (Journey.order ⟨1, 1⟩ :: Journey.sense),
      ¬ JourneyStep.Returns taken
    decide +kernel
  · change ∀ taken ∈ Journey.run (Journey.order ⟨1, 1⟩ :: Journey.sense),
      JourneyStep.Rolls taken → ¬ taken.before.overlooked
    decide +kernel

/-- The taxi stands at (0, 0) and is ordered to (1, 1) and then to (0, 0), where it is already.
It drives to (1, 1) and reports its arrival there. -/
theorem overlooked_destination_reported :
    (∀ taken ∈ Journey.run (Journey.order ⟨1, 1⟩ :: Journey.order ⟨0, 0⟩ :: Journey.sense),
        ¬ JourneyStep.Returns taken) ∧
      (∃ taken ∈ Journey.run (Journey.order ⟨1, 1⟩ :: Journey.order ⟨0, 0⟩ :: Journey.sense),
        EcDe.reports (JourneyStep.acts taken) = [⟨1, 1⟩] ∧ taken.after.latest = some ⟨0, 0⟩) ∧
      ¬ ∀ taken ∈ Journey.run (Journey.order ⟨1, 1⟩ :: Journey.order ⟨0, 0⟩ :: Journey.sense),
        JourneyStep.ObeysLatest taken := by
  decide +kernel

end EasyCab
