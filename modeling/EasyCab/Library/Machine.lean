/-!
# Runs of a deterministic machine

A machine takes one labelled step at a time and may refuse a step. A run is the
list of the transitions which a list of events drives it through; it ends early
where a step is refused. `Machine.run_invariant` is the induction every safety
proof uses, with a guard each transition of the run is known to meet.
`Machine.run_exact` is its two-sided form: where a guard is exactly what one
step needs to stay good, it is exactly what a whole run needs; `Machine.run_always` and
`Machine.run_exactly` are for runs of which nothing is known. `Machine.run_unused` is
for labels which no two events share.
-/

namespace EasyCab.Library

universe u v w

/-- A machine whose every step is determined by its event; `none` refuses the step. -/
structure Machine (State : Type u) (Event : Type v) where
  step : State → Event → Option State

/-- One step as data: the state it left, its event, and the state it reached. -/
structure Transition (State : Type u) (Event : Type v) where
  before : State
  event : Event
  after : State

namespace Machine

variable {State : Type u} {Event : Type v} (machine : Machine State Event)

/-- The transitions of the run which `events` drives from `state`. -/
def run (state : State) : List Event → List (Transition State Event)
  | [] => []
  | event :: events =>
      match machine.step state event with
      | none => []
      | some next => ⟨state, event, next⟩ :: run next events

/-- The state reached after every event, if no step is refused. -/
def exec (state : State) : List Event → Option State
  | [] => some state
  | event :: events =>
      match machine.step state event with
      | none => none
      | some next => exec next events

/-- `state` is reached from `start` by some list of events. -/
def Reachable (start state : State) : Prop :=
  ∃ events, machine.exec start events = some state

variable {machine}

/-- Every transition of a run is a step of the machine. -/
theorem run_step {state : State} {events : List Event} {transition : Transition State Event}
    (member : transition ∈ machine.run state events) :
    machine.step transition.before transition.event = some transition.after := by
  induction events generalizing state with
  | nil => simp [run] at member
  | cons event events inductionHypothesis =>
      cases stepped : machine.step state event with
      | none => simp [run, stepped] at member
      | some next =>
          simp only [run, stepped, List.mem_cons] at member
          rcases member with rfl | later
          · exact stepped
          · exact inductionHypothesis later

/-- A guarded invariant holds before and after every transition of a guarded run. -/
theorem run_invariant (Inv : State → Prop) {Guard : Transition State Event → Prop}
    (preserved : ∀ transition : Transition State Event,
      machine.step transition.before transition.event = some transition.after →
      Guard transition → Inv transition.before → Inv transition.after)
    {state : State} {events : List Event} (start : Inv state)
    (guarded : ∀ transition ∈ machine.run state events, Guard transition) :
    ∀ transition ∈ machine.run state events, Inv transition.before ∧ Inv transition.after := by
  induction events generalizing state with
  | nil => simp [run]
  | cons event events inductionHypothesis =>
      cases stepped : machine.step state event with
      | none => simp [run, stepped]
      | some next =>
          simp only [run, stepped, List.forall_mem_cons] at guarded ⊢
          have holds : Inv next := preserved ⟨state, event, next⟩ stepped guarded.1 start
          exact ⟨⟨start, holds⟩, inductionHypothesis holds guarded.2⟩

/-- An invariant which every step keeps holds before and after every transition of a run. -/
theorem run_always (Inv : State → Prop)
    (preserved : ∀ transition : Transition State Event,
      machine.step transition.before transition.event = some transition.after →
      Inv transition.before → Inv transition.after)
    {state : State} {events : List Event} (start : Inv state) :
    ∀ transition ∈ machine.run state events, Inv transition.before ∧ Inv transition.after := by
  have unguarded : ∀ transition ∈ machine.run state events, True := fun _ _ => trivial
  exact run_invariant Inv (fun transition stepped _ => preserved transition stepped) start unguarded

/-- An invariant which allowed events keep holds after an execution of such events. -/
theorem exec_invariant (Inv : State → Prop) {Allowed : Event → Prop}
    (preserved : ∀ state event next, machine.step state event = some next → Allowed event →
      Inv state → Inv next)
    {start state : State} {events : List Event} (initial : Inv start)
    (allowed : ∀ event ∈ events, Allowed event) (executed : machine.exec start events = some state) :
    Inv state := by
  induction events generalizing start with
  | nil =>
      cases executed
      exact initial
  | cons event events inductionHypothesis =>
      rw [List.forall_mem_cons] at allowed
      cases stepped : machine.step start event with
      | none => simp [exec, stepped] at executed
      | some next =>
          simp only [exec, stepped] at executed
          have holds : Inv next := preserved _ _ _ stepped allowed.1 initial
          exact inductionHypothesis holds allowed.2 executed

/-- An invariant which every event keeps holds of every reachable state. -/
theorem reachable_invariant (Inv : State → Prop)
    (preserved : ∀ state event next, machine.step state event = some next →
      Inv state → Inv next)
    {start state : State} (initial : Inv start) (reachable : machine.Reachable start state) :
    Inv state := by
  obtain ⟨events, executed⟩ := reachable
  refine @exec_invariant _ _ machine Inv (fun _ => True) ?_ _ _ _ initial (fun _ _ => trivial)
    executed
  exact fun state event next stepped _ => preserved state event next stepped

/-- Where, under an invariant, a transition is good exactly when it meets its guard
and a guarded transition keeps the invariant, a run is good throughout exactly when
every one of its transitions meets the guard. `Side` is what the run is known to
satisfy anyway. -/
theorem run_exact (Inv : State → Prop) {Side Guard Good : Transition State Event → Prop}
    (exactly : ∀ transition : Transition State Event,
      machine.step transition.before transition.event = some transition.after →
      Side transition → Inv transition.before → (Good transition ↔ Guard transition))
    (preserved : ∀ transition : Transition State Event,
      machine.step transition.before transition.event = some transition.after →
      Side transition → Guard transition → Inv transition.before → Inv transition.after)
    {state : State} {events : List Event} (start : Inv state)
    (side : ∀ transition ∈ machine.run state events, Side transition) :
    (∀ transition ∈ machine.run state events, Good transition) ↔
      ∀ transition ∈ machine.run state events, Guard transition := by
  induction events generalizing state with
  | nil => simp [run]
  | cons event events inductionHypothesis =>
      cases stepped : machine.step state event with
      | none => simp [run, stepped]
      | some next =>
          simp only [run, stepped, List.forall_mem_cons] at side ⊢
          have first := exactly ⟨state, event, next⟩ stepped side.1 start
          -- Both sides give the first guard, and it carries the invariant to the rest.
          constructor
          · rintro ⟨good, rest⟩
            have guard := first.mp good
            have holds := preserved ⟨state, event, next⟩ stepped side.1 guard start
            exact ⟨guard, (inductionHypothesis holds side.2).mp rest⟩
          · rintro ⟨guard, rest⟩
            have holds := preserved ⟨state, event, next⟩ stepped side.1 guard start
            exact ⟨first.mpr guard, (inductionHypothesis holds side.2).mpr rest⟩

/-- Where, under an invariant, a transition is good exactly when it meets its guard and a guarded
transition keeps the invariant, a run is good throughout exactly when all its transitions meet their
guards. -/
theorem run_exactly (Inv : State → Prop) {Guard Good : Transition State Event → Prop}
    (exactly : ∀ transition : Transition State Event,
      machine.step transition.before transition.event = some transition.after →
      Inv transition.before → (Good transition ↔ Guard transition))
    (preserved : ∀ transition : Transition State Event,
      machine.step transition.before transition.event = some transition.after →
      Guard transition → Inv transition.before → Inv transition.after)
    {state : State} {events : List Event} (start : Inv state) :
    (∀ transition ∈ machine.run state events, Good transition) ↔
      ∀ transition ∈ machine.run state events, Guard transition := by
  have unguarded : ∀ transition ∈ machine.run state events, True := fun _ _ => trivial
  apply run_exact Inv _ _ start unguarded
  · intro transition stepped _
    exact exactly transition stepped
  · intro transition stepped _
    exact preserved transition stepped

/-! ### Parts of a run -/

/-- A run takes its events in their order, up to the step that is refused. -/
theorem run_events_prefix (state : State) (events : List Event) :
    (machine.run state events).map Transition.event <+: events := by
  induction events generalizing state with
  | nil => exact List.nil_prefix
  | cons event events inductionHypothesis =>
      cases stepped : machine.step state event with
      | none => simp [run, stepped]
      | some next =>
          simp only [run, stepped, List.map_cons, List.prefix_cons_inj]
          exact inductionHypothesis next

/-- A run begins with a step from its state and goes on from where the step leads. -/
theorem run_eq_cons {state : State} {events : List Event} {first : Transition State Event}
    {later : List (Transition State Event)} (begins : machine.run state events = first :: later) :
    first.before = state ∧ machine.step first.before first.event = some first.after ∧
      ∃ rest, later = machine.run first.after rest := by
  cases events with
  | nil => cases begins
  | cons event events =>
      cases stepped : machine.step state event with
      | none => simp [run, stepped] at begins
      | some next =>
          simp only [run, stepped, List.cons.injEq] at begins
          obtain ⟨rfl, rfl⟩ := begins
          exact ⟨rfl, stepped, events, rfl⟩

/-- What follows a transition of a run is a run from where the transition leads. -/
theorem run_after {state : State} {events : List Event} {earlier later : List (Transition State Event)}
    {taken : Transition State Event} (split : machine.run state events = earlier ++ taken :: later) :
    ∃ rest, later = machine.run taken.after rest := by
  induction earlier generalizing state events with
  | nil => exact (run_eq_cons split).2.2
  | cons first earlier inductionHypothesis =>
      obtain ⟨_, _, rest, continues⟩ := run_eq_cons split
      exact inductionHypothesis continues.symm

/-- A property which all transitions before it keep holds where a transition of a run starts. -/
theorem run_before (Inv : State → Prop) {state : State} {events : List Event}
    {earlier later : List (Transition State Event)} {taken : Transition State Event}
    (split : machine.run state events = earlier ++ taken :: later) (start : Inv state)
    (kept : ∀ transition ∈ earlier, machine.step transition.before transition.event =
      some transition.after → Inv transition.before → Inv transition.after) : Inv taken.before := by
  induction earlier generalizing state events with
  | nil =>
      rw [(run_eq_cons split).1]
      exact start
  | cons first earlier inductionHypothesis =>
      obtain ⟨rfl, stepped, rest, continues⟩ := run_eq_cons split
      rw [List.forall_mem_cons] at kept
      exact inductionHypothesis continues.symm (kept.1 stepped start) kept.2

/-- Where the labels of the events are distinct, and an event leaves all labels but its own
unused, the label of an event is unused up to its transition. -/
theorem run_unused {Label : Type w} (label? : Event → Option Label)
    (Unused : State → Label → Prop)
    (kept : ∀ transition : Transition State Event,
      machine.step transition.before transition.event = some transition.after →
      ∀ label, label? transition.event ≠ some label → Unused transition.before label →
        Unused transition.after label)
    {state : State} {events : List Event} (distinct : (events.filterMap label?).Nodup)
    (unused : ∀ label ∈ events.filterMap label?, Unused state label) :
    ∀ transition ∈ machine.run state events, ∀ label ∈ label? transition.event,
      Unused transition.before label := by
  induction events generalizing state with
  | nil => simp [run]
  | cons event events inductionHypothesis =>
      cases stepped : machine.step state event with
      | none => simp [run, stepped]
      | some next =>
          rw [run, stepped, List.forall_mem_cons]
          have here := kept ⟨state, event, next⟩ stepped
          cases labelled : label? event with
          | none =>
              rw [List.filterMap_cons_none labelled] at distinct unused
              refine ⟨by simp, inductionHypothesis distinct fun label member => ?_⟩
              exact here label (by simp [labelled]) (unused label member)
          | some own =>
              rw [List.filterMap_cons_some labelled] at distinct unused
              rw [List.nodup_cons] at distinct
              rw [List.forall_mem_cons] at unused
              refine ⟨fun label member => ?_, inductionHypothesis distinct.2 fun label member => ?_⟩
              · obtain rfl : own = label := by simpa [labelled] using member
                exact unused.1
              · have other : own ≠ label := fun same => distinct.1 (same ▸ member)
                exact here label (by simpa [labelled] using other) (unused.2 label member)

end Machine

/-! ### Traces

A trace lists what was seen, newest first. An observer is folded over it from its
oldest entry on. -/

section Traces

variable {Act : Type u} {Seen : Type v}

/-- What an observer has seen after a trace. -/
def observe (note : Act → Seen → Seen) (seen : Seen) (trace : List Act) : Seen :=
  trace.foldr note seen

variable {note : Act → Seen → Seen} {seen : Seen}

@[simp] theorem observe_nil : observe note seen [] = seen := rfl

@[simp] theorem observe_cons (act : Act) (trace : List Act) :
    observe note seen (act :: trace) = note act (observe note seen trace) := rfl

/-- An observer which takes no note of the latest entries has seen what came before. -/
theorem observe_append_ignored {latest trace : List Act}
    (ignored : ∀ act ∈ latest, ∀ before, note act before = before) :
    observe note seen (latest ++ trace) = observe note seen trace := by
  induction latest with
  | nil => rfl
  | cons act latest inductionHypothesis =>
      rw [List.forall_mem_cons] at ignored
      rw [List.cons_append, observe_cons, ignored.1, inductionHypothesis ignored.2]

end Traces

end EasyCab.Library
