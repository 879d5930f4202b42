import EasyCab.Library.Machine

/-!
# Simulation of a machine by a system with choices

A `Path` goes through a system whose steps need not be determined: each step answers a
call and says some words. A machine refines such a system through an abstraction of its
states where each of its transitions is one of the system's steps, and then every run of
the machine is a path (`Machine.path_of_run`). What holds of all paths holds of all runs.
-/

namespace EasyCab.Library

universe u v w x y

section Path

variable {State : Type u} {Call : Type v} {Word : Type w}
  {Step : State → Call → State → List Word → Prop}

/-- Steps one after the other: the calls they answer, and all that they say. -/
inductive Path (Step : State → Call → State → List Word → Prop) :
    State → List Call → State → List Word → Prop where
  | stay (state : State) : Path Step state [] state []
  | move {state middle last : State} {call : Call} {calls : List Call} {said more : List Word}
      (step : Step state call middle said) (rest : Path Step middle calls last more) :
      Path Step state (call :: calls) last (said ++ more)

/-- Where each step pays no more than it earns and saves, so does a whole path. -/
theorem Path.countP_le {saved : State → Nat} {paid earned : Word → Bool}
    (thrifty : ∀ state call next said, Step state call next said →
      saved next + said.countP paid ≤ saved state + said.countP earned)
    {first last : State} {calls : List Call} {said : List Word}
    (path : Path Step first calls last said) :
    saved last + said.countP paid ≤ saved first + said.countP earned := by
  induction path with
  | stay state => simp
  | @move state middle last call calls said more step rest inductionHypothesis =>
      have here := thrifty state call middle said step
      rw [List.countP_append, List.countP_append]
      omega

end Path

namespace Machine

variable {State : Type u} {Event : Type v} {machine : Machine State Event}

/-- Where a run ends. -/
def last (machine : Machine State Event) (state : State) (events : List Event) : State :=
  ((machine.run state events).getLast?).elim state (·.after)

/-- A run which takes a step begins with it. -/
theorem run_cons {state next : State} {event : Event} {events : List Event}
    (stepped : machine.step state event = some next) :
    machine.run state (event :: events) = ⟨state, event, next⟩ :: machine.run next events := by
  simp [run, stepped]

/-- A run which takes a step ends where the run after the step does. -/
theorem last_cons {state next : State} {event : Event} {events : List Event}
    (stepped : machine.step state event = some next) :
    machine.last state (event :: events) = machine.last next events := by
  unfold last
  rw [run_cons stepped]
  cases later : machine.run next events with
  | nil => rfl
  | cons taken rest =>
      rw [List.getLast?_cons_cons, List.getLast?_cons]
      rfl

/-- A run whose transitions are steps of a system is a path of the system. -/
theorem path_of_run {Abstract : Type w} {Call : Type x} {Word : Type y}
    {Step : Abstract → Call → Abstract → List Word → Prop} (abstraction : State → Abstract)
    (call : Transition State Event → Call) (said : Transition State Event → List Word)
    {state : State} {events : List Event}
    (simulates : ∀ taken ∈ machine.run state events,
      Step (abstraction taken.before) (call taken) (abstraction taken.after) (said taken)) :
    Path Step (abstraction state) ((machine.run state events).map call)
      (abstraction (machine.last state events)) ((machine.run state events).flatMap said) := by
  induction events generalizing state with
  | nil => exact .stay _
  | cons event events inductionHypothesis =>
      cases stepped : machine.step state event with
      | none =>
          have ended : machine.run state (event :: events) = [] := by simp [run, stepped]
          rw [last, ended]
          exact .stay _
      | some next =>
          rw [run_cons stepped, List.forall_mem_cons] at simulates
          rw [last_cons stepped, run_cons stepped]
          exact .move simulates.1 (inductionHypothesis simulates.2)

/-- What a log gains in each transition of a run, it has gained where the run ends. -/
theorem log_last {Entry : Type w} (log : State → List Entry)
    (added : Transition State Event → List Entry) {state : State} {events : List Event}
    (grows : ∀ taken ∈ machine.run state events, log taken.after = log taken.before ++ added taken) :
    log (machine.last state events) = log state ++ (machine.run state events).flatMap added := by
  induction events generalizing state with
  | nil => simp [last, run]
  | cons event events inductionHypothesis =>
      cases stepped : machine.step state event with
      | none => simp [last, run, stepped]
      | some next =>
          rw [run_cons stepped, List.forall_mem_cons] at grows
          rw [last_cons stepped, run_cons stepped, inductionHypothesis grows.2, grows.1,
            List.flatMap_cons, List.append_assoc]

end Machine

end EasyCab.Library
