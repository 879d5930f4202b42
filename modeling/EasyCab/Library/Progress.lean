import Mathlib.Data.Prod.Lex
import EasyCab.Library.Machine

/-!
# Progress under a fair schedule

A schedule offers a machine one event after the other, and what the machine refuses is passed over.
Where no offered event makes a state go back from the stage which it is at, and at every stage some
kind of event makes it go on, a schedule which offers every kind again and again leads to the goal
(`Machine.goal_reached`). The stages are ranked in a well-founded order, so a stage may be as far
from the next one as it likes.

What a stage waits for is often an item of a queue. `Awaits` says which one it is, and how many come
before it.
-/

namespace EasyCab.Library

universe u v w x

/-! ### Items of a queue -/

section Queue

variable {Item : Type u} {Marked : Item → Prop}

/-- No item of the queue is marked. -/
def Clear (Marked : Item → Prop) (queue : List Item) : Prop := ∀ item ∈ queue, ¬ Marked item

/-- One item of the queue is marked, and so many come before it. -/
structure Awaits (Marked : Item → Prop) (queue : List Item) (item : Item) (behind : Nat) : Prop where
  marked : Marked item
  split : ∃ earlier later, queue = earlier ++ item :: later ∧ earlier.length = behind ∧
    Clear Marked earlier ∧ Clear Marked later

theorem clear_nil : Clear Marked [] := List.forall_mem_nil _

theorem clear_cons {item : Item} {queue : List Item} :
    Clear Marked (item :: queue) ↔ ¬ Marked item ∧ Clear Marked queue := List.forall_mem_cons

theorem Clear.append {queue more : List Item} (clear : Clear Marked queue)
    (clearMore : Clear Marked more) : Clear Marked (queue ++ more) :=
  List.forall_mem_append.mpr ⟨clear, clearMore⟩

/-- A marked item which is put into a clear queue is waited for behind all the others. -/
theorem Clear.await {queue more : List Item} {item : Item} (clear : Clear Marked queue)
    (marked : Marked item) (clearMore : Clear Marked more) :
    Awaits Marked (queue ++ item :: more) item queue.length :=
  ⟨marked, queue, more, rfl, rfl, clear, clearMore⟩

variable {queue : List Item} {item : Item} {behind : Nat}

/-- What is put into the queue later changes nothing. -/
theorem Awaits.append {more : List Item} (awaits : Awaits Marked queue item behind)
    (clearMore : Clear Marked more) : Awaits Marked (queue ++ more) item behind := by
  obtain ⟨marked, earlier, later, rfl, rfl, clearEarlier, clearLater⟩ := awaits
  exact ⟨marked, earlier, later ++ more, by simp, rfl, clearEarlier, clearLater.append clearMore⟩

/-- The head of the queue is what is waited for, or one fewer comes before that. -/
theorem Awaits.pop {head : Item} (awaits : Awaits Marked (head :: queue) item behind) :
    head = item ∧ Clear Marked queue ∨
      ¬ Marked head ∧ ∃ fewer < behind, Awaits Marked queue item fewer := by
  obtain ⟨marked, earlier, later, split, rfl, clearEarlier, clearLater⟩ := awaits
  cases earlier with
  | nil =>
      obtain ⟨rfl, rfl⟩ := List.cons.inj split
      exact .inl ⟨rfl, clearLater⟩
  | cons first earlier =>
      obtain ⟨rfl, rfl⟩ := List.cons.inj split
      obtain ⟨unmarked, clear⟩ := clear_cons.mp clearEarlier
      exact .inr ⟨unmarked, earlier.length, Nat.lt_succ_self _, marked, earlier, later, rfl, rfl,
        clear, clearLater⟩

/-- What is waited for is in the queue. -/
theorem Awaits.mem (awaits : Awaits Marked queue item behind) : item ∈ queue := by
  obtain ⟨_, earlier, later, rfl, _⟩ := awaits
  simp

/-- There is something to wait for. -/
theorem Awaits.ne_nil (awaits : Awaits Marked queue item behind) : queue ≠ [] :=
  List.ne_nil_of_mem awaits.mem

end Queue

/-! ### Schedules -/

/-- Events of this kind are scheduled again and again. -/
def Recurs {Event : Type u} (schedule : Nat → Event) (Kind : Event → Prop) : Prop :=
  ∀ time, ∃ later, time ≤ later ∧ Kind (schedule later)

/-- What is scheduled again and again is so from any time on. -/
theorem Recurs.later {Event : Type u} {schedule : Nat → Event} {Kind : Event → Prop}
    (recurs : Recurs schedule Kind) (first : Nat) :
    Recurs (fun time => schedule (first + time)) Kind := by
  intro time
  obtain ⟨later, passed, kind⟩ := recurs (first + time)
  have same : first + (later - first) = later := Nat.add_sub_cancel' (by omega)
  refine ⟨later - first, by omega, ?_⟩
  simp only [same]
  exact kind

namespace Machine

variable {State : Type u} {Event : Type v} (machine : Machine State Event)

/-- An event is offered, and passed over where it is refused. -/
def offer (state : State) (event : Event) : State := (machine.step state event).getD state

/-- The state after so many events of the schedule. -/
def under (schedule : Nat → Event) (start : State) : Nat → State
  | 0 => start
  | time + 1 => machine.offer (under schedule start time) (schedule time)

variable {machine}

theorem offer_of_step {state next : State} {event : Event}
    (stepped : machine.step state event = some next) : machine.offer state event = next := by
  rw [offer, stepped, Option.getD_some]

theorem offer_of_refused {state : State} {event : Event} (refused : machine.step state event = none) :
    machine.offer state event = state := by
  rw [offer, refused, Option.getD_none]

/-- What every event of the schedule keeps holds all the time. -/
theorem under_always {schedule : Nat → Event} {start : State} {Inv : State → Prop}
    (kept : ∀ time state, Inv state → Inv (machine.offer state (schedule time)))
    (initial : Inv start) (time : Nat) : Inv (machine.under schedule start time) := by
  induction time with
  | zero => exact initial
  | succ time inductionHypothesis => exact kept time _ inductionHypothesis

/-- The schedule from some time on is a schedule from the state which is reached then. -/
theorem under_add {schedule : Nat → Event} {start : State} (time more : Nat) :
    machine.under schedule start (time + more) =
      machine.under (fun later => schedule (time + later)) (machine.under schedule start time) more := by
  induction more with
  | zero => rfl
  | succ more inductionHypothesis =>
      rw [Nat.add_succ, under, inductionHypothesis]
      rfl

/-- What does not hold at first and holds at some time begins to hold with some event. -/
theorem begins_to_hold {schedule : Nat → Event} {start : State} {Holds : State → Prop}
    (not_yet : ¬ Holds start) {due : Nat} (holds : Holds (machine.under schedule start due)) :
    ∃ time, ¬ Holds (machine.under schedule start time) ∧
      Holds (machine.under schedule start (time + 1)) := by
  induction due with
  | zero => exact absurd holds not_yet
  | succ due inductionHypothesis =>
      by_cases earlier : Holds (machine.under schedule start due)
      · exact inductionHypothesis earlier
      · exact ⟨due, earlier, holds⟩

/-- What is offered leads to the goal, or to a stage which is no earlier; where it is of the kind
which helps at this stage, to a later one. -/
def Progresses {Stage : Type w} {Rank : Type x} [LT Rank] (machine : Machine State Event)
    (At : Stage → State → Prop) (Goal : State → Prop) (rank : Stage → Rank)
    (Helps : Stage → Event → Prop) (state : State) (event : Event) : Prop :=
  ∀ stage, At stage state → Goal (machine.offer state event) ∨
    ∃ next, At next (machine.offer state event) ∧
      (rank next < rank stage ∨ next = stage ∧ ¬ Helps stage event)

section Progress

variable {Stage : Type w} {Rank : Type x} [LT Rank]
  {At : Stage → State → Prop} {Goal : State → Prop} {rank : Stage → Rank}
  {Helps : Stage → Event → Prop} {schedule : Nat → Event} {start : State}

/-- As long as nothing helps, a state stays at its stage, unless it comes to a later one or to the
goal. -/
theorem stays_at (progress : ∀ time, machine.Progresses At Goal rank Helps
      (machine.under schedule start time) (schedule time))
    {stage : Stage} {time later : Nat} (holds : At stage (machine.under schedule start time))
    (passed : time ≤ later) :
    (∃ due, Goal (machine.under schedule start due)) ∨
      (∃ due next, At next (machine.under schedule start due) ∧ rank next < rank stage) ∨
        At stage (machine.under schedule start later) := by
  induction later, passed using Nat.le_induction with
  | base => exact .inr (.inr holds)
  | succ later passed inductionHypothesis =>
      rcases inductionHypothesis with goal | lower | still
      · exact .inl goal
      · exact .inr (.inl lower)
      · rcases progress later stage still with goal | ⟨next, here, lower | ⟨rfl, _⟩⟩
        · exact .inl ⟨later + 1, goal⟩
        · exact .inr (.inl ⟨later + 1, next, here, lower⟩)
        · exact .inr (.inr here)

variable [WellFoundedLT Rank]

/-- A schedule which offers what helps at every stage again and again leads to the goal. -/
theorem goal_reached (progress : ∀ time, machine.Progresses At Goal rank Helps
      (machine.under schedule start time) (schedule time))
    (fair : ∀ stage, Recurs schedule (Helps stage)) {stage : Stage} {time : Nat}
    (holds : At stage (machine.under schedule start time)) :
    ∃ due, Goal (machine.under schedule start due) := by
  induction ranked : rank stage using WellFoundedLT.induction generalizing stage time with
  | ind here inductionHypothesis =>
      subst ranked
      obtain ⟨later, passed, helps⟩ := fair stage time
      rcases stays_at progress holds passed with goal | ⟨due, next, there, lower⟩ | still
      · exact goal
      · exact inductionHypothesis _ lower there rfl
      · rcases progress later stage still with goal | ⟨next, there, lower | ⟨_, idle⟩⟩
        · exact ⟨later + 1, goal⟩
        · exact @inductionHypothesis _ lower next (later + 1) there rfl
        · exact absurd helps idle

end Progress

end Machine

end EasyCab.Library
