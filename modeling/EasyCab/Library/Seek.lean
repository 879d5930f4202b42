import Mathlib.Data.List.Iterate
import Mathlib.Data.Nat.Find

/-!
# Going on to the next stop

A search takes steps until it comes to a stop, at most a given number of them. `seek_eq`
says that it ends at the first stop, `seek_back` that a search the other way undoes it, and
`filter_iterate` that searches one after the other come to the stops on the way, one by one. The
steps need not be those of a ring; only that a stop is always near is asked for.
-/

namespace EasyCab.Library

variable {Place : Type} (step : Place → Place) (stop : Place → Bool)

/-- Take steps up to the first stop, but no more than a given number of them. -/
def seek : Nat → Place → Place
  | 0, place => place
  | fuel + 1, place => if stop (step place) then step place else seek fuel (step place)

/-- The first stop is so many steps away, not counting the first one. -/
def FirstStop (place : Place) (count : Nat) : Prop :=
  stop (step^[count + 1] place) = true ∧ ∀ earlier < count, stop (step^[earlier + 1] place) = false

variable {step stop} {fuel : Nat}

section Undo

variable {back : Place → Place} {Inside : Place → Prop} {place : Place}
  (kept : ∀ place, Inside place → Inside (step place))

include kept

/-- Steps do not leave a set which one step does not leave. -/
theorem iterate_inside (inside : Inside place) (count : Nat) : Inside (step^[count] place) := by
  induction count with
  | zero => exact inside
  | succ count inductionHypothesis =>
      rw [Function.iterate_succ_apply']
      exact kept _ inductionHypothesis

/-- A search does not leave a set which one step does not leave. -/
theorem seek_inside (fuel : Nat) (inside : Inside place) : Inside (seek step stop fuel place) := by
  induction fuel generalizing place with
  | zero => exact inside
  | succ fuel inductionHypothesis =>
      rw [seek]
      split
      · exact kept place inside
      · exact inductionHypothesis (kept place inside)

variable (undo : ∀ place, Inside place → back (step place) = place)

include undo

/-- A step back undoes the last of some steps. -/
theorem back_iterate (inside : Inside place) (count : Nat) :
    back (step^[count + 1] place) = step^[count] place := by
  rw [Function.iterate_succ_apply']
  exact undo _ (iterate_inside kept inside count)

/-- Steps back undo as many steps. -/
theorem iterate_back_iterate (inside : Inside place) (count : Nat) :
    back^[count] (step^[count] place) = place := by
  induction count with
  | zero => rfl
  | succ count inductionHypothesis =>
      rw [Function.iterate_succ_apply back, back_iterate kept undo inside, inductionHypothesis]

end Undo

/-- Where a stop is near, there is a first one. -/
theorem exists_firstStop {place : Place} {count : Nat}
    (near : stop (step^[count + 1] place) = true) :
    ∃ first ≤ count, FirstStop step stop place first := by
  have found : ∃ count, stop (step^[count + 1] place) = true := ⟨count, near⟩
  refine ⟨Nat.find found, Nat.find_min' found near, Nat.find_spec found, fun earlier before => ?_⟩
  exact Bool.eq_false_of_not_eq_true (Nat.find_min found before)

/-- A search ends at the first stop if it is near enough. -/
theorem seek_eq {place : Place} {count : Nat} (enough : count < fuel)
    (first : FirstStop step stop place count) : seek step stop fuel place = step^[count + 1] place := by
  induction fuel generalizing place count with
  | zero => omega
  | succ fuel inductionHypothesis =>
      cases count with
      | zero => exact if_pos first.1
      | succ count =>
          have passes : ¬ stop (step place) = true := by
            simpa using first.2 0 (Nat.succ_pos count)
          rw [seek, if_neg passes, Function.iterate_succ_apply]
          refine inductionHypothesis (Nat.lt_of_succ_lt_succ enough) ⟨first.1, ?_⟩
          intro earlier before
          exact first.2 (earlier + 1) (Nat.succ_lt_succ before)

/-- A search the other way comes back to the stop where the first one began. -/
theorem seek_back {back : Place → Place} {place : Place} {count : Nat} (enough : count < fuel)
    (first : FirstStop step stop place count) (here : stop place = true)
    (undone : ∀ count, back (step^[count + 1] place) = step^[count] place) :
    seek back stop fuel (seek step stop fuel place) = place := by
  have backwards (steps : Nat) (some : steps ≤ count + 1) :
      back^[steps] (step^[count + 1] place) = step^[count + 1 - steps] place := by
    induction steps with
    | zero => rfl
    | succ steps inductionHypothesis =>
        have left : count + 1 - steps = (count + 1 - (steps + 1)) + 1 := by omega
        rw [Function.iterate_succ_apply', inductionHypothesis (by omega), left, undone]
  rw [seek_eq enough first]
  have whole := backwards (count + 1) (Nat.le_refl _)
  rw [Nat.sub_self, Function.iterate_zero_apply] at whole
  rw [seek_eq enough ⟨by rw [whole, here], fun earlier before => ?_⟩, whole]
  rw [backwards (earlier + 1) (by omega)]
  have left : count + 1 - (earlier + 1) = (count - earlier - 1) + 1 := by omega
  rw [left]
  exact first.2 _ (by omega)

/-- Where the next place is no stop, a search may as well begin there. -/
theorem seek_step {place : Place} {count : Nat} (enough : count < fuel)
    (first : FirstStop step stop place count) (passes : stop (step place) = false) :
    seek step stop fuel (step place) = seek step stop fuel place := by
  cases count with
  | zero =>
      have stops : stop (step place) = true := first.1
      rw [passes] at stops
      cases stops
  | succ count =>
      rw [seek_eq enough first]
      refine seek_eq (Nat.lt_of_succ_lt enough) ⟨first.1, fun earlier before => ?_⟩
      exact first.2 (earlier + 1) (Nat.succ_lt_succ before)

/-- Searches one after the other come to the stops on the way, in their order. -/
theorem filter_iterate (near : ∀ place, ∃ count < fuel, FirstStop step stop place count)
    (steps : Nat) (place : Place) :
    (List.iterate step (step place) steps).filter stop =
      List.iterate (seek step stop fuel) (seek step stop fuel place)
        ((List.iterate step (step place) steps).countP stop) := by
  induction steps generalizing place with
  | zero => rfl
  | succ steps inductionHypothesis =>
      obtain ⟨count, enough, first⟩ := near place
      rw [List.iterate]
      cases stops : stop (step place) with
      | true =>
          have arrives : seek step stop fuel place = step place :=
            seek_eq (Nat.lt_of_le_of_lt (Nat.zero_le count) enough)
              ⟨stops, fun earlier before => absurd before (Nat.not_lt_zero _)⟩
          rw [List.filter_cons_of_pos stops, List.countP_cons_of_pos stops, List.iterate, arrives,
            inductionHypothesis]
      | false =>
          have passes : ¬ stop (step place) = true := by simp [stops]
          rw [List.filter_cons_of_neg passes, List.countP_cons_of_neg passes, inductionHypothesis,
            seek_step enough first stops]

end EasyCab.Library
