import EasyCab.Library.Effect

/-!
# Two runs of one computation

`Couples` compares the runs of one computation from two related states: both end with one value, or
in one fault, what they record looks the same through a view of the acts, and the states in which
they end are related again. A relation between states says what the two runs share. It may grow
along a sequence, where the computation writes what was not shared before, so each rule of
`Couples` has a relation before and one after.
-/

namespace EasyCab.Library.Effect

variable {State Fault Act View Value Result : Type}

/-- What two runs of one computation come to. -/
inductive Paired (view : Act → View) (Post : Value → State → State → Prop) :
    Except (Crash State Fault Act) (Outcome State Act Value) →
      Except (Crash State Fault Act) (Outcome State Act Value) → Prop where
  | ended {value : Value} {first second : State} {firstActs secondActs : List Act}
      (acts : firstActs.map view = secondActs.map view) (post : Post value first second) :
      Paired view Post (.ok ⟨value, first, firstActs⟩) (.ok ⟨value, second, secondActs⟩)
  | died {fault : Fault} {first second : State} {firstActs secondActs : List Act}
      (acts : firstActs.map view = secondActs.map view) :
      Paired view Post (.error ⟨fault, first, firstActs⟩) (.error ⟨fault, second, secondActs⟩)

/-- From states which share what `Pre` says, two runs look the same and end in states which share
what `Post` says. -/
def Couples (view : Act → View) (Pre : State → State → Prop)
    (effect : Effect State Fault Act Value) (Post : Value → State → State → Prop) : Prop :=
  ∀ first second, Pre first second → Paired view Post (effect first) (effect second)

variable {view : Act → View} {Pre : State → State → Prop} {Post : Value → State → State → Prop}

theorem couples_pure {value : Value} (post : ∀ first second, Pre first second → Post value first second) :
    Couples view Pre (pure value : Effect State Fault Act Value) Post :=
  fun first second pre => .ended rfl (post first second pre)

theorem couples_modify {update : State → State} {Post : Unit → State → State → Prop}
    (post : ∀ first second, Pre first second → Post () (update first) (update second)) :
    Couples view Pre (modify update : Effect State Fault Act Unit) Post :=
  fun first second pre => .ended rfl (post first second pre)

theorem couples_record {act : Act} {Post : Unit → State → State → Prop}
    (post : ∀ first second, Pre first second → Post () first second) :
    Couples view Pre (record act : Effect State Fault Act Unit) Post :=
  fun first second pre => .ended rfl (post first second pre)

/-- A value is there in both runs or in none. -/
theorem couples_demand {value : Except Fault Value}
    (post : ∀ taken first second, Pre first second → Post taken first second) :
    Couples view Pre (demand value : Effect State Fault Act Value) Post := by
  intro first second pre
  cases value with
  | error fault => exact .died rfl
  | ok taken => exact .ended rfl (post taken first second pre)

/-- A sequence couples what its parts couple one after the other. -/
theorem Couples.bind {first : Effect State Fault Act Value}
    {next : Value → Effect State Fault Act Result} {Mid : Value → State → State → Prop}
    {Post : Result → State → State → Prop} (couplesFirst : Couples view Pre first Mid)
    (couplesNext : ∀ value, Couples view (Mid value) (next value) Post) :
    Couples view Pre (first >>= next) Post := by
  intro one other pre
  change Paired view Post (andThen first next one) (andThen first next other)
  unfold andThen
  have paired := couplesFirst one other pre
  generalize first one = ranOne at paired ⊢
  generalize first other = ranOther at paired ⊢
  cases paired with
  | died acts => exact .died acts
  | @ended value state state' early early' acts mid =>
      have rest := couplesNext value state state' mid
      simp only
      generalize next value state = last at rest ⊢
      generalize next value state' = last' at rest ⊢
      cases rest with
      | died later => exact .died (by rw [List.map_append, List.map_append, acts, later])
      | ended later post => exact .ended (by rw [List.map_append, List.map_append, acts, later]) post

/-- Less may be shared afterwards. -/
theorem Couples.weaken {effect : Effect State Fault Act Value} {Weak : Value → State → State → Prop}
    (couples : Couples view Pre effect Post)
    (weak : ∀ value first second, Post value first second → Weak value first second) :
    Couples view Pre effect Weak := by
  intro first second pre
  have paired := couples first second pre
  generalize effect first = ranFirst at paired ⊢
  generalize effect second = ranSecond at paired ⊢
  cases paired with
  | ended acts post => exact .ended acts (weak _ _ _ post)
  | died acts => exact .died acts

/-- What two runs record looks the same, also where they fault. -/
theorem Couples.acts {effect : Effect State Fault Act Value} (couples : Couples view Pre effect Post)
    {first second : State} (pre : Pre first second) :
    (effect.acts first).map view = (effect.acts second).map view := by
  have paired := couples first second pre
  unfold Effect.acts
  generalize effect first = ranFirst at paired ⊢
  generalize effect second = ranSecond at paired ⊢
  cases paired with
  | ended acts => exact acts
  | died acts => exact acts

end EasyCab.Library.Effect
