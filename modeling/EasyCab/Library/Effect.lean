/-!
# Computations which may end the program and record what they do

An `Effect` reads and writes a state, records acts, and may end in a fault which
discards everything after it. The recorded acts are never erased by a later step,
not even by a fault, so a fact about the acts of a whole computation is a fact about
each of its parts: `Effect.bind_eq_ok_iff` splits the outcome of a sequence into the
outcomes of its steps, `Effect.Maintains` carries an invariant and a property of the
acts through a sequence, `Effect.Ends` says that a computation does not fault, and
`Effect.Records` says of which kind all of its acts are.
-/

namespace EasyCab.Library

/-- What a computation which did not fault leaves: a value, a state, and its acts in order. -/
structure Outcome (State Act Value : Type) where
  value : Value
  state : State
  acts : List Act

/-- What a computation which faulted leaves: the fault, and the state and the acts before it. -/
structure Crash (State Fault Act : Type) where
  fault : Fault
  state : State
  acts : List Act

/-- A computation over `State` which records `Act`s and may end in a `Fault`. -/
def Effect (State Fault Act Value : Type) : Type :=
  State → Except (Crash State Fault Act) (Outcome State Act Value)

namespace Effect

variable {State Fault Act Value Result : Type}

/-- Answer a value, leaving the state and recording nothing. -/
def ret (value : Value) : Effect State Fault Act Value := fun state => .ok ⟨value, state, []⟩

/-- Run a computation and then the one its value selects. -/
def andThen (first : Effect State Fault Act Value)
    (next : Value → Effect State Fault Act Result) : Effect State Fault Act Result :=
  fun state =>
    match first state with
    | .error crash => .error crash
    | .ok middle =>
        match next middle.value middle.state with
        | .error crash => .error ⟨crash.fault, crash.state, middle.acts ++ crash.acts⟩
        | .ok last => .ok ⟨last.value, last.state, middle.acts ++ last.acts⟩

instance : Monad (Effect State Fault Act) where
  pure := ret
  bind := andThen

/-- Read the state. -/
def get : Effect State Fault Act State := fun state => .ok ⟨state, state, []⟩

/-- Rewrite the state. -/
def modify (update : State → State) : Effect State Fault Act Unit :=
  fun state => .ok ⟨(), update state, []⟩

/-- Record one act. -/
def record (act : Act) : Effect State Fault Act Unit := fun state => .ok ⟨(), state, [act]⟩

/-- Take a value or end in the fault that stands in its place. -/
def demand (value : Except Fault Value) : Effect State Fault Act Value := fun state =>
  match value with
  | .error fault => .error ⟨fault, state, []⟩
  | .ok value => .ok ⟨value, state, []⟩

/-- Where a computation ends, also by a fault. -/
def last (effect : Effect State Fault Act Value) (state : State) : State :=
  match effect state with
  | .error crash => crash.state
  | .ok outcome => outcome.state

/-- What a computation records, also before a fault. -/
def acts (effect : Effect State Fault Act Value) (state : State) : List Act :=
  match effect state with
  | .error crash => crash.acts
  | .ok outcome => outcome.acts

/-- A computation which did not fault ends where its outcome says, having recorded its acts. -/
theorem last_of_ok {effect : Effect State Fault Act Value} {state : State}
    {outcome : Outcome State Act Value} (ran : effect state = .ok outcome) :
    effect.last state = outcome.state ∧ effect.acts state = outcome.acts := by
  simp [last, acts, ran]

@[simp] theorem pure_eq_ok_iff {value : Value} {state : State} {outcome : Outcome State Act Value} :
    (pure value : Effect State Fault Act Value) state = .ok outcome ↔
      outcome = ⟨value, state, []⟩ := by
  change Except.ok _ = Except.ok _ ↔ _
  rw [Except.ok.injEq, eq_comm]

@[simp] theorem get_eq_ok_iff {state : State} {outcome : Outcome State Act State} :
    (get : Effect State Fault Act State) state = .ok outcome ↔ outcome = ⟨state, state, []⟩ := by
  rw [get, Except.ok.injEq, eq_comm]

@[simp] theorem modify_eq_ok_iff {update : State → State} {state : State}
    {outcome : Outcome State Act Unit} :
    (modify update : Effect State Fault Act Unit) state = .ok outcome ↔
      outcome = ⟨(), update state, []⟩ := by
  rw [modify, Except.ok.injEq, eq_comm]

@[simp] theorem record_eq_ok_iff {act : Act} {state : State} {outcome : Outcome State Act Unit} :
    (record act : Effect State Fault Act Unit) state = .ok outcome ↔
      outcome = ⟨(), state, [act]⟩ := by
  rw [record, Except.ok.injEq, eq_comm]

@[simp] theorem demand_eq_ok_iff {value : Except Fault Value} {state : State}
    {outcome : Outcome State Act Value} :
    (demand value : Effect State Fault Act Value) state = .ok outcome ↔
      ∃ taken, value = .ok taken ∧ outcome = ⟨taken, state, []⟩ := by
  cases value with
  | error fault => simp [demand]
  | ok taken => simp [demand, eq_comm]

/-- A sequence ends well exactly when both of its parts do, and its acts are theirs in order. -/
theorem bind_eq_ok_iff {first : Effect State Fault Act Value}
    {next : Value → Effect State Fault Act Result} {state : State}
    {outcome : Outcome State Act Result} :
    (first >>= next) state = .ok outcome ↔
      ∃ middle last, first state = .ok middle ∧ next middle.value middle.state = .ok last ∧
        outcome = ⟨last.value, last.state, middle.acts ++ last.acts⟩ := by
  change andThen first next state = _ ↔ _
  unfold andThen
  cases ran : first state with
  | error fault => simp
  | ok middle =>
      cases continued : next middle.value middle.state with
      | error fault => simp [continued]
      | ok last => simp [continued, eq_comm]

/-- A sequence records what its first part records and then what its second part does. -/
theorem acts_bind_of_ok {first : Effect State Fault Act Value}
    {next : Value → Effect State Fault Act Result} {state : State} {middle : Outcome State Act Value}
    (ran : first state = .ok middle) :
    (first >>= next).acts state = middle.acts ++ (next middle.value).acts middle.state := by
  change acts (andThen first next) state = _
  unfold acts andThen
  cases continued : next middle.value middle.state <;> simp [ran, continued]

/-- The computation ends well with this outcome and records no `excluded` act. -/
def Yields (excluded : Act → Prop) (effect : Effect State Fault Act Value) (state : State)
    (outcome : Outcome State Act Value) : Prop :=
  effect state = .ok outcome ∧ ∀ act ∈ outcome.acts, ¬ excluded act

section Yields

variable {excluded : Act → Prop} {state : State}

@[simp] theorem yields_pure {value : Value} {outcome : Outcome State Act Value} :
    Yields excluded (pure value : Effect State Fault Act Value) state outcome ↔
      outcome = ⟨value, state, []⟩ := by
  simp only [Yields, pure_eq_ok_iff, and_iff_left_iff_imp]
  rintro rfl act member
  cases member

@[simp] theorem yields_get {outcome : Outcome State Act State} :
    Yields excluded (get : Effect State Fault Act State) state outcome ↔
      outcome = ⟨state, state, []⟩ := by
  simp only [Yields, get_eq_ok_iff, and_iff_left_iff_imp]
  rintro rfl act member
  cases member

@[simp] theorem yields_modify {update : State → State} {outcome : Outcome State Act Unit} :
    Yields excluded (modify update : Effect State Fault Act Unit) state outcome ↔
      outcome = ⟨(), update state, []⟩ := by
  simp only [Yields, modify_eq_ok_iff, and_iff_left_iff_imp]
  rintro rfl act member
  cases member

@[simp] theorem yields_record {act : Act} {outcome : Outcome State Act Unit} :
    Yields excluded (record act : Effect State Fault Act Unit) state outcome ↔
      ¬ excluded act ∧ outcome = ⟨(), state, [act]⟩ := by
  simp only [Yields, record_eq_ok_iff]
  constructor
  · rintro ⟨rfl, allowed⟩
    exact ⟨allowed act List.mem_cons_self, rfl⟩
  · rintro ⟨allowed, rfl⟩
    exact ⟨rfl, by simpa using allowed⟩

@[simp] theorem yields_demand {value : Except Fault Value} {outcome : Outcome State Act Value} :
    Yields excluded (demand value : Effect State Fault Act Value) state outcome ↔
      ∃ taken, value = .ok taken ∧ outcome = ⟨taken, state, []⟩ := by
  simp only [Yields, demand_eq_ok_iff, and_iff_left_iff_imp]
  rintro ⟨taken, _, rfl⟩ act member
  cases member

/-- A sequence records no excluded act exactly when neither of its parts does. -/
@[simp] theorem yields_bind {first : Effect State Fault Act Value}
    {next : Value → Effect State Fault Act Result} {outcome : Outcome State Act Result} :
    Yields excluded (first >>= next) state outcome ↔
      ∃ middle last, Yields excluded first state middle ∧
        Yields excluded (next middle.value) middle.state last ∧
        outcome = ⟨last.value, last.state, middle.acts ++ last.acts⟩ := by
  constructor
  · rintro ⟨ran, allowed⟩
    obtain ⟨middle, last, ranFirst, ranNext, rfl⟩ := bind_eq_ok_iff.mp ran
    refine ⟨middle, last, ⟨ranFirst, ?_⟩, ⟨ranNext, ?_⟩, rfl⟩
    · exact fun act member => allowed act (List.mem_append_left _ member)
    · exact fun act member => allowed act (List.mem_append_right _ member)
  · rintro ⟨middle, last, ⟨ranFirst, allowedFirst⟩, ⟨ranNext, allowedNext⟩, rfl⟩
    refine ⟨bind_eq_ok_iff.mpr ⟨middle, last, ranFirst, ranNext, rfl⟩, ?_⟩
    intro act member
    rcases List.mem_append.mp member with early | late
    · exact allowedFirst act early
    · exact allowedNext act late

end Yields

/-- A computation which ends and records no excluded act yields its outcome. -/
theorem yields_of_ends {excluded : Act → Prop} {effect : Effect State Fault Act Value} {state : State}
    (ends : (effect state).isOk = true) (allowed : ∀ act ∈ effect.acts state, ¬ excluded act) :
    ∃ outcome, Yields excluded effect state outcome ∧ outcome.state = effect.last state ∧
      outcome.acts = effect.acts state := by
  cases ran : effect state with
  | error crash => simp [ran, Except.isOk, Except.toBool] at ends
  | ok outcome =>
      obtain ⟨last, acts⟩ := last_of_ok ran
      rw [acts] at allowed
      exact ⟨outcome, ⟨ran, allowed⟩, last.symm, acts.symm⟩

/-- Started in this state, the computation records allowed acts only, and the invariant holds
where it ends, also where it ends in a fault. -/
def Stays (Inv : State → Prop) (Allowed : Act → Prop) (effect : Effect State Fault Act Value)
    (state : State) : Prop :=
  match effect state with
  | .error crash => Inv crash.state ∧ ∀ act ∈ crash.acts, Allowed act
  | .ok outcome => Inv outcome.state ∧ ∀ act ∈ outcome.acts, Allowed act

/-- The computation keeps an invariant, and records allowed acts only while it holds. -/
def Maintains (Inv : State → Prop) (Allowed : Act → Prop) (effect : Effect State Fault Act Value) :
    Prop :=
  ∀ state, Inv state → Stays Inv Allowed effect state

section Maintains

variable {Inv : State → Prop} {Allowed : Act → Prop}

/-- The invariant and the property of the acts, read off a computation which stays within them. -/
theorem Stays.holds {effect : Effect State Fault Act Value} {state : State}
    (stays : Stays Inv Allowed effect state) :
    Inv (effect.last state) ∧ ∀ act ∈ effect.acts state, Allowed act := by
  unfold Stays at stays
  unfold last acts
  cases ran : effect state with
  | error crash => simpa only [ran] using stays
  | ok outcome => simpa only [ran] using stays

/-- A sequence stays within what its second part stays in, wherever the first part ended, if the
first part stays in something stronger. -/
theorem Stays.bind_into {Narrow : State → Prop} {first : Effect State Fault Act Value}
    {next : Value → Effect State Fault Act Result} {state : State}
    (wider : ∀ state, Narrow state → Inv state) (stays : Stays Narrow Allowed first state)
    (rest : ∀ outcome, first state = .ok outcome → Narrow outcome.state →
      Stays Inv Allowed (next outcome.value) outcome.state) :
    Stays Inv Allowed (first >>= next) state := by
  change match andThen first next state with
    | .error crash => Inv crash.state ∧ ∀ act ∈ crash.acts, Allowed act
    | .ok outcome => Inv outcome.state ∧ ∀ act ∈ outcome.acts, Allowed act
  unfold Stays at stays
  unfold andThen
  cases ran : first state with
  | error crash =>
      simp only [ran] at stays
      exact ⟨wider _ stays.1, stays.2⟩
  | ok middle =>
      simp only [ran] at stays
      obtain ⟨holds, early⟩ := stays
      have later := rest middle ran holds
      unfold Stays at later
      cases continued : next middle.value middle.state with
      | error crash =>
          simp only [continued] at later ⊢
          exact ⟨later.1,
            fun act member => (List.mem_append.mp member).elim (early act) (later.2 act)⟩
      | ok last =>
          simp only [continued] at later ⊢
          exact ⟨later.1,
            fun act member => (List.mem_append.mp member).elim (early act) (later.2 act)⟩

/-- A sequence stays within what its first part stays in and its second part, wherever the first
one ended, stays in. -/
theorem Stays.bind_of {first : Effect State Fault Act Value}
    {next : Value → Effect State Fault Act Result} {state : State}
    (stays : Stays Inv Allowed first state)
    (rest : ∀ outcome, first state = .ok outcome → Inv outcome.state →
      Stays Inv Allowed (next outcome.value) outcome.state) :
    Stays Inv Allowed (first >>= next) state :=
  stays.bind_into (fun _ holds => holds) rest

/-- A sequence stays within what both of its parts stay in. -/
theorem Stays.bind {first : Effect State Fault Act Value}
    {next : Value → Effect State Fault Act Result} {state : State}
    (stays : Stays Inv Allowed first state) (maintains : ∀ value, Maintains Inv Allowed (next value)) :
    Stays Inv Allowed (first >>= next) state :=
  stays.bind_of fun outcome _ holds => maintains outcome.value outcome.state holds

/-- After a rewriting of the state, the rest is to stay within them where it leads. -/
theorem Stays.modify_bind {update : State → State} {next : Unit → Effect State Fault Act Result}
    {state : State} (holds : Inv (update state)) (stays : Stays Inv Allowed (next ()) (update state)) :
    Stays Inv Allowed (modify update >>= next) state := by
  have updated : Stays Inv Allowed (modify update : Effect State Fault Act Unit) state :=
    ⟨holds, by simp⟩
  refine updated.bind_of fun outcome ran _ => ?_
  rw [modify_eq_ok_iff] at ran
  subst ran
  exact stays

/-- Recording an allowed act first changes nothing. -/
theorem Stays.record_bind {act : Act} {next : Unit → Effect State Fault Act Result} {state : State}
    (allowed : Allowed act) (stays : Stays Inv Allowed (next ()) state) :
    Stays Inv Allowed (record act >>= next) state := by
  change match andThen (record act) next state with
    | .error crash => Inv crash.state ∧ ∀ act ∈ crash.acts, Allowed act
    | .ok outcome => Inv outcome.state ∧ ∀ act ∈ outcome.acts, Allowed act
  unfold Stays at stays
  simp only [andThen, record]
  cases ran : next () state with
  | error crash =>
      simp only [ran] at stays
      simpa [allowed] using stays
  | ok last =>
      simp only [ran] at stays
      simpa [allowed] using stays

/-- After a demand, the rest is to stay within them only where the value is there. -/
theorem Stays.demand_bind {value : Except Fault Value} {next : Value → Effect State Fault Act Result}
    {state : State} (holds : Inv state)
    (stays : ∀ taken, value = .ok taken → Stays Inv Allowed (next taken) state) :
    Stays Inv Allowed (demand value >>= next) state := by
  cases value with
  | error fault => exact ⟨holds, by simp⟩
  | ok taken =>
      have rest := stays taken rfl
      change match andThen (demand (.ok taken)) next state with
        | .error crash => Inv crash.state ∧ ∀ act ∈ crash.acts, Allowed act
        | .ok outcome => Inv outcome.state ∧ ∀ act ∈ outcome.acts, Allowed act
      unfold Stays at rest
      simp only [andThen, demand]
      cases ran : next taken state with
      | error crash => simpa [ran] using rest
      | ok last => simpa [ran] using rest

theorem Maintains.bind {first : Effect State Fault Act Value}
    {next : Value → Effect State Fault Act Result} (keepsFirst : Maintains Inv Allowed first)
    (keepsNext : ∀ value, Maintains Inv Allowed (next value)) :
    Maintains Inv Allowed (first >>= next) :=
  fun state holds => (keepsFirst state holds).bind keepsNext

theorem maintains_pure {value : Value} :
    Maintains Inv Allowed (pure value : Effect State Fault Act Value) :=
  fun _ holds => ⟨holds, by simp⟩

theorem maintains_record {act : Act} (allowed : Allowed act) :
    Maintains Inv Allowed (record act : Effect State Fault Act Unit) :=
  fun _ holds => ⟨holds, by simpa using allowed⟩

theorem maintains_modify {update : State → State} (kept : ∀ state, Inv state → Inv (update state)) :
    Maintains Inv Allowed (modify update : Effect State Fault Act Unit) :=
  fun state holds => ⟨kept state holds, by simp⟩

theorem maintains_demand {value : Except Fault Value} :
    Maintains Inv Allowed (demand value : Effect State Fault Act Value) := by
  intro state holds
  cases value with
  | error fault => exact ⟨holds, by simp⟩
  | ok value => exact ⟨holds, by simp⟩

end Maintains

/-- The computation does not fault in this state. -/
def Ends (effect : Effect State Fault Act Value) (state : State) : Prop :=
  ∃ outcome, effect state = .ok outcome

section Ends

variable {state : State} {first : Effect State Fault Act Value}
  {next : Value → Effect State Fault Act Result}

@[simp] theorem ends_pure {value : Value} :
    Ends (pure value : Effect State Fault Act Value) state := ⟨_, rfl⟩

@[simp] theorem ends_record {act : Act} :
    Ends (record act : Effect State Fault Act Unit) state := ⟨_, rfl⟩

/-- After a first part with a known outcome, a sequence ends exactly when its second part
does. -/
theorem ends_bind_iff {middle : Outcome State Act Value} (ran : first state = .ok middle) :
    Ends (first >>= next) state ↔ Ends (next middle.value) middle.state := by
  constructor
  · rintro ⟨outcome, sequence⟩
    obtain ⟨middle', last, ranFirst, ranNext, _⟩ := bind_eq_ok_iff.mp sequence
    cases ran.symm.trans ranFirst
    exact ⟨last, ranNext⟩
  · rintro ⟨last, ranNext⟩
    exact ⟨_, bind_eq_ok_iff.mpr ⟨middle, last, ran, ranNext, rfl⟩⟩

theorem ends_record_bind_iff {act : Act} {after : Unit → Effect State Fault Act Result} :
    Ends (record act >>= after) state ↔ Ends (after ()) state := by
  have recorded : (record act : Effect State Fault Act Unit) state = .ok ⟨(), state, [act]⟩ := rfl
  exact ends_bind_iff recorded

/-- A sequence which demands a value ends exactly when the value is there and the rest ends. -/
theorem ends_demand_bind_iff {value : Except Fault Value} :
    Ends (demand value >>= next) state ↔ ∃ taken, value = .ok taken ∧ Ends (next taken) state := by
  cases value with
  | error fault =>
      refine iff_of_false ?_ (by simp)
      rintro ⟨outcome, sequence⟩
      obtain ⟨_, _, demanded, _⟩ := bind_eq_ok_iff.mp sequence
      obtain ⟨_, taken, _⟩ := demand_eq_ok_iff.mp demanded
      cases taken
  | ok taken =>
      have ran : (demand (.ok taken) : Effect State Fault Act Value) state =
          .ok ⟨taken, state, []⟩ := rfl
      rw [ends_bind_iff ran]
      simp

theorem not_ends_of_error {crash : Crash State Fault Act} (ran : first state = .error crash) :
    ¬ Ends first state := by
  rintro ⟨outcome, ends⟩
  rw [ran] at ends
  cases ends

/-- A sequence whose first part faults records what that part does. -/
theorem acts_bind_of_not_ends (dies : ¬ Ends first state) :
    (first >>= next).acts state = first.acts state := by
  change acts (andThen first next) state = _
  unfold acts andThen
  cases ran : first state with
  | error crash => rfl
  | ok middle => exact absurd ⟨middle, ran⟩ dies

/-- A sequence ends whose first part ends and whose second part always does. -/
theorem Ends.bind (ends : Ends first state) (rest : ∀ value state, Ends (next value) state) :
    Ends (first >>= next) state := by
  obtain ⟨middle, ran⟩ := ends
  exact (ends_bind_iff ran).mpr (rest middle.value middle.state)

/-- What only relabels the value of a computation ends exactly when the computation does. -/
theorem ends_bind_pure_iff {relabel : Value → Result} :
    Ends (first >>= fun value => pure (relabel value)) state ↔ Ends first state := by
  constructor
  · rintro ⟨outcome, sequence⟩
    obtain ⟨middle, _, ran, _⟩ := bind_eq_ok_iff.mp sequence
    exact ⟨middle, ran⟩
  · exact fun ends => ends.bind fun _ _ => ends_pure

end Ends

/-- Everything which the computation records has the property, also what it records before a
fault. -/
def Records (Property : Act → Prop) (effect : Effect State Fault Act Value) (state : State) : Prop :=
  ∀ act ∈ effect.acts state, Property act

section Records

variable {Property : Act → Prop} {state : State} {first : Effect State Fault Act Value}
  {next : Value → Effect State Fault Act Result}

@[simp] theorem records_pure {value : Value} :
    Records Property (pure value : Effect State Fault Act Value) state := fun _ member => by cases member

/-- A computation which did not fault records the acts of its outcome. -/
theorem records_iff {outcome : Outcome State Act Value} (ran : first state = .ok outcome) :
    Records Property first state ↔ ∀ act ∈ outcome.acts, Property act := by
  rw [Records, (last_of_ok ran).2]

/-- After a first part with a known outcome, its acts and those of the second part are recorded. -/
theorem records_bind_iff {middle : Outcome State Act Value} (ran : first state = .ok middle) :
    Records Property (first >>= next) state ↔
      (∀ act ∈ middle.acts, Property act) ∧ Records Property (next middle.value) middle.state := by
  unfold Records
  rw [acts_bind_of_ok ran, List.forall_mem_append]

@[simp] theorem records_record_bind_iff {act : Act} {after : Unit → Effect State Fault Act Result} :
    Records Property (record act >>= after) state ↔
      Property act ∧ Records Property (after ()) state := by
  have recorded : (record act : Effect State Fault Act Unit) state = .ok ⟨(), state, [act]⟩ := rfl
  rw [records_bind_iff recorded, List.forall_mem_singleton]

@[simp] theorem records_modify_bind_iff {update : State → State}
    {after : Unit → Effect State Fault Act Result} :
    Records Property (modify update >>= after) state ↔
      Records Property (after ()) (update state) := by
  have updated : (modify update : Effect State Fault Act Unit) state = .ok ⟨(), update state, []⟩ := rfl
  rw [records_bind_iff updated]
  simp

/-- A sequence which demands a value goes on only where the value is there. -/
theorem records_demand_bind_iff {value : Except Fault Value} :
    Records Property (demand value >>= next) state ↔
      ∀ taken, value = .ok taken → Records Property (next taken) state := by
  cases value with
  | error fault =>
      have ran : (demand (.error fault) : Effect State Fault Act Value) state =
          .error ⟨fault, state, []⟩ := rfl
      rw [Records, acts_bind_of_not_ends (not_ends_of_error ran)]
      simp [acts, demand]
  | ok taken =>
      have ran : (demand (.ok taken) : Effect State Fault Act Value) state =
          .ok ⟨taken, state, []⟩ := rfl
      rw [records_bind_iff ran]
      simp

/-- A sequence records what has the property if its first part does, and its second part does
wherever the first one ended. -/
theorem Records.bind (recorded : Records Property first state)
    (rest : ∀ outcome, first state = .ok outcome →
      Records Property (next outcome.value) outcome.state) :
    Records Property (first >>= next) state := by
  cases ran : first state with
  | error crash =>
      rw [Records, acts_bind_of_not_ends (not_ends_of_error ran)]
      exact recorded
  | ok middle => exact (records_bind_iff ran).mpr ⟨(records_iff ran).mp recorded, rest middle ran⟩

/-- A second part which records nothing may be left out. -/
theorem records_bind_of_forall (silent : ∀ value state, Records Property (next value) state) :
    Records Property (first >>= next) state ↔ Records Property first state := by
  constructor
  · intro recorded act member
    apply recorded act
    cases ran : first state with
    | error crash => rwa [acts_bind_of_not_ends (not_ends_of_error ran)]
    | ok middle =>
        rw [acts_bind_of_ok ran, ← (last_of_ok ran).2]
        exact List.mem_append_left _ member
  · exact fun recorded => recorded.bind fun outcome _ => silent outcome.value outcome.state

end Records

end Effect

end EasyCab.Library
