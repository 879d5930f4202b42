import Mathlib.Data.Set.Card
import Mathlib.Logic.Function.Basic
import EasyCab.Library.Simulation

/-!
# What a dispatcher does

The purpose of Central in its own terms, for any taxis, customers, places, positions, times and
tokens. A dispatcher keeps books about who is where, and answers calls with words. It has choices
which Central resolves: any connected taxi may be sent, anybody who waits longest may be next, and
a customer may be told more than once that a taxi was accepted for it.

`Serves.thrifty` is the law of the books which every step keeps: nobody is told to have arrived
more often than somebody took it aboard.
-/

namespace EasyCab

open Library

variable {Taxi Customer Place Position Time Token : Type}

/-- The books of a dispatcher. Who has no position is not in the books. -/
@[ext] structure Dispatcher (Taxi Customer Place Position Time : Type) where
  aboard : Taxi → Option Customer
  serves : Taxi → Option Customer
  heading : Taxi → Option Position
  taxiAt : Taxi → Option Position
  connected : Taxi → Option Bool
  customerAt : Customer → Option Position
  wants : Customer → Option Place
  waits : Customer → Option Time
  placeAt : Place → Option Position

/-- What a dispatcher is called for. -/
inductive Call (Taxi Customer Place Position Time Token : Type) where
  | chat
  | placeMoves (place : Place) (position : Position)
  | taxiRegisters (taxi : Taxi)
  | taxiReturns (taxi : Taxi)
  | taxiArrives (taxi : Taxi)
  | taxiDrives (taxi : Taxi) (position : Position)
  | taxiReaches (taxi : Taxi) (position : Position)
  | joins (customer : Customer) (position : Position) (token : Token)
  | asks (customer : Customer) (place : Place) (time : Time)
  | favours (customer : Customer)
  | parts (customer : Customer)
  | redirects (taxi : Taxi) (position : Position)
  | stops (taxi : Taxi)
  | continues (taxi : Taxi)
  | dismisses (taxi : Taxi)

/-- What a dispatcher says to a taxi, to a customer, or to whoever wants to be one. -/
inductive Word (Taxi Customer Position Token : Type) where
  | goTo (taxi : Taxi) (position : Position)
  | stop (taxi : Taxi)
  | goOn (taxi : Taxi)
  | dismissed (taxi : Taxi)
  | accepted (customer : Customer) (taxi : Taxi)
  | enqueued (customer : Customer)
  | pickedUp (customer : Customer)
  | denied (customer : Customer)
  | completed (customer : Customer)
  | favoured (customer : Customer)
  | parted (customer : Customer)
  | admitted (token : Token)
  | refused (token : Token)
deriving DecidableEq

section Words

variable [DecidableEq Customer]

/-- The word says that a customer has arrived. -/
def Word.completes (customer : Customer) : Word Taxi Customer Position Token → Bool
  | .completed other => other = customer
  | _ => false

/-- The word says that a taxi took a customer aboard, also where nobody knows where to take it. -/
def Word.boards (customer : Customer) : Word Taxi Customer Position Token → Bool
  | .pickedUp other | .denied other => other = customer
  | _ => false

end Words

namespace Dispatcher

section Operations

variable [DecidableEq Taxi] [DecidableEq Customer] [DecidableEq Place]
  (books : Dispatcher Taxi Customer Place Position Time)

/-- A place moves, if it is in the books. -/
def movePlace (place : Place) (position : Position) : Dispatcher Taxi Customer Place Position Time :=
  { books with
    placeAt := Function.update books.placeAt place ((books.placeAt place).map fun _ => position) }

/-- A taxi gets into the books, connected and at a position. -/
def register (taxi : Taxi) (position : Position) : Dispatcher Taxi Customer Place Position Time :=
  { books with
    aboard := Function.update books.aboard taxi none
    serves := Function.update books.serves taxi none
    heading := Function.update books.heading taxi none
    taxiAt := Function.update books.taxiAt taxi (some position)
    connected := Function.update books.connected taxi (some true) }

/-- A taxi in the books is connected, or not any more. -/
def setConnected (taxi : Taxi) (value : Bool) : Dispatcher Taxi Customer Place Position Time :=
  { books with
    connected := Function.update books.connected taxi ((books.connected taxi).map fun _ => value) }

/-- A taxi moves, and whom it carries moves with it. -/
def drive (taxi : Taxi) (position : Position) : Dispatcher Taxi Customer Place Position Time :=
  { books with
    taxiAt := Function.update books.taxiAt taxi ((books.taxiAt taxi).map fun _ => position)
    customerAt :=
      match books.aboard taxi with
      | none => books.customerAt
      | some customer =>
          Function.update books.customerAt customer
            ((books.customerAt customer).map fun _ => position) }

/-- A taxi takes somebody aboard, or nobody. -/
def carry (taxi : Taxi) (customer : Option Customer) :
    Dispatcher Taxi Customer Place Position Time :=
  { books with
    aboard := Function.update books.aboard taxi ((books.taxiAt taxi).bind fun _ => customer) }

/-- A taxi is on its way to somewhere. -/
def head (taxi : Taxi) (position : Position) : Dispatcher Taxi Customer Place Position Time :=
  { books with
    heading := Function.update books.heading taxi ((books.taxiAt taxi).map fun _ => position) }

/-- A taxi is sent to where a customer is. -/
def send (taxi : Taxi) (customer : Customer) : Dispatcher Taxi Customer Place Position Time :=
  match books.customerAt customer with
  | none => books
  | some position =>
      { books with
        serves := Function.update books.serves taxi ((books.taxiAt taxi).map fun _ => customer)
        heading := Function.update books.heading taxi ((books.taxiAt taxi).map fun _ => position) }

/-- A customer gets into the books. -/
def join (customer : Customer) (position : Position) : Dispatcher Taxi Customer Place Position Time :=
  { books with
    customerAt := Function.update books.customerAt customer (some position)
    wants := Function.update books.wants customer none
    waits := Function.update books.waits customer none }

/-- A customer is taken out of the books. -/
def leave (customer : Customer) : Dispatcher Taxi Customer Place Position Time :=
  { books with
    customerAt := Function.update books.customerAt customer none
    wants := Function.update books.wants customer none
    waits := Function.update books.waits customer none }

/-- A customer names a place. -/
def setWish (customer : Customer) (place : Place) : Dispatcher Taxi Customer Place Position Time :=
  { books with
    wants := Function.update books.wants customer
      ((books.customerAt customer).map fun _ => place) }

/-- A customer waits since some time, or does not wait. -/
def wait (customer : Customer) (since : Option Time) : Dispatcher Taxi Customer Place Position Time :=
  { books with
    waits := Function.update books.waits customer
      ((books.customerAt customer).bind fun _ => since) }

end Operations

/-- Nobody waits longer. -/
def Longest [LE Time] (books : Dispatcher Taxi Customer Place Position Time) (customer : Customer) :
    Prop :=
  ∃ since, books.waits customer = some since ∧
    ∀ other time, books.waits other = some time → since ≤ time

/-- Nobody waits. -/
def Idle (books : Dispatcher Taxi Customer Place Position Time) : Prop :=
  ∀ customer, books.waits customer = none

/-- The words for a taxi which is sent to a customer. The customer hears of it once or more. -/
def Sends (books : Dispatcher Taxi Customer Place Position Time) (taxi : Taxi) (customer : Customer)
    (said : List (Word Taxi Customer Position Token)) : Prop :=
  ∃ position again, books.heading taxi = some position ∧
    said = .goTo taxi position :: List.replicate (again + 1) (.accepted customer taxi)

/-- How a dispatcher answers a call. `base` is where taxis start. -/
inductive Serves [DecidableEq Taxi] [DecidableEq Customer] [DecidableEq Place] [LE Time]
    (base : Position) (books : Dispatcher Taxi Customer Place Position Time) :
    Call Taxi Customer Place Position Time Token →
      Dispatcher Taxi Customer Place Position Time → List (Word Taxi Customer Position Token) → Prop
    where
  | chats : Serves base books .chat books []
  | movesPlace (place : Place) (position : Position) :
      Serves base books (.placeMoves place position) (books.movePlace place position) []
  | registers (taxi : Taxi) (free : books.taxiAt taxi = none) :
      Serves base books (.taxiRegisters taxi) (books.register taxi base) []
  | reconnects (taxi : Taxi) :
      Serves base books (.taxiReturns taxi) (books.setConnected taxi true) []
  /-- Nobody waits for the taxi. -/
  | welcomes (taxi : Taxi) (idle : books.Idle) : Serves base books (.taxiArrives taxi) books []
  | sends (taxi : Taxi) (customer : Customer) {said : List (Word Taxi Customer Position Token)}
      (longest : books.Longest customer) (sent : (books.send taxi customer).Sends taxi customer said) :
      Serves base books (.taxiArrives taxi) (books.send taxi customer) said
  | drives (taxi : Taxi) (position : Position) :
      Serves base books (.taxiDrives taxi position) (books.drive taxi position) []
  | lands (taxi : Taxi) (position : Position) (customer : Customer)
      (aboard : books.aboard taxi = some customer) (idle : books.Idle) :
      Serves base books (.taxiReaches taxi position)
        ((books.drive taxi position).carry taxi none) [.completed customer]
  /-- The taxi has landed and goes to whoever waits longest. -/
  | landsAndSends (taxi : Taxi) (position : Position) (customer next : Customer)
      {said : List (Word Taxi Customer Position Token)} (aboard : books.aboard taxi = some customer)
      (longest : books.Longest next)
      (sent : (((books.drive taxi position).carry taxi none).send taxi next).Sends taxi next said) :
      Serves base books (.taxiReaches taxi position)
        (((books.drive taxi position).carry taxi none).send taxi next) (.completed customer :: said)
  | boards (taxi : Taxi) (position : Position) (customer : Customer) (place : Position)
      (empty : books.aboard taxi = none) (serves : books.serves taxi = some customer)
      (wish : (books.wants customer).bind books.placeAt = some place) :
      Serves base books (.taxiReaches taxi position)
        ((books.drive taxi position).carry taxi (some customer))
        [.pickedUp customer, .goTo taxi place]
  /-- The customer is aboard and nobody knows where to take it. -/
  | boardsLost (taxi : Taxi) (position : Position) (customer : Customer)
      (empty : books.aboard taxi = none) (serves : books.serves taxi = some customer)
      (lost : (books.wants customer).bind books.placeAt = none) :
      Serves base books (.taxiReaches taxi position)
        ((books.drive taxi position).carry taxi (some customer)) [.denied customer]
  | admits (customer : Customer) (position : Position) (token : Token)
      (free : books.customerAt customer = none) :
      Serves base books (.joins customer position token) (books.join customer position)
        [.admitted token]
  | refuses (customer : Customer) (position : Position) (token : Token)
      (taken : (books.customerAt customer).isSome) :
      Serves base books (.joins customer position token) books [.refused token]
  | queues (customer : Customer) (place : Place) (time : Time)
      (none : ∀ taxi, books.connected taxi ≠ some true) :
      Serves base books (.asks customer place time) (books.wait customer (some time))
        [.enqueued customer]
  | accepts (customer : Customer) (place : Place) (time : Time) (taxi : Taxi)
      {said : List (Word Taxi Customer Position Token)} (connected : books.connected taxi = some true)
      (sent : ((books.setWish customer place).send taxi customer).Sends taxi customer said) :
      Serves base books (.asks customer place time)
        ((books.setWish customer place).send taxi customer) said
  | favours (customer : Customer) :
      Serves base books (.favours customer) (books.wait customer none) [.favoured customer]
  | parts (customer : Customer) :
      Serves base books (.parts customer) (books.leave customer) [.parted customer]
  | redirects (taxi : Taxi) (position : Position) :
      Serves base books (.redirects taxi position)
        ((books.carry taxi none).head taxi position) [.goTo taxi position]
  | stops (taxi : Taxi) : Serves base books (.stops taxi) books [.stop taxi]
  | continues (taxi : Taxi) : Serves base books (.continues taxi) books [.goOn taxi]
  | dismisses (taxi : Taxi) :
      Serves base books (.dismisses taxi) (books.setConnected taxi false) [.dismissed taxi]

/-! ### The law of boarding -/

section Boarding

variable {books next : Dispatcher Taxi Customer Place Position Time}

@[simp] theorem send_aboard [DecidableEq Taxi] {taxi : Taxi} {customer : Customer} :
    (books.send taxi customer).aboard = books.aboard := by
  unfold send
  cases books.customerAt customer <;> rfl

/-- The words for a taxi which is sent say nothing of boarding. -/
theorem Sends.countP_eq_zero [DecidableEq Customer] {taxi : Taxi} {customer : Customer}
    {said : List (Word Taxi Customer Position Token)} (sends : books.Sends taxi customer said)
    (other : Customer) :
    said.countP (Word.completes other) = 0 ∧ said.countP (Word.boards other) = 0 := by
  obtain ⟨position, again, _, rfl⟩ := sends
  simp [List.countP_replicate, Word.completes, Word.boards]

/-- How many taxis carry a customer. -/
noncomputable def carriers (books : Dispatcher Taxi Customer Place Position Time)
    (customer : Customer) : Nat :=
  {taxi | books.aboard taxi = some customer}.ncard

variable [Finite Taxi] [DecidableEq Taxi] [DecidableEq Customer]

/-- Where one taxi carries somebody else than before, one carrier is gone or one is new. -/
theorem carriers_update {taxi : Taxi} {value : Option Customer}
    (aboard : next.aboard = Function.update books.aboard taxi value) (customer : Customer) :
    next.carriers customer + (if books.aboard taxi = some customer then 1 else 0) ≤
      books.carriers customer + if value = some customer then 1 else 0 := by
  let others := {other | books.aboard other = some customer} \ {taxi}
  have before : others.ncard + (if books.aboard taxi = some customer then 1 else 0) =
      books.carriers customer := by
    by_cases carried : books.aboard taxi = some customer
    · rw [if_pos carried]
      exact Set.ncard_sdiff_singleton_add_one carried
    · rw [if_neg carried, Nat.add_zero]
      exact congrArg Set.ncard (Set.sdiff_singleton_eq_self carried)
  have after : next.carriers customer ≤ others.ncard + if value = some customer then 1 else 0 := by
    unfold carriers
    rw [aboard]
    by_cases boards : value = some customer
    · rw [if_pos boards]
      have within : {other | Function.update books.aboard taxi value other = some customer} ⊆
          insert taxi others := by
        intro other member
        by_cases same : other = taxi
        · exact .inl same
        · exact .inr ⟨by simpa [same] using member, same⟩
      exact (Set.ncard_le_ncard within).trans (Set.ncard_insert_le taxi others)
    · rw [if_neg boards, Nat.add_zero]
      have within : {other | Function.update books.aboard taxi value other = some customer} ⊆
          others := by
        intro other member
        by_cases same : other = taxi
        · subst same
          exact absurd (by simpa using member) boards
        · exact ⟨by simpa [same] using member, same⟩
      exact Set.ncard_le_ncard within
  omega

/-- A taxi puts down whom it carries. -/
theorem carriers_carry_none {taxi : Taxi}
    (aboard : next.aboard = (books.carry taxi none).aboard) (customer : Customer) :
    next.carriers customer + (if books.aboard taxi = some customer then 1 else 0) ≤
      books.carriers customer := by
  have put : next.aboard = Function.update books.aboard taxi none := by simp [aboard, carry]
  simpa using carriers_update put customer

/-- A taxi takes somebody aboard. -/
theorem carriers_carry_some {taxi : Taxi} {passenger : Customer}
    (aboard : next.aboard = (books.carry taxi (some passenger)).aboard) (customer : Customer) :
    next.carriers customer ≤ books.carriers customer + if passenger = customer then 1 else 0 := by
  have taken := carriers_update aboard customer
  cases stored : books.taxiAt taxi with
  | none =>
      simp only [stored, Option.bind_none, reduceCtorEq, if_false] at taken
      omega
  | some position =>
      simp only [stored, Option.bind_some, Option.some.injEq] at taken
      omega

/-- Each step says of nobody more often that he arrived than taxis put him down, and takes nobody
aboard of whom it does not say so. -/
theorem Serves.thrifty [DecidableEq Place] [LE Time] {base : Position}
    {call : Call Taxi Customer Place Position Time Token}
    {said : List (Word Taxi Customer Position Token)} (serves : Serves base books call next said)
    (customer : Customer) :
    next.carriers customer + said.countP (Word.completes customer) ≤
      books.carriers customer + said.countP (Word.boards customer) := by
  cases serves with
  | registers taxi free =>
      have put := carriers_update
        (rfl : (books.register taxi base).aboard = Function.update books.aboard taxi none) customer
      simpa using Nat.le_of_add_right_le put
  | lands taxi position passenger aboard idle =>
      have put : ((books.drive taxi position).carry taxi none).carriers customer +
          (if books.aboard taxi = some customer then 1 else 0) ≤ books.carriers customer :=
        carriers_carry_none rfl customer
      simpa [aboard, List.countP_cons, Word.completes, Word.boards] using put
  | landsAndSends taxi position passenger following aboard longest sent =>
      have put : (((books.drive taxi position).carry taxi none).send taxi following).carriers
            customer + (if books.aboard taxi = some customer then 1 else 0) ≤
          books.carriers customer :=
        carriers_carry_none send_aboard customer
      obtain ⟨completes, boards⟩ := sent.countP_eq_zero customer
      simpa [aboard, completes, boards, List.countP_cons, Word.completes, Word.boards] using put
  | boards taxi position passenger place empty serves wish =>
      have taken : ((books.drive taxi position).carry taxi (some passenger)).carriers customer ≤
          books.carriers customer + if passenger = customer then 1 else 0 :=
        carriers_carry_some rfl customer
      simpa [List.countP_cons, Word.completes, Word.boards] using taken
  | boardsLost taxi position passenger empty serves lost =>
      have taken : ((books.drive taxi position).carry taxi (some passenger)).carriers customer ≤
          books.carriers customer + if passenger = customer then 1 else 0 :=
        carriers_carry_some rfl customer
      simpa [List.countP_cons, Word.completes, Word.boards] using taken
  | redirects taxi position =>
      have put : ((books.carry taxi none).head taxi position).carriers customer +
          (if books.aboard taxi = some customer then 1 else 0) ≤ books.carriers customer :=
        carriers_carry_none rfl customer
      simpa [Word.completes, Word.boards] using Nat.le_of_add_right_le put
  | sends taxi passenger longest sent =>
      obtain ⟨completes, boards⟩ := sent.countP_eq_zero customer
      simp [completes, boards, carriers]
  | accepts passenger place time taxi connected sent =>
      obtain ⟨completes, boards⟩ := sent.countP_eq_zero customer
      simp [completes, boards, carriers, setWish]
  | _ => exact Nat.le_refl _

end Boarding

end Dispatcher

end EasyCab
