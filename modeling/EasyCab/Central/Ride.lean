import EasyCab.Central.Dispatching
import EasyCab.Central.Success

/-!
# What Central does for a ride

A customer asks for a ride while nobody waits and one taxi is connected. The dispatcher sends the
taxi to the customer and then to the place, and tells the customer at the end that it is there. Then
everything is as before, but that the customer is at the place, so that it may ask again. What others
call for in between changes nothing of that. Central answers as the dispatcher does wherever its
statements succeed, and they succeed here if the identifiers can be quoted.
-/

namespace EasyCab

open Library

/-- A ride with a taxi, from where a customer is to where a place is. -/
structure Ride (Taxi Customer Place Position : Type) where
  taxi : Taxi
  customer : Customer
  place : Place
  pickUp : Position
  dropOff : Position
  /-- Where the places are. -/
  placeAt : Place → Option Position

/-- The two legs of a ride. -/
inductive Leg where
  | toCustomer
  | toPlace
deriving DecidableEq

/-- The word is for a taxi. -/
def Word.IsOrder {Taxi Customer Position Token : Type} : Word Taxi Customer Position Token → Prop
  | .goTo .. | .stop _ | .goOn _ | .dismissed _ => True
  | _ => False

/-- The word ends what a customer is waiting for. -/
def Word.IsEnding {Taxi Customer Position Token : Type} : Word Taxi Customer Position Token → Prop
  | .completed _ | .denied _ | .parted _ => True
  | _ => False

namespace Ride

variable {Taxi Customer Place Position Time Token : Type}

/-- Where a leg ends. -/
def target (ride : Ride Taxi Customer Place Position) : Leg → Position
  | .toCustomer => ride.pickUp
  | .toPlace => ride.dropOff

/-- Nobody waits, no other taxi can be sent, and no place has moved. -/
structure Alone (ride : Ride Taxi Customer Place Position)
    (books : Dispatcher Taxi Customer Place Position Time) : Prop where
  idle : books.Idle
  only : ∀ taxi, books.connected taxi = some true ↔ taxi = ride.taxi
  places : books.placeAt = ride.placeAt
  present : (books.taxiAt ride.taxi).isSome

/-- The taxi is empty, and the customer is somewhere. -/
structure Free (ride : Ride Taxi Customer Place Position) (position : Position)
    (books : Dispatcher Taxi Customer Place Position Time) : Prop extends ride.Alone books where
  empty : books.aboard ride.taxi = none
  waiting : books.customerAt ride.customer = some position

/-- The taxi is on this leg of the ride. -/
structure OnLeg (ride : Ride Taxi Customer Place Position) (leg : Leg)
    (books : Dispatcher Taxi Customer Place Position Time) : Prop extends ride.Alone books where
  known : (books.customerAt ride.customer).isSome
  aboard : books.aboard ride.taxi =
    match leg with
    | .toCustomer => none
    | .toPlace => some ride.customer
  booked : leg = .toCustomer → books.serves ride.taxi = some ride.customer ∧
    (books.wants ride.customer).bind books.placeAt = some ride.dropOff

/-- The customer and the taxi are where the place was. -/
structure Over (ride : Ride Taxi Customer Place Position)
    (books : Dispatcher Taxi Customer Place Position Time) : Prop where
  customer : books.customerAt ride.customer = some ride.dropOff
  taxi : books.taxiAt ride.taxi = some ride.dropOff

/-- The call has nothing to do with the ride, or says how far the taxi is. -/
def Bypasses (ride : Ride Taxi Customer Place Position) :
    Call Taxi Customer Place Position Time Token → Prop
  | .chat | .taxiArrives _ | .joins .. | .favours _ => True
  | .taxiDrives taxi _ => taxi = ride.taxi
  | _ => False

/-! ### What the dispatcher does -/

/-- What a call which has nothing to do with the ride leaves alone. -/
structure Kept (ride : Ride Taxi Customer Place Position)
    (books next : Dispatcher Taxi Customer Place Position Time) : Prop where
  idle : next.Idle
  connected : next.connected = books.connected
  aboard : next.aboard = books.aboard
  serves : next.serves = books.serves
  placeAt : next.placeAt = books.placeAt
  present : (next.taxiAt ride.taxi).isSome
  wants : next.wants ride.customer = books.wants ride.customer
  known : (next.customerAt ride.customer).isSome
  stays : books.aboard ride.taxi = none →
    next.customerAt ride.customer = books.customerAt ride.customer

variable {ride : Ride Taxi Customer Place Position} {leg : Leg} {base position : Position}
  {books next : Dispatcher Taxi Customer Place Position Time}
  {call : Call Taxi Customer Place Position Time Token}
  {said : List (Word Taxi Customer Position Token)}

/-- After a call which has nothing to do with the ride, there is still no other taxi which can be
sent. -/
theorem Alone.kept (alone : ride.Alone books) (kept : ride.Kept books next) : ride.Alone next where
  idle := kept.idle
  only := by
    rw [kept.connected]
    exact alone.only
  places := kept.placeAt.trans alone.places
  present := kept.present

/-- A call which has nothing to do with the ride leaves its taxi free. -/
theorem Free.kept (free : ride.Free position books) (kept : ride.Kept books next) :
    ride.Free position next where
  toAlone := free.toAlone.kept kept
  empty := by
    rw [kept.aboard]
    exact free.empty
  waiting := (kept.stays free.empty).trans free.waiting

/-- A call which has nothing to do with the ride leaves its taxi on its leg. -/
theorem OnLeg.kept (onLeg : ride.OnLeg leg books) (kept : ride.Kept books next) :
    ride.OnLeg leg next where
  toAlone := onLeg.toAlone.kept kept
  known := kept.known
  aboard := by
    rw [kept.aboard]
    exact onLeg.aboard
  booked := by
    rw [kept.serves, kept.wants, kept.placeAt]
    exact onLeg.booked

/-- Where nobody waits nobody has waited longest. -/
theorem not_longest_of_idle [LE Time] {customer : Customer} (idle : books.Idle) :
    ¬ books.Longest customer := by
  rintro ⟨since, waits, _⟩
  rw [idle] at waits
  cases waits

variable [DecidableEq Taxi] [DecidableEq Customer] [DecidableEq Place] [LE Time]

/-- A call which has nothing to do with the ride is answered with no word for a taxi, and with none
that ends anything. -/
theorem kept_of_bypasses (idle : books.Idle) (present : (books.taxiAt ride.taxi).isSome)
    (known : (books.customerAt ride.customer).isSome) (bypasses : ride.Bypasses call)
    (serves : Dispatcher.Serves base books call next said) :
    ride.Kept books next ∧ ∀ word ∈ said, ¬ word.IsOrder ∧ ¬ word.IsEnding := by
  cases serves with
  | chats => exact ⟨⟨idle, rfl, rfl, rfl, rfl, present, rfl, known, fun _ => rfl⟩, by simp⟩
  | welcomes => exact ⟨⟨idle, rfl, rfl, rfl, rfl, present, rfl, known, fun _ => rfl⟩, by simp⟩
  | sends taxi customer longest => exact absurd longest (not_longest_of_idle idle)
  | drives taxi position =>
      obtain rfl : taxi = ride.taxi := bypasses
      refine ⟨⟨idle, rfl, rfl, rfl, rfl, by simpa [Dispatcher.drive] using present, rfl, ?_,
        fun empty => by simp [Dispatcher.drive, empty]⟩, by simp⟩
      simp only [Dispatcher.drive]
      cases books.aboard ride.taxi with
      | none => exact known
      | some passenger =>
          by_cases same : ride.customer = passenger
          · simpa [← same] using known
          · simpa [Function.update_of_ne same] using known
  | admits customer position token free =>
      have other : ride.customer ≠ customer := by
        rintro rfl
        rw [free] at known
        cases known
      refine ⟨⟨fun customer' => ?_, rfl, rfl, rfl, rfl, present, Function.update_of_ne other _ _, ?_,
        fun _ => Function.update_of_ne other _ _⟩, by simp [Word.IsOrder, Word.IsEnding]⟩
      · by_cases same : customer' = customer
        · simp [Dispatcher.join, same]
        · simpa [Dispatcher.join, Function.update_of_ne same] using idle customer'
      · simpa [Dispatcher.join, Function.update_of_ne other] using known
  | refuses =>
      exact ⟨⟨idle, rfl, rfl, rfl, rfl, present, rfl, known, fun _ => rfl⟩, by simp [Word.IsOrder, Word.IsEnding]⟩
  | favours customer =>
      refine ⟨⟨fun customer' => ?_, rfl, rfl, rfl, rfl, present, rfl, known, fun _ => rfl⟩,
        by simp [Word.IsOrder, Word.IsEnding]⟩
      by_cases same : customer' = customer
      · simp [Dispatcher.wait, same]
      · simpa [Dispatcher.wait, Function.update_of_ne same] using idle customer'
  | _ => exact bypasses.elim

/-- When the customer asks for the ride, the taxi is sent to it. -/
theorem Free.asked (free : ride.Free ride.pickUp books)
    (destined : ride.placeAt ride.place = some ride.dropOff) {time : Time}
    (serves : Dispatcher.Serves base books (.asks ride.customer ride.place time) next said) :
    ride.OnLeg .toCustomer next ∧ ∃ again,
      said = .goTo ride.taxi ride.pickUp ::
        List.replicate (again + 1) (.accepted ride.customer ride.taxi) := by
  obtain ⟨⟨idle, only, places, present⟩, empty, waiting⟩ := free
  cases serves with
  | queues _ _ _ none => exact absurd ((only ride.taxi).mpr rfl) (none ride.taxi)
  | accepts _ _ _ taxi connected sent =>
      obtain rfl := (only taxi).mp connected
      obtain ⟨at_, stands⟩ := Option.isSome_iff_exists.mp present
      have sends : (books.setWish ride.customer ride.place).send ride.taxi ride.customer =
          { books with
            wants := Function.update books.wants ride.customer (some ride.place)
            serves := Function.update books.serves ride.taxi (some ride.customer)
            heading := Function.update books.heading ride.taxi (some ride.pickUp) } := by
        simp [Dispatcher.send, Dispatcher.setWish, waiting, stands]
      rw [sends] at sent ⊢
      obtain ⟨position, again, heading, rfl⟩ := sent
      obtain rfl : ride.pickUp = position := by simpa using heading
      refine ⟨⟨⟨idle, only, places, present⟩, by simp [waiting], empty, fun _ => ?_⟩, again, rfl⟩
      simp [places, destined]

/-- When the taxi reaches the customer, it is sent to the place. -/
theorem OnLeg.boarded (onLeg : ride.OnLeg .toCustomer books)
    (serves : Dispatcher.Serves base books (.taxiReaches ride.taxi position) next said) :
    ride.OnLeg .toPlace next ∧ said = [.pickedUp ride.customer, .goTo ride.taxi ride.dropOff] := by
  obtain ⟨⟨idle, only, places, present⟩, known, aboard, booked⟩ := onLeg
  obtain ⟨serving, wish⟩ := booked rfl
  obtain ⟨at_, stands⟩ := Option.isSome_iff_exists.mp present
  cases serves with
  | lands _ _ customer carried => simp [aboard] at carried
  | landsAndSends _ _ customer other carried => simp [aboard] at carried
  | boards _ _ customer place empty served destination =>
      obtain rfl := Option.some.inj (serving.symm.trans served)
      obtain rfl := Option.some.inj (wish.symm.trans destination)
      refine ⟨⟨⟨idle, only, places, ?_⟩, ?_, ?_, by simp⟩, rfl⟩
      · simpa [Dispatcher.carry, Dispatcher.drive] using present
      · simpa [Dispatcher.carry, Dispatcher.drive, aboard] using known
      · simp [Dispatcher.carry, Dispatcher.drive, stands]
  | boardsLost _ _ customer empty served lost =>
      obtain rfl := Option.some.inj (serving.symm.trans served)
      rw [wish] at lost
      cases lost

/-- When the taxi reaches the place, the customer is told that it is there, and everything is as
before the ride. -/
theorem OnLeg.landed (onLeg : ride.OnLeg .toPlace books)
    (serves : Dispatcher.Serves base books (.taxiReaches ride.taxi ride.dropOff) next said) :
    ride.Free ride.dropOff next ∧ ride.Over next ∧ said = [.completed ride.customer] := by
  obtain ⟨⟨idle, only, places, present⟩, known, aboard, _⟩ := onLeg
  obtain ⟨at_, stands⟩ := Option.isSome_iff_exists.mp present
  obtain ⟨from_, stood⟩ := Option.isSome_iff_exists.mp known
  cases serves with
  | lands _ _ customer carried =>
      obtain rfl := Option.some.inj (aboard.symm.trans carried)
      have arrived : ((books.drive ride.taxi ride.dropOff).carry ride.taxi none).customerAt
          ride.customer = some ride.dropOff := by
        simp [Dispatcher.carry, Dispatcher.drive, aboard, stood]
      refine ⟨⟨⟨idle, only, places, ?_⟩, ?_, arrived⟩, ⟨arrived, ?_⟩, rfl⟩
      · simpa [Dispatcher.carry, Dispatcher.drive] using present
      · simp [Dispatcher.carry, Dispatcher.drive, stands]
      · simp [Dispatcher.carry, Dispatcher.drive, stands]
  | landsAndSends _ _ customer other carried longest => exact absurd longest (not_longest_of_idle idle)
  | boards _ _ customer place empty => simp [aboard] at empty
  | boardsLost _ _ customer empty => simp [aboard] at empty

end Ride

/-! ### What Central does -/

/-- A ride in the tables of Central. -/
abbrev Ride.Central := Ride TaxiId Id Id Coordinate

/-- The request has nothing to do with a ride of the taxi, or says how far the taxi is, and can be
written to the tables. -/
def SubjRequest.Bypasses (taxi : TaxiId) (request : Message) : SubjRequest → Prop
  | .newTaxi | .taxiReconnected | .taxiPing | .taxiReady | .taxiNotReady | .taxiUpdateWaitTime => True
  | .customerPing | .customerUpdateNextRequest | .newCustomer | .orderCustomerPriority =>
      Statement.quotable request.id = true
  | .taxiMove => request.taxiId = taxi
  | _ => False

namespace KafkaServer

variable {now : Timestamp} {session : Uuid} {db : Db} {response request : Message}
  {subject : SubjRequest} {ride : Ride.Central} {leg : Leg}

/-- Nobody is at the head of the queue where nobody waits. -/
theorem queueHead_of_idle {tables : Tables} (idle : tables.office.Idle) : tables.queueHead = none := by
  cases head : tables.queueHead with
  | none => rfl
  | some customer => exact absurd (Tables.office_longest head) (Ride.not_longest_of_idle idle)

/-- The only connected taxi is available. -/
theorem available_of_only {tables : Tables} {taxi : TaxiId}
    (only : ∀ other, tables.office.connected other = some true ↔ other = taxi) :
    tables.available = some taxi := by
  cases found : tables.available with
  | none => exact absurd ((only taxi).mpr rfl) (Tables.office_unconnected found taxi)
  | some other => rw [(only other).mp (Tables.office_connected found)]

/-- The words of worded messages are the words which they are. -/
theorem map_word?_eq {messages : List Message}
    (worded : ∀ message ∈ messages, (message.word?).isSome) :
    messages.map Message.word? = (messages.filterMap Message.word?).map some := by
  induction messages with
  | nil => rfl
  | cons message messages inductionHypothesis =>
      rw [List.forall_mem_cons] at worded
      obtain ⟨word, reads⟩ := Option.isSome_iff_exists.mp worded.1
      rw [List.map_cons, List.filterMap_cons_some reads, List.map_cons, inductionHypothesis worded.2,
        reads]

/-- A smooth request is treated to its end, and answered as the dispatcher answers the call. -/
theorem process_of_smooth (accepted : accepted? session request = some subject)
    (smooth : db.Smooth request subject) :
    ∃ outcome said, process now session request ⟨db, [], response⟩ = .ok outcome ∧
      Dispatcher.Serves ⟨0, 0⟩ db.office (subject.call now request) outcome.state.db.office said ∧
      (Act.responses outcome.acts).map Message.word? = said.map some := by
  obtain ⟨outcome, ran⟩ := (@succeeds_process_iff now session db response request subject
    accepted).mpr smooth
  obtain ⟨handled, acts, maps, outages, treated, rfl⟩ := process_yields accepted ran
  refine ⟨_, Act.words acts, ran.1, treated.serves, ?_⟩
  have silent : Act.responses (maps.map .publishMap) = [] := by
    refine List.eq_nil_iff_forall_not_mem.mpr fun message member => ?_
    simp at member
  change (Act.responses (acts ++ maps.map .publishMap)).map Message.word? = _
  rw [Act.responses_append, silent, List.append_nil]
  exact map_word?_eq treated.worded

/-- The message is a word which is not for a taxi, and ends nothing. -/
def Spares (message : Message) : Prop :=
  ∃ word, message.word? = some word ∧ ¬ word.IsOrder ∧ ¬ word.IsEnding

/-- One of the messages sends the taxi somewhere, and the others are not for a taxi and end
nothing. -/
def SendsTo (taxi : TaxiId) (coord : Coordinate) (messages : List Message) : Prop :=
  ∃ earlier goTo later, messages = earlier ++ goTo :: later ∧
    goTo.word? = some (.goTo taxi coord) ∧
      (∀ message ∈ earlier, Spares message) ∧ ∀ message ∈ later, Spares message

/-- Messages whose words are not for a taxi and end nothing. -/
theorem spares_of_words {messages : List Message} {said : List Word.Central}
    (worded : messages.map Message.word? = said.map some)
    (silent : ∀ word ∈ said, ¬ word.IsOrder ∧ ¬ word.IsEnding) :
    ∀ message ∈ messages, Spares message := by
  intro message member
  have read : message.word? ∈ said.map some := by
    rw [← worded]
    exact List.mem_map_of_mem member
  obtain ⟨word, said, reads⟩ := List.mem_map.mp read
  exact ⟨word, reads.symm, silent word said⟩

/-- Where nobody waits, any taxi may arrive. -/
theorem summonable_of_idle {tables : Tables} (idle : tables.office.Idle) (taxi : TaxiId) :
    tables.Summonable taxi := by
  intro next head
  rw [queueHead_of_idle idle] at head
  cases head

/-- A request which has nothing to do with the ride is treated to its end, says nothing to a taxi
and ends nothing. -/
theorem process_bypasses (literal : Statement.quotable ride.customer = true)
    (idle : db.office.Idle) (present : (db.office.taxiAt ride.taxi).isSome)
    (known : (db.office.customerAt ride.customer).isSome)
    (alone : ∀ passenger ∈ db.office.aboard ride.taxi, passenger = ride.customer)
    (bypasses : ∀ subject, request.subject = .request subject → subject.Bypasses ride.taxi request) :
    ∃ outcome, process now session request ⟨db, [], response⟩ = .ok outcome ∧
      ride.Kept db.office outcome.state.db.office ∧
      ∀ message ∈ Act.responses outcome.acts, Spares message := by
  cases accepted : accepted? session request with
  | none =>
      refine ⟨⟨(), ⟨db, [], response⟩, []⟩, by simp [process, accepted], ?_, by simp⟩
      exact ⟨idle, rfl, rfl, rfl, rfl, present, rfl, known, fun _ => rfl⟩
  | some subject =>
      have passes := bypasses subject (subject_of_accepted accepted)
      have smooth : db.Smooth request subject := by
        cases subject with
        | newTaxi | taxiReconnected => exact summonable_of_idle idle _
        | taxiMove =>
            intro passenger carried
            rw [show request.taxiId = ride.taxi from passes] at carried
            rw [alone passenger carried]
            exact literal
        | taxiPing | taxiReady | taxiNotReady | taxiUpdateWaitTime => trivial
        | customerPing | customerUpdateNextRequest | newCustomer | orderCustomerPriority => exact passes
        | _ => exact passes.elim
      have called : ride.Bypasses (subject.call now request) := by
        cases subject with
        | taxiMove => exact passes
        | newTaxi | taxiReconnected | taxiPing | taxiReady | taxiNotReady | taxiUpdateWaitTime
          | customerPing | customerUpdateNextRequest | newCustomer | orderCustomerPriority => trivial
        | _ => exact passes.elim
      obtain ⟨outcome, said, ran, serves, worded⟩ :=
        @process_of_smooth now session db response request subject accepted smooth
      obtain ⟨kept, silent⟩ := Ride.kept_of_bypasses idle present known called serves
      exact ⟨outcome, ran, kept, spares_of_words worded silent⟩

/-- The request for the ride sends the taxi to the customer. -/
theorem process_asks (literal : Statement.quotable ride.customer = true)
    (literalPlace : Statement.quotable ride.place = true)
    (destined : ride.placeAt ride.place = some ride.dropOff)
    (namesake : (ride.placeAt ride.customer).isSome) (free : ride.Free ride.pickUp db.office)
    (accepted : accepted? session request = some .customerServiceRequest)
    (named : request.id = ride.customer) (wished : request.charFromData = ride.place) :
    ∃ outcome, process now session request ⟨db, [], response⟩ = .ok outcome ∧
      ride.OnLeg .toCustomer outcome.state.db.office ∧
      SendsTo ride.taxi ride.pickUp (Act.responses outcome.acts) := by
  have stored : (db.office.placeAt ride.place).isSome := by simp [free.places, destined]
  have waiting : (db.trips.customerAt ride.customer).isSome := Option.isSome_of_eq_some free.waiting
  have smooth : db.Smooth request .customerServiceRequest := by
    simp only [Tables.Smooth, available_of_only free.only, named, wished]
    refine ⟨⟨literalPlace, literal, fun _ => stored⟩, ?_⟩
    rw [Trips.Assignable, if_pos waiting]
    rw [← free.places] at namesake
    exact ⟨free.present, namesake⟩
  obtain ⟨outcome, said, ran, serves, worded⟩ :=
    @process_of_smooth now session db response request _ accepted smooth
  rw [SubjRequest.call, named, wished] at serves
  obtain ⟨onLeg, again, rfl⟩ := free.asked destined serves
  obtain ⟨goTo, later, produced, sent, rest⟩ := List.map_eq_cons_iff.mp worded
  refine ⟨outcome, ran, onLeg, [], goTo, later, produced, sent, by simp, ?_⟩
  exact spares_of_words rest (by simp [Word.IsOrder, Word.IsEnding])

/-- The report of the taxi from where the customer is sends it to the place. -/
theorem process_boards (literal : Statement.quotable ride.customer = true)
    (onLeg : ride.OnLeg .toCustomer db.office)
    (accepted : accepted? session request = some .taxiDestinationReached)
    (named : request.taxiId = ride.taxi) :
    ∃ outcome, process now session request ⟨db, [], response⟩ = .ok outcome ∧
      ride.OnLeg .toPlace outcome.state.db.office ∧
      SendsTo ride.taxi ride.dropOff (Act.responses outcome.acts) := by
  have empty : db.customerIdOf ride.taxi = none := onLeg.aboard
  have smooth : db.Smooth request .taxiDestinationReached := by
    simp only [Tables.Smooth, named, empty]
    exact ⟨ride.customer, (onLeg.booked rfl).1, literal, onLeg.known⟩
  obtain ⟨outcome, said, ran, serves, worded⟩ :=
    @process_of_smooth now session db response request _ accepted smooth
  rw [SubjRequest.call, named] at serves
  obtain ⟨onLegNext, rfl⟩ := onLeg.boarded serves
  obtain ⟨pickedUp, later, produced, told, rest⟩ := List.map_eq_cons_iff.mp worded
  obtain ⟨goTo, none, rfl, sent, nothing⟩ := List.map_eq_cons_iff.mp rest
  obtain rfl := List.map_eq_nil_iff.mp nothing
  have spares : Spares pickedUp := ⟨_, told, by simp [Word.IsOrder, Word.IsEnding]⟩
  refine ⟨outcome, ran, onLegNext, [pickedUp], goTo, [], produced, sent, ?_, by simp⟩
  simpa using spares

/-- The report of the taxi from where the place is ends the ride. -/
theorem process_lands (literal : Statement.quotable ride.customer = true)
    (onLeg : ride.OnLeg .toPlace db.office)
    (accepted : accepted? session request = some .taxiDestinationReached)
    (named : request.taxiId = ride.taxi) (there : request.coord = ride.dropOff) :
    ∃ outcome, process now session request ⟨db, [], response⟩ = .ok outcome ∧
      ride.Free ride.dropOff outcome.state.db.office ∧ ride.Over outcome.state.db.office ∧
      ∃ told, Act.responses outcome.acts = [told] ∧
        told.word? = some (.completed ride.customer) := by
  have carried : db.customerIdOf ride.taxi = some ride.customer := onLeg.aboard
  have smooth : db.Smooth request .taxiDestinationReached := by
    simp only [Tables.Smooth, named, carried]
    exact ⟨literal, summonable_of_idle onLeg.idle _⟩
  obtain ⟨outcome, said, ran, serves, worded⟩ :=
    @process_of_smooth now session db response request _ accepted smooth
  rw [SubjRequest.call, named, there] at serves
  obtain ⟨free, ended, rfl⟩ := onLeg.landed serves
  obtain ⟨told, none, produced, completed, nothing⟩ := List.map_eq_cons_iff.mp worded
  obtain rfl := List.map_eq_nil_iff.mp nothing
  exact ⟨outcome, ran, free, ended, told, produced, completed⟩

end KafkaServer

end EasyCab
