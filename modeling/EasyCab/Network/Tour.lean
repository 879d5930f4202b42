import EasyCab.Network.Completion
import EasyCab.Network.InStep

/-!
# The services of a customer are completed

Central and one taxi with the program of a customer, which asks for one service of its list after
the other. When a ride is over, Central and the taxi are as free as they were before it, and the
customer waits where the place was. It counts down, asks for the next one, and so it goes on until
the list is at its end.
-/

namespace EasyCab

open Library

/-- Central, a taxi and a customer. -/
structure Tour where
  link : Link
  customer : EcCustomer
  /-- The offset of what the customer consumes next. -/
  offset : Nat

namespace Tour

/-- What can happen next. -/
inductive Event where
  /-- Central, the taxi or another component does something. -/
  | link (event : Link.Event)
  /-- The customer consumes the next response. -/
  | listen (beyond : Beyond)
  /-- The customer does something else. -/
  | errand (event : EcCustomer.Event)

/-- The customer took a turn. -/
def turned (tour : Tour) (next : EcCustomer) (sent : List FullMessage) : Tour :=
  { tour with
    link := { tour.link with
      requests := tour.link.requests ++
        sent.map fun message => ⟨message.1, tour.link.epoch, false⟩ }
    customer := next }

/-- One step. -/
def step (session : Uuid) (taxi : TaxiId) (tour : Tour) : Event → Option Tour
  | .link event => do
      let link ← tour.link.step session taxi event
      return { tour with link := link }
  | .listen beyond => do
      let letter ← tour.link.responses[tour.offset]?
      let (next, sent) ← tour.customer.turn (.consume (some (letter.message.read beyond)))
      return { tour with offset := tour.offset + 1 }.turned next sent
  | .errand event =>
      match event with
      | .consume (some _) => none
      | event => do
          let (next, sent) ← tour.customer.turn event
          return tour.turned next sent

/-- Central, the taxi and the customer as a machine. -/
def machine (session : Uuid) (taxi : TaxiId) : Machine Tour Event := ⟨step session taxi⟩

/-- The responses which the customer has consumed since an offset and which ended what it was
waiting for. -/
def ends (tour : Tour) (customer : Id) (since : Nat) : List Letter :=
  ((tour.link.responses.take tour.offset).drop since).filter
    fun letter => letter.Ends customer

variable {session : Uuid} {taxi : TaxiId} {tour : Tour}

/-- What Central and the taxi do is what the link does. -/
theorem offer_link {event : Link.Event} :
    (machine session taxi).offer tour (.link event) =
      { tour with link := (Link.machine session taxi).offer tour.link event } := by
  have linked : (machine session taxi).step tour (.link event) =
      ((Link.machine session taxi).step tour.link event).map
        fun link => { tour with link := link } := by
    change step session taxi tour (.link event) = _
    cases stepped : tour.link.step session taxi event <;>
      simp [step, Link.machine, stepped]
  rw [Machine.offer, Machine.offer, linked]
  cases (Link.machine session taxi).step tour.link event <;> rfl

/-- A turn of the customer which does not consume is what the machine does. -/
theorem offer_errand {event : EcCustomer.Event} {next : EcCustomer} {sent : List FullMessage}
    (deaf : ∀ message, event ≠ .consume (some message))
    (turned : tour.customer.turn event = some (next, sent)) :
    (machine session taxi).offer tour (.errand event) = tour.turned next sent := by
  apply Machine.offer_of_step
  change step session taxi tour (.errand event) = _
  simp only [step]
  simp [turned]

/-- A turn which the customer refuses leaves the tour as it is. -/
theorem offer_errand_refused {event : EcCustomer.Event}
    (refused : tour.customer.turn event = none) :
    (machine session taxi).offer tour (.errand event) = tour := by
  apply Machine.offer_of_refused
  change step session taxi tour (.errand event) = none
  simp only [step]
  split <;> simp [refused]

/-- A response which the customer consumes is what the machine does. -/
theorem offer_listen {beyond : Beyond} {letter : Letter} {next : EcCustomer}
    {sent : List FullMessage} (waiting : tour.link.responses[tour.offset]? = some letter)
    (turned : tour.customer.turn (.consume (some (letter.message.read beyond))) =
      some (next, sent)) :
    (machine session taxi).offer tour (.listen beyond) =
      { tour with offset := tour.offset + 1 }.turned next sent := by
  apply Machine.offer_of_step
  change step session taxi tour (.listen beyond) = _
  simp [step, waiting, turned]

/-- A turn of the customer which sends nothing changes only the customer. -/
theorem turned_nil {next : EcCustomer} :
    tour.turned next [] = { tour with customer := next } := by
  simp [turned]

end Tour

/-- What was put on `responses` stays there. -/
theorem Link.responses_of_offer {session : Uuid} {taxi : TaxiId} {link : Link} {event : Link.Event} :
    ∃ more, ((Link.machine session taxi).offer link event).responses = link.responses ++ more := by
  cases stepped : (Link.machine session taxi).step link event with
  | none =>
      rw [Machine.offer_of_refused stepped]
      exact ⟨[], (List.append_nil _).symm⟩
  | some next =>
      rw [Machine.offer_of_step stepped]
      cases stepped_of_step stepped with
      | request => exact ⟨_, rfl⟩
      | _ => exact ⟨[], (List.append_nil _).symm⟩

namespace Tour

variable {tour : Tour} {session : Uuid} {taxi : TaxiId} {customer : Id} {since : Nat}

/-- What others do ends nothing which the customer was waiting for before. -/
theorem ends_link {event : Link.Event}
    (within : tour.offset ≤ tour.link.responses.length) :
    { tour with link := (Link.machine session taxi).offer tour.link event }.ends customer
      since = tour.ends customer since := by
  obtain ⟨more, responses⟩ := @Link.responses_of_offer session taxi tour.link event
  simp only [ends, responses, List.take_append_of_le_length within]

/-- A consumed response is one more of the consumed ends, if it is one. -/
theorem ends_listened {letter : Letter} {next : EcCustomer} (reached : since ≤ tour.offset)
    (waiting : tour.link.responses[tour.offset]? = some letter) :
    { tour with customer := next, offset := tour.offset + 1 }.ends customer since =
      tour.ends customer since ++ if letter.Ends customer then [letter] else [] := by
  obtain ⟨within, _⟩ := List.getElem?_eq_some_iff.mp waiting
  have taken : since ≤ (tour.link.responses.take tour.offset).length := by
    rw [List.length_take]
    omega
  simp only [ends, List.take_add_one, waiting, Option.toList_some,
    List.drop_append_of_le_length taken, List.filter_append]
  by_cases marked : letter.Ends customer <;> simp [marked]

end Tour

/-! ### What the customer hears -/

namespace Ride

variable {ride : Ride.Central} {session : Uuid} {since : Nat} {link : Link} {stage : Stage}
  {letter : Letter}

/-- The customer asks for the ride. -/
theorem At.asked (here : ride.At session since .free link) (asks : ride.Asks session letter.message) :
    ride.At session since (.asked link.requests.length)
      { link with requests := link.requests ++ [letter] } := by
  obtain ⟨taxi, running, ⟨rests, free, undecided, spared⟩, told⟩ := here
  have decides : letter.Decides := .inl asks.subject
  exact ⟨taxi, running.posted fun other => absurd decides other,
    ⟨rests, free, spared, letter, undecided.await decides clear_nil, asks⟩, told⟩

/-- A response which ends nothing brings the customer nearer to the one which does. -/
theorem At.listened (here : ride.At session since stage link)
    (waiting : link.responses[since]? = some letter) (open_ : ¬ letter.Ends ride.customer) :
    ∃ next, ride.At session (since + 1) next link ∧
      (next.rank < stage.rank ∨ next = stage ∧ ∀ behind, stage ≠ .landed behind) := by
  obtain ⟨taxi, running, scene, told⟩ := here
  obtain ⟨within, rfl⟩ := List.getElem?_eq_some_iff.mp waiting
  have ahead : ride.Running session (since + 1) link taxi :=
    ⟨running.running, running.signs, running.underway, running.allowed, running.requests, within,
      running.position⟩
  rw [List.drop_eq_getElem_cons within] at told
  cases stage with
  | landed behind =>
      obtain ⟨telling, awaits, completed⟩ := told
      rcases awaits.pop with ⟨rfl, _⟩ | ⟨_, fewer, less, awaits⟩
      · exact absurd awaits.marked open_
      · exact ⟨.landed fewer, ⟨taxi, ahead, scene, telling, awaits, completed⟩,
          .inl (by simp [Stage.rank, Prod.Lex.toLex_lt_toLex, less])⟩
  | _ => exact ⟨_, ⟨taxi, ahead, scene, (clear_cons.mp told).2⟩, .inr ⟨rfl, by simp⟩⟩

/-- What ends the waiting of the customer is that it has arrived. -/
theorem At.arrived (here : ride.At session since stage link)
    (waiting : link.responses[since]? = some letter) (ends : letter.Ends ride.customer) :
    letter.message.word? = some (.completed ride.customer) ∧ ∃ taxi,
      ride.Running session (since + 1) link taxi ∧ taxi.pos = taxi.dest ∧
        ride.Free ride.dropOff link.db.office ∧ Clear Letter.Decides link.requests ∧
          Clear (Letter.Orders ride.taxi) (link.responses.drop link.position) ∧
            Clear (Letter.Ends ride.customer) (link.responses.drop (since + 1)) := by
  obtain ⟨taxi, running, scene, told⟩ := here
  obtain ⟨within, rfl⟩ := List.getElem?_eq_some_iff.mp waiting
  have ahead : ride.Running session (since + 1) link taxi :=
    ⟨running.running, running.signs, running.underway, running.allowed, running.requests, within,
      running.position⟩
  rw [List.drop_eq_getElem_cons within] at told
  cases stage with
  | landed behind =>
      obtain ⟨telling, awaits, completed⟩ := told
      rcases awaits.pop with ⟨rfl, clear⟩ | ⟨other, _⟩
      · obtain ⟨rests, free, undecided, spared⟩ := scene
        exact ⟨completed, taxi, ahead, rests, free, undecided, spared, clear⟩
      · exact absurd ends other
  | _ => exact absurd ends (clear_cons.mp told).1

/-- As long as nothing has landed there may be nothing to hear. -/
theorem At.not_landed (here : ride.At session since stage link)
    (nothing : link.responses[since]? = none) (behind : Nat) : stage ≠ .landed behind := by
  rintro rfl
  obtain ⟨_, _, _, letter, awaits, _⟩ := here
  exact awaits.ne_nil (List.drop_eq_nil_of_le (List.getElem?_eq_none_iff.mp nothing))

end Ride

/-! ### A list of services -/

/-- The services which a customer asks for, and where it is before. -/
structure Itinerary where
  taxi : TaxiId
  customer : Id
  services : List Id
  start : Coordinate
  /-- Where the places are. -/
  placeAt : Id → Option Coordinate

namespace Itinerary

/-- Where the customer is after so many services. -/
def stop (itinerary : Itinerary) : Nat → Coordinate
  | 0 => itinerary.start
  | count + 1 => ((itinerary.services[count]?).bind itinerary.placeAt).getD itinerary.start

/-- The ride to the place of a service. -/
def ride (itinerary : Itinerary) (index : Nat) : Ride.Central where
  taxi := itinerary.taxi
  customer := itinerary.customer
  place := itinerary.services.getD index 0
  pickUp := itinerary.stop index
  dropOff := itinerary.stop (index + 1)
  placeAt := itinerary.placeAt

/-- The customer and its places can be quoted, and all of them are in the map. -/
structure Possible (itinerary : Itinerary) : Prop where
  literal : Statement.quotable itinerary.customer = true
  /-- A customer can be assigned only if a location has its name. -/
  namesake : (itinerary.placeAt itinerary.customer).isSome
  start : itinerary.start.InGrid
  services : ∀ service ∈ itinerary.services, Statement.quotable service = true ∧
    ∃ coord, itinerary.placeAt service = some coord ∧ coord.InGrid

variable {itinerary : Itinerary}

/-- The places are in the map. -/
theorem Possible.stop_inGrid (possible : itinerary.Possible) {count : Nat} :
    (itinerary.stop count).InGrid := by
  cases count with
  | zero => exact possible.start
  | succ count =>
      cases found : itinerary.services[count]? with
      | none => simpa [stop, found] using possible.start
      | some service =>
          obtain ⟨_, coord, placed, inGrid⟩ :=
            possible.services service (List.mem_of_getElem? found)
          simpa [stop, found, placed] using inGrid

/-- Every ride of a possible itinerary is possible. -/
theorem Possible.ride (possible : itinerary.Possible) {index : Nat}
    (within : index < itinerary.services.length) : (itinerary.ride index).Possible := by
  have found : itinerary.services[index]? = some itinerary.services[index] :=
    List.getElem?_eq_getElem within
  obtain ⟨literal, coord, placed, _⟩ :=
    possible.services itinerary.services[index] (List.getElem_mem within)
  have place : (itinerary.ride index).place = itinerary.services[index] := by
    simp [Itinerary.ride, within]
  refine ⟨possible.literal, place ▸ literal, ?_, possible.namesake, possible.stop_inGrid,
    possible.stop_inGrid⟩
  rw [place]
  change itinerary.placeAt _ = some (itinerary.stop (index + 1))
  simp [stop, found, placed]

/-- Where the customer is, and how far the ride which it has asked for has got. -/
inductive Stage where
  | asking (count : Nat)
  | riding (count : Nat) (stage : {stage : Ride.Stage // stage ≠ .free})
  | counting (index left : Nat)

/-- How much is left to do. -/
def rank (itinerary : Itinerary) : Stage → Nat ×ₗ Nat ×ₗ Nat ×ₗ Nat
  | .asking count => toLex (itinerary.services.length - count, toLex (2, toLex (0, 0)))
  | .riding count stage => toLex (itinerary.services.length - count, toLex (1, stage.1.rank))
  | .counting index left => toLex (itinerary.services.length - index, toLex (0, toLex (0, left)))

/-- The customer was brought to so many places, and the ride to the next one is at a stage. `since`
is how many responses it had consumed before. -/
structure Brought (itinerary : Itinerary) (session : Uuid) (since count : Nat) (stage : Ride.Stage)
    (tour : Tour) : Prop where
  within : count ≤ itinerary.services.length
  named : tour.customer.request.1.id = itinerary.customer
  admitted : tour.customer.request.1.session = session.1
  services : tour.customer.services = some itinerary.services
  here : (itinerary.ride count).At session tour.offset stage tour.link
  reached : since ≤ tour.offset
  told : (tour.ends itinerary.customer since).map (·.message.word?) =
    List.replicate count (some (.completed itinerary.customer))

/-- The tour is at a stage. -/
def At (itinerary : Itinerary) (session : Uuid) (since : Nat) : Stage → Tour → Prop
  | .asking count, tour =>
      itinerary.Brought session since count .free tour ∧ tour.customer.errand = .asking count
  | .riding count stage, tour =>
      itinerary.Brought session since count stage tour ∧ tour.customer.errand = .waiting count ∧
        count < itinerary.services.length
  | .counting index left, tour =>
      itinerary.Brought session since (index + 1) .free tour ∧
        tour.customer.errand = .counting index left ∧
          tour.customer.request.1.subject = .request .customerUpdateNextRequest

/-- The program of the customer has ended. It was told once for every service that it has arrived,
and nothing else ended what it was waiting for; and it is where the last place was. -/
structure Completed (itinerary : Itinerary) (since : Nat) (tour : Tour) : Prop where
  ended : tour.customer.errand = .ended
  told : (tour.ends itinerary.customer since).map (·.message.word?) =
    List.replicate itinerary.services.length (some (.completed itinerary.customer))
  arrived : tour.link.db.office.customerAt itinerary.customer =
    some (itinerary.stop itinerary.services.length)

/-- What may happen during the tour. -/
def Allows (itinerary : Itinerary) : Tour.Event → Prop
  | .link event => (itinerary.ride 0).Allows event
  | .listen _ | .errand .proceed | .errand .ping | .errand (.consume none) => True
  | .errand (.consume (some _)) => False

/-- What brings the tour to a later stage, or nearer to it. -/
def Helps : Stage → Tour.Event → Prop
  | .asking _, .errand .proceed | .counting .., .errand .proceed => True
  | .riding _ stage, .link event => Ride.Helps stage event
  | .riding _ stage, .listen _ => ∃ behind, stage.1 = .landed behind
  | _, _ => False

/-- What is offered takes nothing back. -/
def Progresses (itinerary : Itinerary) (session : Uuid) (since : Nat) (tour : Tour)
    (event : Tour.Event) : Prop :=
  (Tour.machine session itinerary.taxi).Progresses (itinerary.At session since)
    (itinerary.Completed since) itinerary.rank Helps tour event

variable {session : Uuid} {since count index left : Nat} {stage : Ride.Stage} {tour : Tour}

/-! ### What Central and the taxi do -/

/-- A ride which was asked for goes on, and none begins by itself. -/
theorem Brought.linked (brought : itinerary.Brought session since count stage tour)
    (possible : itinerary.Possible) {event : Link.Event} (allows : (itinerary.ride 0).Allows event)
    (begun : stage ≠ .free → count < itinerary.services.length) :
    ∃ next, itinerary.Brought session since count next
        { tour with link := (Link.machine session itinerary.taxi).offer tour.link event } ∧
      Ride.Later stage event next ∧ (stage = .free → next = .free) := by
  obtain ⟨within, named, admitted, services, here, reached, told⟩ := brought
  have heard : tour.offset ≤ tour.link.responses.length := by
    obtain ⟨_, running, _⟩ := here
    exact running.since
  have allowed : (itinerary.ride count).Allows event := allows
  obtain ⟨next, goes⟩ :=
    Ride.advances possible.literal (fun free => possible.ride (begun free)) allowed here
  refine ⟨next, ⟨within, named, admitted, services, goes.here, reached, ?_⟩, goes.later, ?_⟩
  · rw [Tour.ends_link heard]
    exact told
  · rintro rfl
    rcases goes.goesOn with rfl | ⟨pending, _⟩
    · rfl
    · exact pending.elim

theorem progresses_link (possible : itinerary.Possible) {event : Link.Event}
    (allows : (itinerary.ride 0).Allows event) :
    itinerary.Progresses session since tour (.link event) := by
  intro stage here
  rw [Tour.offer_link]
  right
  cases stage with
  | asking count =>
      obtain ⟨brought, errand⟩ := here
      obtain ⟨next, linked, _, kept⟩ := brought.linked possible allows (absurd rfl)
      obtain rfl := kept rfl
      exact ⟨.asking count, ⟨linked, errand⟩, .inr ⟨rfl, id⟩⟩
  | riding count stage =>
      obtain ⟨stage, begun⟩ := stage
      obtain ⟨brought, errand, within⟩ := here
      obtain ⟨next, linked, later, _⟩ := brought.linked possible allows fun _ => within
      rcases later with lower | ⟨rfl, idle⟩
      · exact ⟨.riding count ⟨next, Ride.not_free_of_lower lower⟩, ⟨linked, errand, within⟩,
          .inl (by simp [rank, Prod.Lex.toLex_lt_toLex, lower])⟩
      · exact ⟨.riding count ⟨next, begun⟩, ⟨linked, errand, within⟩, .inr ⟨rfl, idle⟩⟩
  | counting index left =>
      obtain ⟨brought, errand, updates⟩ := here
      obtain ⟨next, linked, _, kept⟩ := brought.linked possible allows (absurd rfl)
      obtain rfl := kept rfl
      exact ⟨.counting index left, ⟨linked, errand, updates⟩, .inr ⟨rfl, id⟩⟩

/-! ### What the customer does -/

/-- What the customer sends changes nothing, if it has nothing to do with a ride. -/
theorem Brought.posted (brought : itinerary.Brought session since count stage tour) {letter : Letter}
    (bypass : letter.Bypasses itinerary.taxi) :
    itinerary.Brought session since count stage
      { tour with link := { tour.link with requests := tour.link.requests ++ [letter] } } where
  within := brought.within
  named := brought.named
  admitted := brought.admitted
  services := brought.services
  here := brought.here.posted bypass
  reached := brought.reached
  told := brought.told

theorem At.posted {stage : Stage} (here : itinerary.At session since stage tour) {letter : Letter}
    (bypass : letter.Bypasses itinerary.taxi) :
    itinerary.At session since stage
      { tour with link := { tour.link with requests := tour.link.requests ++ [letter] } } := by
  cases stage <;> exact ⟨here.1.posted bypass, here.2⟩

/-- A ping of the customer, and an update of its next request, have nothing to do with a ride. -/
theorem Possible.bypasses (possible : itinerary.Possible) {message : Message} {epoch : Nat}
    (subject : message.subject = .request .customerPing ∨
      message.subject = .request .customerUpdateNextRequest)
    (named : message.id = itinerary.customer) :
    Letter.Bypasses itinerary.taxi ⟨message, epoch, false⟩ := by
  have quoted : Statement.quotable message.id = true := by
    rw [named]
    exact possible.literal
  intro kind asked
  have same : message.subject = .request kind := asked
  rcases subject with subject | subject <;> rw [subject] at same <;> cases same <;> exact quoted

/-- The customer pings wherever the tour is. -/
theorem At.pings {stage : Stage} (here : itinerary.At session since stage tour) :
    ∃ sent : FullMessage, tour.customer.turn .ping = some (tour.customer, [sent]) ∧
      sent.1.subject = .request .customerPing ∧ sent.1.id = itinerary.customer := by
  cases stage with
  | asking | riding | counting =>
      obtain ⟨brought, errand⟩ := here
      refine ⟨⟨{ Message.request tour.customer.request.1.session .customerPing with
        id := tour.customer.request.1.id }, tour.customer.request.2⟩, ?_, rfl, brought.named⟩
      simp [EcCustomer.turn, EcCustomer.ping, errand]

theorem progresses_ping (possible : itinerary.Possible) :
    itinerary.Progresses session since tour (.errand .ping) := by
  intro stage here
  obtain ⟨sent, pinged, subject, named⟩ := here.pings
  rw [Tour.offer_errand (by simp) pinged]
  refine .inr ⟨stage, here.posted (possible.bypasses (.inl subject) named), .inr ⟨rfl, ?_⟩⟩
  cases stage <;> exact id

/-- A customer which consumed no message in time takes nothing back. -/
theorem progresses_unheard :
    itinerary.Progresses session since tour (.errand (.consume none)) := by
  intro stage here
  have kept : (Tour.machine session itinerary.taxi).offer tour (.errand (.consume none)) = tour := by
    cases stage with
    | asking | counting =>
        obtain ⟨_, errand⟩ := here
        exact Tour.offer_errand_refused (by simp [EcCustomer.turn, errand])
    | riding =>
        obtain ⟨_, errand, _⟩ := here
        have turned : tour.customer.turn (.consume none) = some (tour.customer, []) := by
          simp [EcCustomer.turn, errand, EcCustomer.askService]
        rw [Tour.offer_errand (by simp) turned, Tour.turned_nil]
  rw [kept]
  refine .inr ⟨stage, here, .inr ⟨rfl, ?_⟩⟩
  cases stage <;> exact id

/-- The customer asks for its next service, or has come to the end of its list. -/
theorem asks_or_ends
    (brought : itinerary.Brought session since count .free tour)
    (errand : tour.customer.errand = .asking count) :
    itinerary.Completed since
        ((Tour.machine session itinerary.taxi).offer tour (.errand .proceed)) ∨
      ∃ next, itinerary.At session since next
          ((Tour.machine session itinerary.taxi).offer tour (.errand .proceed)) ∧
        itinerary.rank next < itinerary.rank (.asking count) := by
  obtain ⟨within, named, admitted, services, here, reached, told⟩ := brought
  cases found : itinerary.services[count]? with
  | none =>
      have turned : tour.customer.turn .proceed =
          some ({ tour.customer with errand := .ended }, []) := by
        simp [EcCustomer.turn, EcCustomer.proceed, errand, services, found]
      have all : count = itinerary.services.length :=
        Nat.le_antisymm within (List.getElem?_eq_none_iff.mp found)
      obtain ⟨_, _, ⟨_, free, _⟩, _⟩ := here
      rw [Tour.offer_errand (by simp) turned, Tour.turned_nil]
      refine .inl ⟨rfl, all ▸ told, ?_⟩
      rw [← all]
      exact free.waiting
  | some service =>
      obtain ⟨inList, listed⟩ := List.getElem?_eq_some_iff.mp found
      let asked : FullMessage :=
        ⟨{ tour.customer.request.1 with
          subject := .request .customerServiceRequest }.setCharData service, tour.customer.request.2⟩
      have turned : tour.customer.turn .proceed =
          some ({ tour.customer with request := asked, errand := .waiting count }, [asked]) := by
        simp [EcCustomer.turn, EcCustomer.proceed, errand, services, found, asked]
      have asks : (itinerary.ride count).Asks session asked.1 :=
        ⟨rfl, admitted, named, by simp [asked, ride, found]⟩
      rw [Tour.offer_errand (by simp) turned]
      refine .inr ⟨.riding count ⟨.asked tour.link.requests.length, by simp⟩,
        ⟨⟨within, named, admitted, services, ?_, reached, told⟩, rfl, inList⟩,
        by simp [rank, Prod.Lex.toLex_lt_toLex]⟩
      exact @Ride.At.asked _ _ _ _ ⟨asked.1, tour.link.epoch, false⟩ here asks

/-- The customer counts down, and is at its next service then. -/
theorem counts_down (possible : itinerary.Possible)
    (brought : itinerary.Brought session since (index + 1) .free tour)
    (errand : tour.customer.errand = .counting index left)
    (updates : tour.customer.request.1.subject = .request .customerUpdateNextRequest) :
    ∃ next, itinerary.At session since next
        ((Tour.machine session itinerary.taxi).offer tour (.errand .proceed)) ∧
      itinerary.rank next < itinerary.rank (.counting index left) := by
  cases left with
  | zero =>
      have turned : tour.customer.turn .proceed =
          some ({ tour.customer with errand := .asking (index + 1) }, []) := by
        simp [EcCustomer.turn, EcCustomer.proceed, errand]
      have within := brought.within
      rw [Tour.offer_errand (by simp) turned, Tour.turned_nil]
      refine ⟨.asking (index + 1), ⟨⟨within, brought.named, brought.admitted, brought.services,
        brought.here, brought.reached, brought.told⟩, rfl⟩, ?_⟩
      simp [rank, Prod.Lex.toLex_lt_toLex]
      omega
  | succ left =>
      let request : FullMessage :=
        ⟨tour.customer.request.1.setIntData (Int32.ofNat left), tour.customer.request.2⟩
      have turned : tour.customer.turn .proceed =
          some ({ tour.customer with request := request, errand := .counting index left },
            [request]) := by
        simp [EcCustomer.turn, EcCustomer.proceed, errand, request]
      have bypass : Letter.Bypasses itinerary.taxi ⟨request.1, tour.link.epoch, false⟩ :=
        possible.bypasses (.inr updates) brought.named
      rw [Tour.offer_errand (by simp) turned]
      exact ⟨.counting index left, ⟨⟨brought.within, brought.named, brought.admitted,
        brought.services, brought.here.posted bypass, brought.reached, brought.told⟩, rfl, updates⟩,
        by simp [rank, Prod.Lex.toLex_lt_toLex]⟩

theorem progresses_proceed (possible : itinerary.Possible) :
    itinerary.Progresses session since tour (.errand .proceed) := by
  intro stage here
  cases stage with
  | asking count =>
      obtain ⟨brought, errand⟩ := here
      rcases asks_or_ends brought errand with completed | ⟨next, there, lower⟩
      · exact .inl completed
      · exact .inr ⟨next, there, .inl lower⟩
  | riding count stage =>
      have refused : tour.customer.turn .proceed = none := by
        simp [EcCustomer.turn, EcCustomer.proceed, here.2.1]
      rw [Tour.offer_errand_refused refused]
      exact .inr ⟨.riding count stage, here, .inr ⟨rfl, id⟩⟩
  | counting index left =>
      obtain ⟨brought, errand, updates⟩ := here
      obtain ⟨next, there, lower⟩ := counts_down possible brought errand updates
      exact .inr ⟨next, there, .inl lower⟩

end Itinerary

namespace EcCustomer

variable {customer : EcCustomer} {letter : Letter} {beyond : Beyond} {index : Nat}

/-- A response which does not end what the customer waits for leaves it as it is. -/
theorem askService_open (open_ : ¬ letter.Ends customer.request.1.id) :
    customer.askService index (some (letter.message.read beyond)) = customer := by
  by_cases named : letter.message.id = customer.request.1.id
  · cases told : letter.message.subject with
    | response subject =>
        have heard : response? (letter.message.read beyond) = some subject := by
          simp [response?, told]
        cases subject <;> simp_all [askService, Letter.Ends]
    | _ =>
        have unheard : response? (letter.message.read beyond) = none := by simp [response?, told]
        simp [askService, named, unheard]
  · simp [askService, named]

/-- A customer which has arrived counts down. -/
theorem askService_arrived (completed : letter.message.word? = some (.completed customer.request.1.id)) :
    customer.askService index (some (letter.message.read beyond)) =
      { customer with
        request := ⟨{ customer.request.1 with
          subject := .request .customerUpdateNextRequest }, customer.request.2⟩
        errand := .counting index 4 } := by
  obtain ⟨subject, named⟩ := completed_of_word completed
  have heard : response? (letter.message.read beyond) = some .customerServiceCompleted := by
    simp [response?, subject]
  simp [askService, named, heard]

end EcCustomer

namespace Itinerary

variable {itinerary : Itinerary} {session : Uuid} {since count : Nat} {stage : Ride.Stage}
  {tour : Tour} {letter : Letter}

/-- A response which ends nothing was consumed. -/
theorem Brought.listened (brought : itinerary.Brought session since count stage tour)
    (waiting : tour.link.responses[tour.offset]? = some letter)
    (open_ : ¬ letter.Ends itinerary.customer) :
    ∃ next, itinerary.Brought session since count next { tour with offset := tour.offset + 1 } ∧
      (next.rank < stage.rank ∨ next = stage ∧ ∀ behind, stage ≠ .landed behind) := by
  obtain ⟨next, here, later⟩ := brought.here.listened waiting open_
  refine ⟨next, ⟨brought.within, brought.named, brought.admitted, brought.services, here,
    Nat.le_succ_of_le brought.reached, ?_⟩, later⟩
  have same := @Tour.ends_listened tour itinerary.customer since letter tour.customer
    brought.reached waiting
  rw [if_neg open_, List.append_nil] at same
  rw [same]
  exact brought.told

/-- The response which ends the ride was consumed, and the customer is where the next ride
begins. -/
theorem Brought.arrived (brought : itinerary.Brought session since count stage tour)
    (within : count < itinerary.services.length)
    (waiting : tour.link.responses[tour.offset]? = some letter)
    (ends : letter.Ends itinerary.customer) {next : EcCustomer}
    (named : next.request.1.id = itinerary.customer) (admitted : next.request.1.session = session.1)
    (services : next.services = some itinerary.services) :
    letter.message.word? = some (.completed itinerary.customer) ∧
      itinerary.Brought session since (count + 1) .free
        { tour with customer := next, offset := tour.offset + 1 } := by
  obtain ⟨completed, taxi, running, rests, free, undecided, spared, silent⟩ :=
    brought.here.arrived waiting ends
  refine ⟨completed, within, named, admitted, services, ?_, Nat.le_succ_of_le brought.reached, ?_⟩
  · refine ⟨taxi, ⟨running.running, running.signs, running.underway, running.allowed,
      running.requests, running.since, running.position⟩, ⟨rests, ?_, undecided, spared⟩, silent⟩
    exact ⟨⟨free.idle, free.only, free.places, free.present⟩, free.empty, free.waiting⟩
  · rw [Tour.ends_listened brought.reached waiting, if_pos ends, List.map_append, brought.told,
      List.map_singleton, completed]
    exact List.replicate_succ'.symm

/-- Where the customer does not consume, nothing happens. -/
theorem offer_listen_refused {beyond : Beyond}
    (refused : ∀ message, tour.customer.turn (.consume (some message)) = none) :
    (Tour.machine session itinerary.taxi).offer tour (.listen beyond) = tour := by
  apply Machine.offer_of_refused
  change Tour.step session itinerary.taxi tour (.listen beyond) = none
  cases waiting : tour.link.responses[tour.offset]? <;> simp [Tour.step, waiting, refused]

theorem progresses_listen {beyond : Beyond} :
    itinerary.Progresses session since tour (.listen beyond) := by
  intro stage here
  cases stage with
  | asking | counting =>
      have refused (message : FullMessage) : tour.customer.turn (.consume (some message)) = none := by
        obtain ⟨_, errand⟩ := here
        simp [EcCustomer.turn, errand]
      rw [offer_listen_refused refused]
      exact .inr ⟨_, here, .inr ⟨rfl, id⟩⟩
  | riding count stage =>
      obtain ⟨stage, begun⟩ := stage
      obtain ⟨brought, errand, within⟩ := here
      right
      cases waiting : tour.link.responses[tour.offset]? with
      | none =>
          have refused : (Tour.machine session itinerary.taxi).step tour (.listen beyond) = none := by
            change Tour.step session itinerary.taxi tour (.listen beyond) = none
            simp [Tour.step, waiting]
          rw [Machine.offer_of_refused refused]
          refine ⟨.riding count ⟨stage, begun⟩, ⟨brought, errand, within⟩, .inr ⟨rfl, ?_⟩⟩
          rintro ⟨behind, landed⟩
          exact brought.here.not_landed waiting behind landed
      | some letter =>
          have turned : tour.customer.turn (.consume (some (letter.message.read beyond))) =
              some (tour.customer.askService count (some (letter.message.read beyond)), []) := by
            simp [EcCustomer.turn, errand]
          rw [Tour.offer_listen waiting turned, Tour.turned_nil]
          by_cases ends : letter.Ends itinerary.customer
          · obtain ⟨completed, _⟩ := brought.here.arrived waiting ends
            have named : itinerary.customer = tour.customer.request.1.id := brought.named.symm
            rw [EcCustomer.askService_arrived (named ▸ completed)]
            obtain ⟨_, there⟩ := @Brought.arrived _ _ _ _ _ _ _ brought within waiting ends
              { tour.customer with
                request := ⟨{ tour.customer.request.1 with
                  subject := .request .customerUpdateNextRequest }, tour.customer.request.2⟩
                errand := .counting count 4 } brought.named brought.admitted brought.services
            exact ⟨.counting count 4, ⟨there, rfl, rfl⟩,
              .inl (by simp [rank, Prod.Lex.toLex_lt_toLex])⟩
          · rw [EcCustomer.askService_open (brought.named.symm ▸ ends)]
            obtain ⟨next, there, later⟩ := brought.listened waiting ends
            rcases later with lower | ⟨rfl, open_⟩
            · exact ⟨.riding count ⟨next, Ride.not_free_of_lower lower⟩, ⟨there, errand, within⟩,
                .inl (by simp [rank, Prod.Lex.toLex_lt_toLex, lower])⟩
            · refine ⟨.riding count ⟨next, begun⟩, ⟨there, errand, within⟩, .inr ⟨rfl, ?_⟩⟩
              rintro ⟨behind, landed⟩
              exact open_ behind landed

/-- What may happen during the tour takes nothing back. -/
theorem progresses (possible : itinerary.Possible) {event : Tour.Event}
    (allows : itinerary.Allows event) : itinerary.Progresses session since tour event := by
  cases event with
  | link event => exact progresses_link possible allows
  | listen beyond => exact progresses_listen
  | errand event =>
      cases event with
      | proceed => exact progresses_proceed possible
      | ping => exact progresses_ping possible
      | consume message =>
          cases message with
          | none => exact progresses_unheard
          | some message => exact allows.elim

/-! ### The tour -/

/-- The taxi is free, connected and at rest, and the customer is registered where the tour begins
and about to ask for its first service. Nothing of an earlier ride is on its way. -/
structure Starts (itinerary : Itinerary) (session : Uuid) (tour : Tour) : Prop where
  named : tour.customer.request.1.id = itinerary.customer
  admitted : tour.customer.request.1.session = session.1
  services : tour.customer.services = some itinerary.services
  errand : tour.customer.errand = .asking 0
  taxi : ∃ taxi, tour.link.taxi = some taxi ∧ taxi.Signs itinerary.taxi session ∧ taxi.Underway ∧
    taxi.orderedToStop = false ∧ taxi.pos = taxi.dest
  free : (itinerary.ride 0).Free itinerary.start tour.link.db.office
  requests : ∀ letter ∈ tour.link.requests, letter.Bypasses itinerary.taxi
  position : tour.link.position ≤ tour.link.responses.length
  unheard : ∀ letter ∈ tour.link.responses.drop tour.link.position,
    ¬ Letter.Orders itinerary.taxi letter
  offset : tour.offset ≤ tour.link.responses.length
  untold : ∀ letter ∈ tour.link.responses.drop tour.offset, ¬ letter.Ends itinerary.customer

/-- A tour which starts is at its first stage. -/
theorem Starts.at (starts : itinerary.Starts session tour) :
    itinerary.At session tour.offset (.asking 0) tour := by
  obtain ⟨taxi, running, signs, underway, allowed, rests⟩ := starts.taxi
  refine ⟨⟨Nat.zero_le _, starts.named, starts.admitted, starts.services, ⟨taxi, ⟨running, signs,
    underway, allowed, fun letter member _ => starts.requests letter member, starts.offset,
    starts.position⟩, ⟨rests, starts.free, fun letter member => ?_, starts.unheard⟩,
    starts.untold⟩, Nat.le_refl _, ?_⟩, starts.errand⟩
  · exact (starts.requests letter member).not_decides
  · simp [Tour.ends]

/-- Central consumes, the taxi listens, the sensor announces that there is nothing to wait for, and
the customer listens and goes on again and again; and nothing else happens than what may. -/
structure Fair (itinerary : Itinerary) (schedule : Nat → Tour.Event) : Prop where
  allows : ∀ time, itinerary.Allows (schedule time)
  consumes : Recurs schedule fun event =>
    ∃ now outages beyond, event = .link (.request now outages beyond)
  hears : Recurs schedule fun event => ∃ beyond, event = .link (.hear beyond)
  announces : Recurs schedule fun event =>
    ∃ waitTime again, event = .link (.turn (.tick waitTime again)) ∧ ¬ 0 < waitTime
  listens : Recurs schedule fun event => ∃ beyond, event = .listen beyond
  proceeds : Recurs schedule fun event => event = .errand .proceed

/-- What helps at a stage happens again and again. -/
theorem Fair.helps {schedule : Nat → Tour.Event} (fair : itinerary.Fair schedule) (stage : Stage) :
    Recurs schedule (Helps stage) := by
  intro time
  cases stage with
  | asking | counting =>
      obtain ⟨later, passed, scheduled⟩ := fair.proceeds time
      exact ⟨later, passed, by rw [scheduled]; trivial⟩
  | riding count stage =>
      obtain ⟨stage, begun⟩ := stage
      cases stage with
      | free => exact absurd rfl begun
      | asked | reported =>
          obtain ⟨later, passed, now, outages, beyond, scheduled⟩ := fair.consumes time
          exact ⟨later, passed, by rw [scheduled]; trivial⟩
      | ordered =>
          obtain ⟨later, passed, beyond, scheduled⟩ := fair.hears time
          exact ⟨later, passed, by rw [scheduled]; trivial⟩
      | driving =>
          obtain ⟨later, passed, waitTime, again, scheduled, elapsed⟩ := fair.announces time
          exact ⟨later, passed, by rw [scheduled]; exact elapsed⟩
      | landed behind =>
          obtain ⟨later, passed, beyond, scheduled⟩ := fair.listens time
          exact ⟨later, passed, by rw [scheduled]; exact ⟨behind, rfl⟩⟩

end Itinerary

/-! ### A tour in the town -/

namespace Town

/-- Taxi 1 attends a sensor, and customer 65 is to go to 74 and back to where its name is. -/
def enters : List Tour.Event :=
  (Link.firstRide ++ [.turn .check, .turn .connect, Link.consume 1]).map .link ++
    [.errand .proceed, .link (Link.consume 2), .listen Link.beyond]

/-- Central has started, and so has the customer. -/
def toured : Tour where
  link := .initial locations
  customer := .start 65 ⟨2, 1⟩ ⟨List.replicate 36 7, by decide⟩ (some [74, 65])
  offset := 0

/-- The customer is registered. -/
def entered : Tour := ((Tour.machine session 1).exec toured enters).getD toured

/-- What the customer is to do. -/
def outing : Itinerary := ⟨1, 65, [74, 65], ⟨2, 1⟩, entered.link.db.office.placeAt⟩

/-- Central, the taxi, the sensor and the customer have their turns one after the other. -/
def inTurns (time : Nat) : Tour.Event :=
  match time % 5 with
  | 0 => .link (Link.consume time)
  | 1 => .link (.hear Link.beyond)
  | 2 => .link (.turn (.tick 0 true))
  | 3 => .listen Link.beyond
  | _ => .errand .proceed

/-- The outing starts. -/
theorem entered_starts : outing.Starts session entered where
  named := by decide +kernel
  admitted := by decide +kernel
  services := by decide +kernel
  errand := by decide +kernel
  taxi := by
    refine ⟨{ EcDe.start 1 session with
      sensor := .attending ⟨{ Message.new with taxiId := 1, session := session.1 }, session.2⟩ },
      by decide +kernel, ⟨rfl, rfl, ?_⟩, ⟨⟨_, rfl⟩, rfl, rfl, by decide, by decide⟩, rfl, rfl⟩
    rintro message ⟨⟩
    exact ⟨rfl, rfl⟩
  free := free_of_rows (by decide +kernel) (by decide +kernel) (by decide +kernel) rfl
    (by decide +kernel) (by decide +kernel) (by decide +kernel)
  requests := by
    have nothing : entered.link.requests.length = 0 := by decide +kernel
    rw [List.eq_nil_of_length_eq_zero nothing]
    exact List.forall_mem_nil _
  position := by decide +kernel
  unheard := by decide +kernel
  offset := by decide +kernel
  untold := by decide +kernel

/-- The schedule `inTurns` gives each party its turn again and again. -/
theorem inTurns_fair : outing.Fair inTurns where
  allows := by
    intro time
    unfold inTurns
    split
    · rfl
    · trivial
    · rfl
    · trivial
    · trivial
  consumes := fun time => ⟨5 * time, by omega, 5 * time, [], Link.beyond, by
    simp [inTurns, Link.consume]⟩
  hears := fun time => ⟨5 * time + 1, by omega, Link.beyond, by simp [inTurns, Nat.add_mod]⟩
  announces := fun time => ⟨5 * time + 2, by omega, 0, true, by simp [inTurns, Nat.add_mod],
    by decide⟩
  listens := fun time => ⟨5 * time + 3, by omega, Link.beyond, by simp [inTurns, Nat.add_mod]⟩
  proceeds := fun time => ⟨5 * time + 4, by omega, by simp [inTurns, Nat.add_mod]⟩

end Town

/-- Every fair schedule completes all services of an itinerary which is `Possible` and `Starts`, one
after the other: the customer and its places can be quoted, a location has the name of the customer,
and all places are stored squares of the map; and the only connected taxi is free and at rest, and
the customer is about to ask for its first service. -/
theorem itinerary_completed (session : Uuid) (itinerary : Itinerary) (tour : Tour)
    (schedule : Nat → Tour.Event) (possible : itinerary.Possible)
    (starts : itinerary.Starts session tour) (fair : itinerary.Fair schedule) :
    ∃ due, itinerary.Completed tour.offset
      ((Tour.machine session itinerary.taxi).under schedule tour due) :=
  @Machine.goal_reached _ _ (Tour.machine session itinerary.taxi) _ _ _
    (itinerary.At session tour.offset) (itinerary.Completed tour.offset) itinerary.rank
    Itinerary.Helps schedule tour _ (fun time => Itinerary.progresses possible (fair.allows time))
    fair.helps (.asking 0) 0 starts.at

/-- The customer is brought to (7, 7) and from there to (3, 4). -/
theorem outing_completed : ∃ due, Town.outing.Completed Town.entered.offset
    ((Tour.machine Town.session 1).under Town.inTurns Town.entered due) :=
  itinerary_completed Town.session Town.outing Town.entered Town.inTurns
    ⟨by decide, by decide +kernel, by decide, by decide +kernel⟩ Town.entered_starts
    Town.inTurns_fair

end EasyCab
