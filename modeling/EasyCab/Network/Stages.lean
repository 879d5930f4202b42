import EasyCab.Central.Ride
import EasyCab.De.ShortestPath
import EasyCab.Library.Progress
import EasyCab.Network.Agreement

/-!
# Stages of a ride

Central and one taxi, with a customer who asks for a ride. What the ride waits for is a request in
the one queue, a response in the other or a move of the taxi, and the stages say which. Others may
send what has nothing to do with the ride, and that takes nothing back.
-/

namespace EasyCab

open Library

/-! ### Turns of a taxi which is underway -/

namespace EcDe

variable {taxi next : EcDe} {message : FullMessage}

/-- A taxi which goes on running goes on listening. -/
theorem listening_kept (running : taxi.stop = false) (listens : taxi.listening = true) :
    { taxi with listening := !taxi.stop } = taxi := by
  cases taxi
  simp_all

/-- An order which does not dismiss the taxi is obeyed. -/
theorem turn_ordered {subject : SubjResponse} {acts : List Act} (underway : taxi.Underway)
    (ordered : taxi.order? message = some subject) (obeyed : taxi.obey message subject = (next, acts))
    (running : next.stop = false) (listens : next.listening = true) :
    taxi.turn (.consume (some message)) = some (next, acts) := by
  simp [turn, underway.listens, listenKafka, ordered, obeyed, listening_kept running listens]

/-- A response which is not for the taxi changes nothing. -/
theorem turn_spared (underway : taxi.Underway) (spared : isFor taxi.id message.1 = false) :
    taxi.turn (.consume (some message)) = some (taxi, []) := by
  cases ordered : taxi.order? message with
  | none =>
      simp [turn, underway.listens, listenKafka, ordered,
        listening_kept underway.running underway.listens]
  | some subject =>
      obtain ⟨told, named⟩ := order?_eq_some_iff.mp ordered
      refine turn_ordered underway ordered ?_ underway.running underway.listens
      cases subject <;> simp [isFor, told, named] at spared <;> rfl

/-- An order to go where the taxi is makes it say so. -/
theorem turn_goTo_here (underway : taxi.Underway)
    (told : message.1.subject = .response .taxiGoTo) (named : message.1.taxiId = taxi.id)
    (here : taxi.pos = message.1.coord) :
    taxi.turn (.consume (some message)) = some (taxi, [.produce
      ⟨{ message.1 with
          subject := .request .taxiDestinationReached
          coord := taxi.pos
          session := taxi.session.1 }, taxi.session.2⟩]) := by
  have ordered : taxi.order? message = some .taxiGoTo := order?_eq_some_iff.mpr ⟨told, named⟩
  exact turn_ordered underway ordered (if_pos here) underway.running underway.listens

/-- An order to go elsewhere gives the taxi its destination. -/
theorem turn_goTo_away (underway : taxi.Underway)
    (told : message.1.subject = .response .taxiGoTo) (named : message.1.taxiId = taxi.id)
    (away : taxi.pos ≠ message.1.coord) :
    taxi.turn (.consume (some message)) = some ({ taxi with dest := message.1.coord }, []) := by
  have ordered : taxi.order? message = some .taxiGoTo := order?_eq_some_iff.mpr ⟨told, named⟩
  exact turn_ordered underway ordered (if_neg away) underway.running underway.listens

/-- A tick after which the sensor goes on leaves the taxi attending it. -/
theorem turn_tick {waitTime : Int32} {sent : Option FullMessage}
    (attends : taxi.sensor = .attending message)
    (drove : taxi.drive message waitTime = some (next, sent)) (running : next.stop = false) :
    taxi.turn (.tick waitTime true) =
      some ({ next with sensor := .attending (sent.getD message) },
        sent.toList.map .produce ++ [.answer (next.pos ≠ next.dest && !next.orderedToStop)]) := by
  simp [turn, attends, attend, drove, running]

/-- A waiting time is passed on. -/
theorem turn_waits {waitTime : Int32} (underway : taxi.Underway) (waiting : 0 < waitTime) :
    ∃ sent moving, taxi.turn (.tick waitTime true) =
        some ({ taxi with sensor := .attending sent }, [.produce sent, .answer moving]) ∧
      sent.1.subject = .request .taxiUpdateWaitTime := by
  obtain ⟨message, attends⟩ := underway.attends
  have drove : taxi.drive message waitTime = some (taxi, some _) := if_pos waiting
  exact ⟨_, _, turn_tick attends drove underway.running, rfl⟩

/-- A taxi which is where it is to go stays there. -/
theorem turn_rests {waitTime : Int32} (underway : taxi.Underway) (elapsed : ¬ 0 < waitTime)
    (there : taxi.pos = taxi.dest) :
    ∃ moving, taxi.turn (.tick waitTime true) = some (taxi, [.answer moving]) := by
  obtain ⟨message, attends⟩ := underway.attends
  have drove : taxi.drive message waitTime = some (taxi, none) := by simp [drive, elapsed, there]
  have same : { taxi with sensor := .attending message } = taxi := by
    rw [← attends]
  have ticked := turn_tick attends drove underway.running
  rw [Option.getD_none, same] at ticked
  exact ⟨_, ticked⟩

/-- A taxi which is on its way makes a move, and reports where it is then. -/
theorem turn_moves {waitTime : Int32} (underway : taxi.Underway) (allowed : taxi.orderedToStop = false)
    (elapsed : ¬ 0 < waitTime) (apart : taxi.pos ≠ taxi.dest) :
    ∃ move sent moving, taxi.turn (.tick waitTime true) =
        some ({ taxi with pos := move, sensor := .attending sent },
          [.produce sent, .answer moving]) ∧
      move.kingDistance taxi.dest < taxi.pos.kingDistance taxi.dest ∧ sent.1.coord = move ∧
      sent.1.subject = .request
        (if move = taxi.dest then .taxiDestinationReached else .taxiMove) := by
  obtain ⟨message, attends⟩ := underway.attends
  obtain ⟨move, sent, drove, moveInGrid, closer, _⟩ := @drive_moves taxi message waitTime
    underway.inMap elapsed apart (by simp [allowed])
  have far : taxi.toGo ≠ 0 := fun none => apart ((toGo_eq_zero_iff underway.inMap).mp none)
  have nearer : move.kingDistance taxi.dest < taxi.toGo := by omega
  refine ⟨move, sent, _, turn_tick attends drove underway.running, nearer, ?_⟩
  generalize moved : ({ taxi with pos := move } : EcDe) = after at drove
  generalize reported : some sent = report at drove
  cases driven_of_drive drove with
  | waits waiting => exact absurd waiting elapsed
  | moves _ _ _ move' =>
      obtain rfl : move = move' := congrArg EcDe.pos moved
      cases reported
      simp
  | rests held => cases reported

end EcDe

/-! ### Letters -/

namespace Letter

/-- The letter asks for a ride, or says that a taxi is where it was sent. -/
def Decides (letter : Letter) : Prop :=
  letter.message.subject = .request .customerServiceRequest ∨
    letter.message.subject = .request .taxiDestinationReached

/-- The letter is an order for the taxi. -/
def Orders (taxi : TaxiId) (letter : Letter) : Prop := isFor taxi letter.message = true

instance (taxi : TaxiId) (letter : Letter) : Decidable (letter.Orders taxi) := by
  unfold Orders
  infer_instance

/-- The letter ends what a customer is waiting for. -/
def Ends (customer : Id) (letter : Letter) : Prop :=
  letter.message.id = customer ∧
    (letter.message.subject = .response .customerServiceCompleted ∨
      letter.message.subject = .response .customerServiceDenied ∨
        letter.message.subject = .response .customerDisconnect)

instance (customer : Id) (letter : Letter) : Decidable (letter.Ends customer) := by
  unfold Ends
  infer_instance

/-- The letter has nothing to do with a ride of the taxi, or says how far the taxi is. -/
def Bypasses (taxi : TaxiId) (letter : Letter) : Prop :=
  ∀ subject, letter.message.subject = .request subject → subject.Bypasses taxi letter.message

variable {letter : Letter} {taxi : TaxiId}

/-- A letter which bypasses the taxi decides nothing. -/
theorem Bypasses.not_decides (bypasses : letter.Bypasses taxi) : ¬ letter.Decides := by
  rintro (asks | reaches)
  · exact bypasses _ asks
  · exact bypasses _ reaches

/-- A letter which bypasses the taxi still does so when it is read. -/
theorem Bypasses.read (bypasses : letter.Bypasses taxi) (beyond : Beyond) :
    ∀ subject, (letter.message.read beyond).1.subject = .request subject →
      subject.Bypasses taxi (letter.message.read beyond).1 := by
  intro subject asked
  rw [Message.read_subject] at asked
  have passes := bypasses subject asked
  unfold SubjRequest.Bypasses at passes ⊢
  rwa [Message.read_id, Message.read_taxiId]

end Letter

/-- What is no word for a taxi is no order. -/
theorem isFor_of_spares {message : Message} {taxi : TaxiId} (spares : KafkaServer.Spares message) :
    isFor taxi message = false := by
  obtain ⟨word, read, silent, _⟩ := spares
  unfold Message.word? at read
  unfold isFor
  split at read
  case h_1 | h_2 | h_3 | h_4 =>
    obtain rfl := Option.some.inj read
    exact absurd trivial silent
  all_goals simp_all

/-- What ends nothing ends nothing for a customer. -/
theorem not_ends_of_spares {letter : Letter} {customer : Id}
    (spares : KafkaServer.Spares letter.message) : ¬ letter.Ends customer := by
  obtain ⟨word, read, _, ending⟩ := spares
  rintro ⟨_, ends⟩
  unfold Message.word? at read
  rcases ends with ends | ends | ends <;> rw [ends] at read <;>
    obtain rfl := Option.some.inj read <;> exact ending trivial

/-- A word which sends a taxi somewhere is a `TAXI_GO_TO` for it. -/
theorem goTo_of_word {message : Message} {taxi : TaxiId} {coord : Coordinate}
    (read : message.word? = some (.goTo taxi coord)) :
    message.subject = .response .taxiGoTo ∧ message.taxiId = taxi ∧ message.coord = coord := by
  unfold Message.word? at read
  split at read <;> simp_all

/-- A word which tells a customer that it has arrived is a `CUSTOMER_SERVICE_COMPLETED` for it. -/
theorem completed_of_word {message : Message} {customer : Id}
    (read : message.word? = some (.completed customer)) :
    message.subject = .response .customerServiceCompleted ∧ message.id = customer := by
  unfold Message.word? at read
  split at read <;> simp_all

/-- Central has consumed a request. -/
def Link.consumed (link : Link) (requests : List Letter) (epoch : Nat)
    (outcome : Outcome KafkaServer Act Unit) : Link :=
  { link with
    db := outcome.state.db
    response := outcome.state.response
    requests := requests
    responses := link.responses ++ answers epoch outcome.acts }

/-! ### Stages of a ride -/

namespace Ride

/-- The customer and the place can be quoted, the place is where the ride ends, and the squares are
in the map. -/
structure Possible (ride : Ride.Central) : Prop where
  literal : Statement.quotable ride.customer = true
  literalPlace : Statement.quotable ride.place = true
  destined : ride.placeAt ride.place = some ride.dropOff
  /-- A customer can be assigned only if a location has its name. -/
  namesake : (ride.placeAt ride.customer).isSome
  pickUp : ride.pickUp.InGrid
  dropOff : ride.dropOff.InGrid

/-- The message asks for the ride. -/
structure Asks (ride : Ride.Central) (session : Uuid) (message : Message) : Prop where
  subject : message.subject = .request .customerServiceRequest
  admitted : message.session = session.1
  customer : message.id = ride.customer
  place : message.charFromData = ride.place

/-- The message says that the taxi is at the end of a leg. -/
structure Reports (ride : Ride.Central) (session : Uuid) (leg : Leg) (message : Message) : Prop where
  subject : message.subject = .request .taxiDestinationReached
  admitted : message.session = session.1
  taxi : message.taxiId = ride.taxi
  coord : message.coord = ride.target leg

/-- How far a ride has got, and what comes before the next thing to happen. -/
inductive Stage where
  | free
  | asked (behind : Nat)
  | ordered (leg : Leg) (behind : Nat)
  | driving (leg : Leg) (toGo : Nat)
  | reported (leg : Leg) (behind : Nat)
  | landed (behind : Nat)

/-- How much is left to do. -/
def Stage.rank : Stage → Nat ×ₗ Nat
  | .free => toLex (8, 0)
  | .asked behind => toLex (7, behind)
  | .ordered .toCustomer behind => toLex (6, behind)
  | .driving .toCustomer toGo => toLex (5, toGo)
  | .reported .toCustomer behind => toLex (4, behind)
  | .ordered .toPlace behind => toLex (3, behind)
  | .driving .toPlace toGo => toLex (2, toGo)
  | .reported .toPlace behind => toLex (1, behind)
  | .landed behind => toLex (0, behind)

/-- What the books, the queues and the squares of the taxi are at a stage. -/
def Scene (ride : Ride.Central) (session : Uuid) (office : Office) (requests unheard : List Letter)
    (pos dest : Coordinate) : Stage → Prop
  | .free =>
      pos = dest ∧ ride.Free ride.pickUp office ∧ Clear Letter.Decides requests ∧
        Clear (Letter.Orders ride.taxi) unheard
  | .asked behind =>
      pos = dest ∧ ride.Free ride.pickUp office ∧ Clear (Letter.Orders ride.taxi) unheard ∧
        ∃ letter, Awaits Letter.Decides requests letter behind ∧ ride.Asks session letter.message
  | .ordered leg behind =>
      pos = dest ∧ ride.OnLeg leg office ∧ Clear Letter.Decides requests ∧
        ∃ letter, Awaits (Letter.Orders ride.taxi) unheard letter behind ∧
          letter.message.word? = some (.goTo ride.taxi (ride.target leg))
  | .driving leg toGo =>
      pos ≠ dest ∧ dest = ride.target leg ∧ pos.kingDistance dest = toGo ∧ ride.OnLeg leg office ∧
        Clear Letter.Decides requests ∧ Clear (Letter.Orders ride.taxi) unheard
  | .reported leg behind =>
      pos = dest ∧ ride.OnLeg leg office ∧ Clear (Letter.Orders ride.taxi) unheard ∧
        ∃ letter, Awaits Letter.Decides requests letter behind ∧
          ride.Reports session leg letter.message
  | .landed _ =>
      pos = dest ∧ ride.Free ride.dropOff office ∧ Clear Letter.Decides requests ∧
        Clear (Letter.Orders ride.taxi) unheard

/-- What the customer is told: nothing that ends its waiting, until the ride is over. -/
def Told (ride : Ride.Central) (untold : List Letter) : Stage → Prop
  | .landed behind =>
      ∃ letter, Awaits (Letter.Ends ride.customer) untold letter behind ∧
        letter.message.word? = some (.completed ride.customer)
  | _ => Clear (Letter.Ends ride.customer) untold

/-- The taxi is underway, and what waits for Central is known. `since` is how many responses the
customer has consumed. -/
structure Running (ride : Ride.Central) (session : Uuid) (since : Nat) (link : Link) (taxi : EcDe) :
    Prop where
  running : link.taxi = some taxi
  signs : taxi.Signs ride.taxi session
  underway : taxi.Underway
  allowed : taxi.orderedToStop = false
  requests : ∀ letter ∈ link.requests, ¬ letter.Decides → letter.Bypasses ride.taxi
  since : since ≤ link.responses.length
  position : link.position ≤ link.responses.length

/-- The ride is at a stage. -/
def At (ride : Ride.Central) (session : Uuid) (since : Nat) (stage : Stage) (link : Link) : Prop :=
  ∃ taxi, ride.Running session since link taxi ∧
    ride.Scene session link.db.office link.requests (link.responses.drop link.position) taxi.pos
        taxi.dest stage ∧
      ride.Told (link.responses.drop since) stage

/-- What may happen during the ride. -/
def Allows (ride : Ride.Central) : Link.Event → Prop
  | .request _ outages _ => outages = []
  | .post message => Letter.Bypasses ride.taxi ⟨message, 0, false⟩
  | .turn (.tick _ again) => again = true
  | .turn .ping | .turn (.consume none) | .hear _ | .select .. | .commit => True
  | _ => False

/-- What brings the ride to a later stage, or nearer to it. -/
def Helps : Stage → Link.Event → Prop
  | .asked _, .request .. | .reported .., .request .. | .ordered .., .hear _ => True
  | .driving .., .turn (.tick waitTime _) => ¬ 0 < waitTime
  | _, _ => False

/-- The stage is a later one, or nearer to its end, or is the same and the event did not help. -/
def Later (stage : Stage) (event : Link.Event) (next : Stage) : Prop :=
  next.rank < stage.rank ∨ next = stage ∧ ¬ Helps stage event

/-- The ride has begun and is not over. -/
def Stage.Pending : Stage → Prop
  | .free | .landed _ => False
  | _ => True

/-- After an event the ride is at a stage which is no earlier. Nothing begins by itself, and where
the ride has just ended, the customer and the taxi are where the place was. -/
structure Goes (ride : Ride.Central) (session : Uuid) (since : Nat) (stage : Stage)
    (event : Link.Event) (after : Link) (next : Stage) : Prop where
  here : ride.At session since next after
  later : Later stage event next
  goesOn : next = stage ∨ stage.Pending ∧ (next.Pending ∨ ride.Over after.db.office)

/-- What is offered takes nothing back. -/
def Advances (ride : Ride.Central) (session : Uuid) (since : Nat) (link : Link) (stage : Stage)
    (event : Link.Event) : Prop :=
  ride.At session since stage link →
    ∃ next, ride.Goes session since stage event ((Link.machine session ride.taxi).offer link event)
      next

variable {ride : Ride.Central} {session : Uuid} {since : Nat} {link : Link} {taxi : EcDe}
  {office : Office} {requests unheard more : List Letter} {pos dest : Coordinate} {stage : Stage}

/-- What is put into the queue and has nothing to do with the ride changes nothing. -/
theorem Scene.append (scene : ride.Scene session office requests unheard pos dest stage)
    (clear : Clear Letter.Decides more) :
    ride.Scene session office (requests ++ more) unheard pos dest stage := by
  cases stage with
  | free | landed behind =>
      obtain ⟨rests, free, undecided, spared⟩ := scene
      exact ⟨rests, free, undecided.append clear, spared⟩
  | asked behind =>
      obtain ⟨rests, free, spared, letter, awaits, asks⟩ := scene
      exact ⟨rests, free, spared, letter, awaits.append clear, asks⟩
  | ordered leg behind =>
      obtain ⟨rests, onLeg, undecided, ordered⟩ := scene
      exact ⟨rests, onLeg, undecided.append clear, ordered⟩
  | driving leg toGo =>
      obtain ⟨apart, heads, far, onLeg, undecided, spared⟩ := scene
      exact ⟨apart, heads, far, onLeg, undecided.append clear, spared⟩
  | reported leg behind =>
      obtain ⟨rests, onLeg, spared, letter, awaits, reports⟩ := scene
      exact ⟨rests, onLeg, spared, letter, awaits.append clear, reports⟩

/-! ### What others do -/

/-- At the same stage nothing has just ended. -/
theorem goes_same {event : Link.Event} {after : Link} (here : ride.At session since stage after)
    (idle : ¬ Helps stage event) : ride.Goes session since stage event after stage :=
  ⟨here, .inr ⟨rfl, idle⟩, .inl rfl⟩

/-- Nothing is lost where an event changes nothing and helps with nothing. -/
theorem advances_of_kept {event : Link.Event} (idle : ¬ Helps stage event)
    (kept : ride.At session since stage link →
      ride.At session since stage ((Link.machine session ride.taxi).offer link event)) :
    ride.Advances session since link stage event :=
  fun here => ⟨stage, goes_same (kept here) idle⟩

/-- A turn after which the taxi is underway, and sends what is known. -/
theorem Running.turned (running : ride.Running session since link taxi) {event : EcDe.Event}
    {after : EcDe} {acts : List EcDe.Act} (turned : taxi.turn event = some (after, acts))
    (underway : after.Underway) (allowed : after.orderedToStop = false)
    (known : ∀ sent ∈ Network.requestsOf acts, ¬ Letter.Decides ⟨sent.1, link.epoch, true⟩ →
      Letter.Bypasses ride.taxi ⟨sent.1, link.epoch, true⟩) :
    ride.Running session since (link.turned after acts) after where
  running := rfl
  signs := (running.signs.turn turned).1
  underway := underway
  allowed := allowed
  requests := by
    intro letter member other
    rcases List.mem_append.mp member with waiting | sent
    · exact running.requests letter waiting other
    · obtain ⟨message, produced, rfl⟩ := List.mem_map.mp sent
      exact known message produced other
  since := running.since
  position := running.position

/-- A turn which leaves the taxi where it is and sends nothing of the ride. -/
theorem at_of_turned (running : ride.Running session since link taxi)
    (scene : ride.Scene session link.db.office link.requests (link.responses.drop link.position)
      taxi.pos taxi.dest stage) (told : ride.Told (link.responses.drop since) stage)
    {event : EcDe.Event} {after : EcDe} {acts : List EcDe.Act}
    (turned : taxi.turn event = some (after, acts)) (underway : after.Underway)
    (allowed : after.orderedToStop = false) (pos : after.pos = taxi.pos)
    (dest : after.dest = taxi.dest)
    (bypass : ∀ sent ∈ Network.requestsOf acts,
      Letter.Bypasses ride.taxi ⟨sent.1, link.epoch, true⟩) :
    ride.At session since stage (link.turned after acts) := by
  refine ⟨after, running.turned turned underway allowed fun sent member _ => bypass sent member, ?_,
    told⟩
  rw [pos, dest]
  refine scene.append fun letter member => ?_
  obtain ⟨sent, produced, rfl⟩ := List.mem_map.mp member
  exact (bypass sent produced).not_decides

/-- The taxi is underway as before when something was put into the queue. -/
theorem Running.posted {letter : Letter} (running : ride.Running session since link taxi)
    (known : ¬ letter.Decides → letter.Bypasses ride.taxi) :
    ride.Running session since { link with requests := link.requests ++ [letter] } taxi where
  running := running.running
  signs := running.signs
  underway := running.underway
  allowed := running.allowed
  requests := by
    intro other member undecided
    rcases List.mem_append.mp member with waiting | posted
    · exact running.requests other waiting undecided
    · obtain rfl := List.mem_singleton.mp posted
      exact known undecided
  since := running.since
  position := running.position

/-- What others send has nothing to do with the ride. -/
theorem At.posted {letter : Letter} (here : ride.At session since stage link)
    (bypass : letter.Bypasses ride.taxi) :
    ride.At session since stage { link with requests := link.requests ++ [letter] } := by
  obtain ⟨taxi, running, scene, told⟩ := here
  exact ⟨taxi, running.posted fun _ => bypass,
    scene.append (clear_cons.mpr ⟨bypass.not_decides, clear_nil⟩), told⟩

theorem advances_post {message : Message} (bypasses : Letter.Bypasses ride.taxi ⟨message, 0, false⟩) :
    ride.Advances session since link stage (.post message) := by
  refine advances_of_kept (by cases stage <;> exact id) fun here => ?_
  cases refused : Link.reportsFor ride.taxi message with
  | true =>
      have stepped : (Link.machine session ride.taxi).step link (.post message) = none := if_pos refused
      rwa [Machine.offer_of_refused stepped]
  | false =>
      have stepped : (Link.machine session ride.taxi).step link (.post message) =
          some { link with requests := link.requests ++ [⟨message, link.epoch, false⟩] } :=
        if_neg (by simp [refused])
      rw [Machine.offer_of_step stepped]
      exact here.posted bypasses

theorem advances_commit : ride.Advances session since link stage .commit := by
  refine advances_of_kept (by cases stage <;> exact id) fun here => ?_
  obtain ⟨taxi, running, scene, told⟩ := here
  have stepped : (Link.machine session ride.taxi).step link .commit =
      some { link with committed := link.position } := if_pos (by simp [running.running])
  rw [Machine.offer_of_step stepped]
  exact ⟨taxi, ⟨running.running, running.signs, running.underway, running.allowed, running.requests,
    running.since, running.position⟩, scene, told⟩

theorem advances_select {now : Timestamp} {outages : List Bool} :
    ride.Advances session since link stage (.select now outages) := by
  refine advances_of_kept (by cases stage <;> exact id) fun here => ?_
  obtain ⟨taxi, running, scene, told⟩ := here
  by_cases idle : link.strays = []
  · have stepped : (Link.machine session ride.taxi).step link (.select now outages) =
        some { link with
          strays := ((KafkaServer.checkStrays now outages link.db).acts ()).map
            fun message => ⟨message, link.epoch, false⟩ } := if_pos idle
    rw [Machine.offer_of_step stepped]
    exact ⟨taxi, ⟨running.running, running.signs, running.underway, running.allowed,
      running.requests, running.since, running.position⟩, scene, told⟩
  · have stepped : (Link.machine session ride.taxi).step link (.select now outages) = none :=
      if_neg idle
    rw [Machine.offer_of_refused stepped]
    exact ⟨taxi, running, scene, told⟩

/-- A turn of the taxi is what the link does. -/
theorem offer_turn {event : EcDe.Event} {after : EcDe} {acts : List EcDe.Act}
    (running : link.taxi = some taxi) (deaf : ∀ message, event ≠ .consume (some message))
    (turned : taxi.turn event = some (after, acts)) :
    (Link.machine session ride.taxi).offer link (.turn event) = link.turned after acts := by
  apply Machine.offer_of_step
  change Link.step session ride.taxi link (.turn event) = _
  simp only [Link.step]
  simp [running, turned]

theorem advances_unheard : ride.Advances session since link stage (.turn (.consume none)) := by
  refine advances_of_kept (by cases stage <;> exact id) fun here => ?_
  obtain ⟨taxi, running, scene, told⟩ := here
  have turned : taxi.turn (.consume none) = some (taxi, []) := by
    simp [EcDe.turn, running.underway.listens, EcDe.listenKafka,
      EcDe.listening_kept running.underway.running running.underway.listens]
  rw [offer_turn running.running (by simp) turned]
  exact at_of_turned running scene told turned running.underway running.allowed rfl rfl
    (List.forall_mem_nil _)

theorem advances_ping : ride.Advances session since link stage (.turn .ping) := by
  refine advances_of_kept (by cases stage <;> exact id) fun here => ?_
  obtain ⟨taxi, running, scene, told⟩ := here
  have turned : taxi.turn .ping = some (taxi, [.produce (taxi.message .taxiPing)]) :=
    if_neg (by simp [running.underway.running])
  rw [offer_turn running.running (by simp) turned]
  refine at_of_turned running scene told turned running.underway running.allowed rfl rfl ?_
  intro sent member subject asked
  obtain rfl := List.mem_singleton.mp member
  cases asked
  trivial

end Ride

end EasyCab
