import EasyCab.Network.Stages

/-!
# A ride is completed

Where Central goes on consuming, the taxi goes on listening and the sensor goes on announcing that
there is nothing to wait for, the customer is told at the end that it has arrived, and is where the
location was. Each of these events brings the ride to a later stage, or nearer to it, when the
stage waits for it.
-/

namespace EasyCab

open Library

namespace Ride

variable {ride : Ride.Central} {session : Uuid} {since : Nat} {link : Link} {taxi : EcDe}
  {office : Office} {requests unheard more : List Letter} {pos dest : Coordinate} {stage : Stage}

/-! ### Ticks -/

/-- A later turn at the same leg is a lower rank. -/
theorem rank_driving_lt {leg : Leg} {toGo nearer : Nat} (less : nearer < toGo) :
    (Stage.driving leg nearer).rank < (Stage.driving leg toGo).rank := by
  cases leg <;> simp [Stage.rank, Prod.Lex.toLex_lt_toLex, less]

theorem rank_reported_lt_driving {leg : Leg} {behind toGo : Nat} :
    (Stage.reported leg behind).rank < (Stage.driving leg toGo).rank := by
  cases leg <;> simp [Stage.rank, Prod.Lex.toLex_lt_toLex]

/-- A move of a taxi which is on its way to the end of a leg. -/
theorem moves_on {leg : Leg} {toGo : Nat}
    (running : ride.Running session since link taxi)
    (scene : ride.Scene session link.db.office link.requests (link.responses.drop link.position)
      taxi.pos taxi.dest (.driving leg toGo))
    (told : ride.Told (link.responses.drop since) (.driving leg toGo))
    {waitTime : Int32} (elapsed : ¬ 0 < waitTime) :
    ∃ after acts next, taxi.turn (.tick waitTime true) = some (after, acts) ∧
      ride.Goes session since (.driving leg toGo) (.turn (.tick waitTime true))
        (link.turned after acts) next := by
  obtain ⟨apart, heads, far, onLeg, undecided, spared⟩ := scene
  obtain ⟨move, sent, moving, turned, nearer, coord, subject⟩ :=
    EcDe.turn_moves running.underway running.allowed elapsed apart
  have steady : taxi.Steady (.tick waitTime true) := rfl
  have underway := EcDe.underway_of_turn running.underway steady turned
  obtain ⟨_, signed⟩ := running.signs.turn turned
  have ownSent : sent.1.Signed ride.taxi session := signed sent List.mem_cons_self
  let letter : Letter := ⟨sent.1, link.epoch, true⟩
  by_cases there : move = taxi.dest
  · rw [if_pos there] at subject
    have decides : letter.Decides := .inr subject
    refine ⟨_, _, .reported leg link.requests.length, turned, ?_, .inl rank_reported_lt_driving,
      .inr ⟨trivial, .inl trivial⟩⟩
    refine ⟨_, running.turned turned underway running.allowed ?_, ⟨there, onLeg, spared, letter,
      undecided.await decides clear_nil, subject, ownSent.admitted, ownSent.named, ?_⟩, told⟩
    · intro other member undecidedOther
      obtain rfl := List.mem_singleton.mp member
      exact absurd decides undecidedOther
    · rw [← heads, ← there]
      exact coord
  · rw [if_neg there] at subject
    have bypasses : letter.Bypasses ride.taxi := by
      intro kind asked
      have same : sent.1.subject = .request kind := asked
      rw [subject] at same
      cases same
      exact ownSent.named
    refine ⟨_, _, .driving leg (move.kingDistance taxi.dest), turned, ?_,
      .inl (rank_driving_lt (far ▸ nearer)), .inr ⟨trivial, .inl trivial⟩⟩
    refine ⟨_, running.turned turned underway running.allowed ?_, ⟨there, heads, rfl, onLeg,
      undecided.append ?_, spared⟩, told⟩
    · intro other member _
      obtain rfl := List.mem_singleton.mp member
      exact bypasses
    · exact clear_cons.mpr ⟨bypasses.not_decides, clear_nil⟩

theorem advances_tick {waitTime : Int32} :
    ride.Advances session since link stage (.turn (.tick waitTime true)) := by
  rintro ⟨taxi, running, scene, told⟩
  by_cases waiting : 0 < waitTime
  · obtain ⟨sent, moving, turned, subject⟩ := EcDe.turn_waits running.underway waiting
    have steady : taxi.Steady (.tick waitTime true) := rfl
    have underway := EcDe.underway_of_turn running.underway steady turned
    rw [offer_turn running.running (by simp) turned]
    refine ⟨stage, goes_same
      (at_of_turned running scene told turned underway running.allowed rfl rfl ?_) ?_⟩
    · intro other member kind asked
      obtain rfl := List.mem_singleton.mp member
      rw [subject] at asked
      cases asked
      trivial
    · cases stage with
      | driving => exact fun elapsed => elapsed waiting
      | _ => exact id
  · cases stage with
    | driving leg toGo =>
        obtain ⟨after, acts, next, turned, goes⟩ := moves_on running scene told waiting
        rw [offer_turn running.running (by simp) turned]
        exact ⟨next, goes⟩
    | free | asked | ordered | reported | landed =>
        obtain ⟨moving, turned⟩ := EcDe.turn_rests running.underway waiting scene.1
        rw [offer_turn running.running (by simp) turned]
        exact ⟨_, goes_same (at_of_turned running scene told turned running.underway running.allowed
          rfl rfl (List.forall_mem_nil _)) id⟩

/-! ### Responses -/

theorem rank_asked_lt {fewer behind : Nat} (less : fewer < behind) :
    (Stage.asked fewer).rank < (Stage.asked behind).rank := by
  simp [Stage.rank, Prod.Lex.toLex_lt_toLex, less]

theorem rank_ordered_lt {leg : Leg} {fewer behind : Nat} (less : fewer < behind) :
    (Stage.ordered leg fewer).rank < (Stage.ordered leg behind).rank := by
  cases leg <;> simp [Stage.rank, Prod.Lex.toLex_lt_toLex, less]

theorem rank_reported_lt {leg : Leg} {fewer behind : Nat} (less : fewer < behind) :
    (Stage.reported leg fewer).rank < (Stage.reported leg behind).rank := by
  cases leg <;> simp [Stage.rank, Prod.Lex.toLex_lt_toLex, less]

/-- A response which is no order for the taxi was consumed. -/
theorem Scene.heard {letter : Letter} {untold : List Letter} {beyond : Beyond}
    (scene : ride.Scene session office requests (letter :: unheard) pos dest stage)
    (told : ride.Told untold stage) (other : ¬ Letter.Orders ride.taxi letter) :
    ∃ next, ride.Scene session office requests unheard pos dest next ∧ ride.Told untold next ∧
      Later stage (.hear beyond) next ∧ (next = stage ∨ stage.Pending ∧ next.Pending) := by
  cases stage with
  | free =>
      obtain ⟨rests, free, undecided, spared⟩ := scene
      exact ⟨.free, ⟨rests, free, undecided, (clear_cons.mp spared).2⟩, told, .inr ⟨rfl, id⟩,
        .inl rfl⟩
  | landed behind =>
      obtain ⟨rests, free, undecided, spared⟩ := scene
      exact ⟨.landed behind, ⟨rests, free, undecided, (clear_cons.mp spared).2⟩, told,
        .inr ⟨rfl, id⟩, .inl rfl⟩
  | asked behind =>
      obtain ⟨rests, free, spared, asked⟩ := scene
      exact ⟨.asked behind, ⟨rests, free, (clear_cons.mp spared).2, asked⟩, told, .inr ⟨rfl, id⟩,
        .inl rfl⟩
  | ordered leg behind =>
      obtain ⟨rests, onLeg, undecided, order, awaits, goTo⟩ := scene
      rcases awaits.pop with ⟨rfl, _⟩ | ⟨_, fewer, less, awaits⟩
      · exact absurd awaits.marked other
      · exact ⟨.ordered leg fewer, ⟨rests, onLeg, undecided, order, awaits, goTo⟩, told,
          .inl (rank_ordered_lt less), .inr ⟨trivial, trivial⟩⟩
  | driving leg toGo =>
      obtain ⟨apart, heads, far, onLeg, undecided, spared⟩ := scene
      exact ⟨.driving leg toGo, ⟨apart, heads, far, onLeg, undecided, (clear_cons.mp spared).2⟩,
        told, .inr ⟨rfl, id⟩, .inl rfl⟩
  | reported leg behind =>
      obtain ⟨rests, onLeg, spared, reported⟩ := scene
      exact ⟨.reported leg behind, ⟨rests, onLeg, (clear_cons.mp spared).2, reported⟩, told,
        .inr ⟨rfl, id⟩, .inl rfl⟩

/-- The first response which is an order for the taxi is the one which the stage waits for. -/
theorem Scene.commanded {letter : Letter}
    (scene : ride.Scene session office requests (letter :: unheard) pos dest stage)
    (orders : Letter.Orders ride.taxi letter) :
    ∃ leg behind, stage = .ordered leg behind ∧ pos = dest ∧ ride.OnLeg leg office ∧
      Clear Letter.Decides requests ∧ Clear (Letter.Orders ride.taxi) unheard ∧
        letter.message.word? = some (.goTo ride.taxi (ride.target leg)) := by
  cases stage with
  | free | landed => exact absurd orders (clear_cons.mp scene.2.2.2).1
  | asked => exact absurd orders (clear_cons.mp scene.2.2.1).1
  | driving => exact absurd orders (clear_cons.mp scene.2.2.2.2.2).1
  | reported => exact absurd orders (clear_cons.mp scene.2.2.1).1
  | ordered leg behind =>
      obtain ⟨rests, onLeg, undecided, order, awaits, goTo⟩ := scene
      rcases awaits.pop with ⟨rfl, clear⟩ | ⟨other, _⟩
      · exact ⟨leg, behind, rfl, rests, onLeg, undecided, clear, goTo⟩
      · exact absurd orders other

/-- A consumed response is what the link does. -/
theorem offer_hear {letter : Letter} {beyond : Beyond} {after : EcDe} {acts : List EcDe.Act}
    (running : link.taxi = some taxi) (waiting : link.responses[link.position]? = some letter)
    (turned : taxi.turn (.consume (some (letter.message.read beyond))) = some (after, acts)) :
    (Link.machine session ride.taxi).offer link (.hear beyond) =
      { link with position := link.position + 1 }.turned after acts := by
  apply Machine.offer_of_step
  change Link.step session ride.taxi link (.hear beyond) = _
  simp only [Link.step]
  simp [running, waiting, turned]

/-- The order which the taxi was waiting for makes it report, or drive. -/
theorem hears_order (possible : ride.Possible) {leg : Leg} {letter : Letter} {beyond : Beyond}
    (running : ride.Running session since link taxi)
    (waiting : link.position < link.responses.length) (rests : taxi.pos = taxi.dest)
    (onLeg : ride.OnLeg leg link.db.office) (undecided : Clear Letter.Decides link.requests)
    (spared : Clear (Letter.Orders ride.taxi) (link.responses.drop (link.position + 1)))
    (told : Clear (Letter.Ends ride.customer) (link.responses.drop since))
    (goTo : letter.message.word? = some (.goTo ride.taxi (ride.target leg))) (behind : Nat) :
    ∃ after acts next, taxi.turn (.consume (some (letter.message.read beyond))) =
        some (after, acts) ∧
      ride.Goes session since (.ordered leg behind) (.hear beyond)
        ({ link with position := link.position + 1 }.turned after acts) next := by
  obtain ⟨subject, named, coord⟩ := goTo_of_word goTo
  have signs := running.signs
  have subjectRead : (letter.message.read beyond).1.subject = .response .taxiGoTo := by
    simpa using subject
  have namedRead : (letter.message.read beyond).1.taxiId = taxi.id := by
    simpa [signs.named] using named
  have coordRead : (letter.message.read beyond).1.coord = ride.target leg := by simpa using coord
  have ahead : ride.Running session since { link with position := link.position + 1 } taxi :=
    ⟨running.running, signs, running.underway, running.allowed, running.requests, running.since,
      waiting⟩
  by_cases here : taxi.pos = ride.target leg
  · have turned := EcDe.turn_goTo_here running.underway subjectRead namedRead (here.trans coordRead.symm)
    refine ⟨_, _, .reported leg link.requests.length, turned, ?_,
      .inl (by cases leg <;> simp [Stage.rank, Prod.Lex.toLex_lt_toLex]), .inr ⟨trivial, .inl trivial⟩⟩
    have decides : ∀ session epoch, Letter.Decides ⟨{ (letter.message.read beyond).1 with
        subject := .request .taxiDestinationReached
        coord := taxi.pos
        session := session }, epoch, true⟩ := fun _ _ => .inr rfl
    refine ⟨taxi, ahead.turned turned running.underway running.allowed ?_, ⟨rests, onLeg, spared, _,
      undecided.await (decides _ _) clear_nil, rfl, ?_, ?_, here⟩, told⟩
    · intro sent member other
      obtain rfl := List.mem_singleton.mp member
      exact absurd (decides _ _) other
    · rw [signs.admitted]
    · exact namedRead.trans signs.named
  · have turned := EcDe.turn_goTo_away running.underway subjectRead namedRead
      (fun same => here (same.trans coordRead))
    refine ⟨_, _, .driving leg (taxi.pos.kingDistance (ride.target leg)), turned, ?_,
      .inl (by cases leg <;> simp [Stage.rank, Prod.Lex.toLex_lt_toLex]), .inr ⟨trivial, .inl trivial⟩⟩
    obtain ⟨attends, listens, goesOn, inMap⟩ := running.underway
    have inGrid : (ride.target leg).InGrid := by
      cases leg with
      | toCustomer => exact possible.pickUp
      | toPlace => exact possible.dropOff
    refine ⟨_, ahead.turned turned ⟨attends, listens, goesOn, inMap.inGrid, ?_⟩ running.allowed
      (List.forall_mem_nil _), ⟨?_, coordRead, by rw [coordRead], onLeg, ?_, spared⟩, told⟩
    · rw [coordRead]
      exact inGrid
    · rw [coordRead]
      exact here
    · exact undecided.append clear_nil

theorem advances_hear (possible : stage ≠ .free → ride.Possible) {beyond : Beyond} :
    ride.Advances session since link stage (.hear beyond) := by
  rintro ⟨taxi, running, scene, told⟩
  cases waiting : link.responses[link.position]? with
  | none =>
      have stepped : (Link.machine session ride.taxi).step link (.hear beyond) = none := by
        change Link.step session ride.taxi link (.hear beyond) = none
        simp only [Link.step]
        simp [waiting]
      rw [Machine.offer_of_refused stepped]
      refine ⟨stage, goes_same ⟨taxi, running, scene, told⟩ ?_⟩
      cases stage with
      | ordered leg behind =>
          -- The order is still unheard, so that there is something to hear.
          obtain ⟨_, _, _, order, awaits, _⟩ := scene
          exact absurd (List.drop_eq_nil_of_le (List.getElem?_eq_none_iff.mp waiting)) awaits.ne_nil
      | _ => exact id
  | some letter =>
      obtain ⟨within, rfl⟩ := List.getElem?_eq_some_iff.mp waiting
      rw [List.drop_eq_getElem_cons within] at scene
      by_cases orders : Letter.Orders ride.taxi link.responses[link.position]
      · obtain ⟨leg, behind, rfl, rests, onLeg, undecided, spared, goTo⟩ := scene.commanded orders
        obtain ⟨after, acts, next, turned, goes⟩ :=
          hears_order (possible (by simp)) running within rests onLeg undecided spared told goTo behind
        rw [offer_hear running.running waiting turned]
        exact ⟨next, goes⟩
      · obtain ⟨next, sceneNext, toldNext, later, goesOn⟩ :=
          @Scene.heard _ _ _ _ _ _ _ _ _ _ beyond scene told orders
        have spared : isFor taxi.id (link.responses[link.position].message.read beyond).1 = false := by
          rw [running.signs.named]
          simpa [Letter.Orders, isFor] using orders
        have turned := EcDe.turn_spared running.underway spared
        rw [offer_hear running.running waiting turned]
        have ahead : ride.Running session since { link with position := link.position + 1 } taxi :=
          ⟨running.running, running.signs, running.underway, running.allowed, running.requests,
            running.since, within⟩
        exact ⟨next, at_of_turned ahead sceneNext toldNext turned running.underway running.allowed rfl
          rfl (List.forall_mem_nil _), later, goesOn.imp id fun both => ⟨both.1, .inl both.2⟩⟩

/-! ### Requests -/

/-- At every stage nobody waits, taxi and customer are known, and nobody else is aboard of the
taxi. -/
theorem Scene.books (scene : ride.Scene session office requests unheard pos dest stage) :
    office.Idle ∧ (office.taxiAt ride.taxi).isSome ∧ (office.customerAt ride.customer).isSome ∧
      ∀ passenger ∈ office.aboard ride.taxi, passenger = ride.customer := by
  have onLeg {leg : Leg} (onLeg : ride.OnLeg leg office) : office.Idle ∧
      (office.taxiAt ride.taxi).isSome ∧ (office.customerAt ride.customer).isSome ∧
        ∀ passenger ∈ office.aboard ride.taxi, passenger = ride.customer := by
    refine ⟨onLeg.idle, onLeg.present, onLeg.known, ?_⟩
    rw [onLeg.aboard]
    cases leg <;> simp
  cases stage with
  | free | asked | landed =>
      obtain ⟨_, free, _⟩ := scene
      exact ⟨free.idle, free.present, Option.isSome_of_eq_some free.waiting, by simp [free.empty]⟩
  | ordered leg behind => exact onLeg scene.2.1
  | driving leg toGo => exact onLeg scene.2.2.2.1
  | reported leg behind => exact onLeg scene.2.1

/-- A request which has nothing to do with the ride was consumed. -/
theorem Scene.passed {letter : Letter} {officeNext : Office} {untold : List Letter} {now : Timestamp}
    {beyond : Beyond}
    (scene : ride.Scene session office (letter :: requests) unheard pos dest stage)
    (told : ride.Told untold stage) (other : ¬ letter.Decides) (kept : ride.Kept office officeNext)
    (spared : Clear (Letter.Orders ride.taxi) more)
    (silent : Clear (Letter.Ends ride.customer) more) :
    ∃ next, ride.Scene session officeNext requests (unheard ++ more) pos dest next ∧
      ride.Told (untold ++ more) next ∧ Later stage (.request now [] beyond) next ∧
        (next = stage ∨ stage.Pending ∧ next.Pending) := by
  cases stage with
  | free =>
      obtain ⟨rests, free, undecided, clear⟩ := scene
      exact ⟨.free, ⟨rests, free.kept kept, (clear_cons.mp undecided).2, clear.append spared⟩,
        told.append silent, .inr ⟨rfl, id⟩, .inl rfl⟩
  | landed behind =>
      obtain ⟨rests, free, undecided, clear⟩ := scene
      obtain ⟨telling, awaits, completed⟩ := told
      exact ⟨.landed behind, ⟨rests, free.kept kept, (clear_cons.mp undecided).2, clear.append spared⟩,
        ⟨telling, awaits.append silent, completed⟩, .inr ⟨rfl, id⟩, .inl rfl⟩
  | asked behind =>
      obtain ⟨rests, free, clear, asking, awaits, asks⟩ := scene
      rcases awaits.pop with ⟨rfl, _⟩ | ⟨_, fewer, less, awaits⟩
      · exact absurd awaits.marked other
      · exact ⟨.asked fewer, ⟨rests, free.kept kept, clear.append spared, asking, awaits, asks⟩,
          told.append silent, .inl (rank_asked_lt less), .inr ⟨trivial, trivial⟩⟩
  | ordered leg behind =>
      obtain ⟨rests, onLeg, undecided, order, awaits, goTo⟩ := scene
      exact ⟨.ordered leg behind, ⟨rests, onLeg.kept kept, (clear_cons.mp undecided).2, order,
        awaits.append spared, goTo⟩, told.append silent, .inr ⟨rfl, id⟩, .inl rfl⟩
  | driving leg toGo =>
      obtain ⟨apart, heads, far, onLeg, undecided, clear⟩ := scene
      exact ⟨.driving leg toGo, ⟨apart, heads, far, onLeg.kept kept, (clear_cons.mp undecided).2,
        clear.append spared⟩, told.append silent, .inr ⟨rfl, id⟩, .inl rfl⟩
  | reported leg behind =>
      obtain ⟨rests, onLeg, clear, reporting, awaits, reports⟩ := scene
      rcases awaits.pop with ⟨rfl, _⟩ | ⟨_, fewer, less, awaits⟩
      · exact absurd awaits.marked other
      · exact ⟨.reported leg fewer, ⟨rests, onLeg.kept kept, clear.append spared, reporting, awaits,
          reports⟩, told.append silent, .inl (rank_reported_lt less), .inr ⟨trivial, trivial⟩⟩

variable {epoch : Nat} {acts : List Act} {now : Timestamp} {beyond : Beyond}

/-- The letters of responses which are not for a taxi and end nothing. -/
theorem clear_letters {messages : List Message}
    (spares : ∀ message ∈ messages, KafkaServer.Spares message) :
    Clear (Letter.Orders ride.taxi) (messages.map fun message => ⟨message, epoch, false⟩) ∧
      Clear (Letter.Ends ride.customer) (messages.map fun message => ⟨message, epoch, false⟩) := by
  constructor
  · intro letter member
    obtain ⟨message, produced, rfl⟩ := List.mem_map.mp member
    simp [Letter.Orders, isFor_of_spares (spares message produced)]
  · intro letter member
    obtain ⟨message, produced, rfl⟩ := List.mem_map.mp member
    exact not_ends_of_spares (spares message produced)

/-- Where one response sends the taxi somewhere, it is waited for, and nothing is ended. -/
theorem awaits_answers {coord : Coordinate} (clear : Clear (Letter.Orders ride.taxi) unheard)
    (sends : KafkaServer.SendsTo ride.taxi coord (Act.responses acts)) :
    (∃ letter behind, Awaits (Letter.Orders ride.taxi) (unheard ++ Link.answers epoch acts) letter
        behind ∧ letter.message.word? = some (.goTo ride.taxi coord)) ∧
      Clear (Letter.Ends ride.customer) (Link.answers epoch acts) := by
  obtain ⟨earlier, goTo, later, produced, sent, before, after⟩ := sends
  let mark (message : Message) : Letter := ⟨message, epoch, false⟩
  obtain ⟨sparedBefore, silentBefore⟩ := @clear_letters ride epoch _ before
  obtain ⟨sparedAfter, silentAfter⟩ := @clear_letters ride epoch _ after
  have split : Link.answers epoch acts = earlier.map mark ++ mark goTo :: later.map mark := by
    change (Act.responses acts).map mark = _
    rw [produced, List.map_append, List.map_cons]
  obtain ⟨subject, named, _⟩ := goTo_of_word sent
  have marked : Letter.Orders ride.taxi (mark goTo) := by
    simp [Letter.Orders, mark, isFor, subject, named]
  have silent : ¬ Letter.Ends ride.customer (mark goTo) := by simp [Letter.Ends, mark, subject]
  have awaits := (clear.append sparedBefore).await marked sparedAfter
  rw [List.append_assoc] at awaits
  rw [split]
  exact ⟨⟨mark goTo, _, awaits, sent⟩, silentBefore.append (clear_cons.mpr ⟨silent, silentAfter⟩)⟩

/-- A consumed request is what the link does. -/
theorem offer_request {letter : Letter} {outcome : Outcome KafkaServer Act Unit}
    (waiting : link.requests = letter :: requests)
    (ran : KafkaServer.process now session (letter.message.read beyond).1
      ⟨link.db, [], link.response⟩ = .ok outcome) :
    (Link.machine session ride.taxi).offer link (.request now [] beyond) =
      link.consumed requests letter.epoch outcome := by
  apply Machine.offer_of_step
  change Link.step session ride.taxi link (.request now [] beyond) = _
  simp only [Link.step, waiting, ran]
  rfl

/-- After a consumed request the taxi is underway as before. -/
theorem Running.consumed {letter : Letter} {outcome : Outcome KafkaServer Act Unit}
    (running : ride.Running session since link taxi) (waiting : link.requests = letter :: requests) :
    ride.Running session since (link.consumed requests epoch outcome) taxi where
  running := running.running
  signs := running.signs
  underway := running.underway
  allowed := running.allowed
  requests := fun other member =>
    running.requests other (waiting ▸ List.mem_cons_of_mem letter member)
  since := Nat.le_trans running.since (by simp [Link.consumed])
  position := Nat.le_trans running.position (by simp [Link.consumed])

/-- What is unheard after a request is what was unheard, and the responses to it. -/
theorem drop_consumed {count : Nat} {outcome : Outcome KafkaServer Act Unit}
    (within : count ≤ link.responses.length) :
    (link.consumed requests epoch outcome).responses.drop count =
      link.responses.drop count ++ Link.answers epoch outcome.acts :=
  List.drop_append_of_le_length within

/-- What the stage waits for is consumed: the ride goes on, or ends. -/
theorem decided (possible : stage ≠ .free → ride.Possible) {letter : Letter}
    (running : ride.Running session since link taxi)
    (scene : ride.Scene session link.db.office link.requests (link.responses.drop link.position)
      taxi.pos taxi.dest stage) (told : ride.Told (link.responses.drop since) stage)
    (waiting : link.requests = letter :: requests) (decides : letter.Decides) :
    ∃ outcome next, KafkaServer.process now session (letter.message.read beyond).1
        ⟨link.db, [], link.response⟩ = .ok outcome ∧
      ride.Goes session since stage (.request now [] beyond)
        (link.consumed requests letter.epoch outcome) next := by
  have whole (admitted : letter.message.session = session.1) :
      (letter.message.read beyond).1 = letter.message :=
    Message.read_of_full beyond (admitted ▸ session.2)
  rw [waiting] at scene
  cases stage with
  | free | landed => exact absurd decides (clear_cons.mp scene.2.2.1).1
  | ordered => exact absurd decides (clear_cons.mp scene.2.2.1).1
  | driving => exact absurd decides (clear_cons.mp scene.2.2.2.2.1).1
  | asked behind =>
      have fit := possible (by simp)
      obtain ⟨rests, free, spared, asking, awaits, asks⟩ := scene
      rcases awaits.pop with ⟨rfl, clear⟩ | ⟨other, _⟩
      · have accepted : KafkaServer.accepted? session letter.message =
            some .customerServiceRequest := by
          simp [KafkaServer.accepted?, asks.subject, Message.checkSession, asks.admitted]
        obtain ⟨outcome, ran, onLeg, sends⟩ := @KafkaServer.process_asks now session link.db
          link.response letter.message ride fit.literal fit.literalPlace fit.destined
          fit.namesake free accepted asks.customer asks.place
        obtain ⟨⟨order, ahead, ordered, goTo⟩, silent⟩ :=
          @awaits_answers ride _ letter.epoch _ _ spared sends
        rw [whole asks.admitted]
        refine ⟨outcome, .ordered .toCustomer ahead, ran,
          ⟨taxi, running.consumed waiting, ?_, ?_⟩,
          .inl (by simp [Stage.rank, Prod.Lex.toLex_lt_toLex]), .inr ⟨trivial, .inl trivial⟩⟩
        · change ride.Scene _ _ _ (List.drop link.position _) _ _ _
          rw [drop_consumed running.position]
          exact ⟨rests, onLeg, clear, order, ordered, goTo⟩
        · rw [drop_consumed running.since]
          exact Clear.append told silent
      · exact absurd decides other
  | reported leg behind =>
      have fit := possible (by simp)
      obtain ⟨rests, onLeg, spared, reporting, awaits, reports⟩ := scene
      rcases awaits.pop with ⟨rfl, clear⟩ | ⟨other, _⟩
      · have accepted : KafkaServer.accepted? session letter.message =
            some .taxiDestinationReached := by
          simp [KafkaServer.accepted?, reports.subject, Message.checkSession, reports.admitted]
        rw [whole reports.admitted]
        cases leg with
        | toCustomer =>
            obtain ⟨outcome, ran, onLegNext, sends⟩ := @KafkaServer.process_boards now session
              link.db link.response letter.message ride fit.literal onLeg accepted reports.taxi
            obtain ⟨⟨order, ahead, ordered, goTo⟩, silent⟩ :=
              @awaits_answers ride _ letter.epoch _ _ spared sends
            refine ⟨outcome, .ordered .toPlace ahead, ran,
              ⟨taxi, running.consumed waiting, ?_, ?_⟩,
              .inl (by simp [Stage.rank, Prod.Lex.toLex_lt_toLex]), .inr ⟨trivial, .inl trivial⟩⟩
            · change ride.Scene _ _ _ (List.drop link.position _) _ _ _
              rw [drop_consumed running.position]
              exact ⟨rests, onLegNext, clear, order, ordered, goTo⟩
            · rw [drop_consumed running.since]
              exact Clear.append told silent
        | toPlace =>
            obtain ⟨outcome, ran, free, ended, telling, produced, completed⟩ :=
              @KafkaServer.process_lands now session link.db link.response letter.message ride
                fit.literal onLeg accepted reports.taxi reports.coord
            have answered : Link.answers letter.epoch outcome.acts =
                [⟨telling, letter.epoch, false⟩] := by
              change (Act.responses outcome.acts).map _ = _
              rw [produced, List.map_singleton]
            obtain ⟨subject, named⟩ := completed_of_word completed
            have ends : Letter.Ends ride.customer ⟨telling, letter.epoch, false⟩ :=
              ⟨named, .inl subject⟩
            have silent : ¬ Letter.Orders ride.taxi ⟨telling, letter.epoch, false⟩ := by
              simp [Letter.Orders, isFor, subject]
            refine ⟨outcome, .landed (link.responses.drop since).length, ran,
              ⟨taxi, running.consumed waiting, ?_, ?_⟩,
              .inl (by simp [Stage.rank, Prod.Lex.toLex_lt_toLex]), .inr ⟨trivial, .inr ended⟩⟩
            · change ride.Scene _ _ _ (List.drop link.position _) _ _ _
              rw [drop_consumed running.position, answered]
              exact ⟨rests, free, clear, spared.append (clear_cons.mpr ⟨silent, clear_nil⟩)⟩
            · rw [drop_consumed running.since, answered]
              exact ⟨_, Clear.await told ends clear_nil, completed⟩
      · exact absurd decides other

theorem advances_request (literal : Statement.quotable ride.customer = true)
    (possible : stage ≠ .free → ride.Possible) :
    ride.Advances session since link stage (.request now [] beyond) := by
  rintro ⟨taxi, running, scene, told⟩
  cases waiting : link.requests with
  | nil =>
      have stepped : (Link.machine session ride.taxi).step link (.request now [] beyond) = none := by
        change Link.step session ride.taxi link (.request now [] beyond) = none
        simp only [Link.step, waiting]
      rw [Machine.offer_of_refused stepped]
      refine ⟨stage, goes_same ⟨taxi, running, scene, told⟩ ?_⟩
      -- What the stage waits for would be a request.
      cases stage with
      | asked behind =>
          obtain ⟨_, _, _, letter, awaits, _⟩ := scene
          exact absurd waiting awaits.ne_nil
      | reported leg behind =>
          obtain ⟨_, _, _, letter, awaits, _⟩ := scene
          exact absurd waiting awaits.ne_nil
      | _ => exact id
  | cons letter requests =>
      by_cases decides : letter.Decides
      · obtain ⟨outcome, next, ran, goes⟩ := @decided ride session since link taxi requests stage now
          beyond possible letter running scene told waiting decides
        rw [offer_request waiting ran]
        exact ⟨next, goes⟩
      · obtain ⟨idle, present, known, alone⟩ := scene.books
        have bypasses := running.requests letter (waiting ▸ List.mem_cons_self) decides
        obtain ⟨outcome, ran, kept, spares⟩ := @KafkaServer.process_bypasses now session link.db
          link.response _ ride literal idle present known alone (bypasses.read beyond)
        obtain ⟨spared, silent⟩ := @clear_letters ride letter.epoch _ spares
        rw [waiting] at scene
        obtain ⟨next, sceneNext, toldNext, later, goesOn⟩ := @Scene.passed ride session _ requests _ _ _
          _ stage letter _ _ now beyond scene told decides kept spared silent
        rw [offer_request waiting ran]
        refine ⟨next, ⟨taxi, running.consumed waiting, ?_, ?_⟩, later,
          goesOn.imp id fun both => ⟨both.1, .inl both.2⟩⟩
        · change ride.Scene _ _ _ (List.drop link.position _) _ _ _
          rw [drop_consumed running.position]
          exact sceneNext
        · rw [drop_consumed running.since]
          exact toldNext

/-- What may happen during the ride takes nothing back. -/
theorem advances (literal : Statement.quotable ride.customer = true)
    (possible : stage ≠ .free → ride.Possible) {event : Link.Event} (allows : ride.Allows event) :
    ride.Advances session since link stage event := by
  cases event with
  | request now outages beyond =>
      obtain rfl : outages = [] := allows
      exact advances_request literal possible
  | post message => exact advances_post allows
  | hear beyond => exact advances_hear possible
  | select now outages => exact advances_select
  | commit => exact advances_commit
  | turn event =>
      cases event with
      | tick waitTime again =>
          obtain rfl : again = true := allows
          exact advances_tick
      | ping => exact advances_ping
      | consume message =>
          cases message with
          | none => exact advances_unheard
          | some message => exact allows.elim
      | _ => exact allows.elim
  | order | register | start | crash => exact allows.elim

/-! ### The ride -/

/-- The taxi of the ride is free, connected and at rest, the customer is waiting where the ride
begins, and its request for the ride is on its way. -/
structure Starts (ride : Ride.Central) (session : Uuid) (link : Link) : Prop where
  taxi : ∃ taxi, link.taxi = some taxi ∧ taxi.Signs ride.taxi session ∧ taxi.Underway ∧
    taxi.orderedToStop = false ∧ taxi.pos = taxi.dest
  free : ride.Free ride.pickUp link.db.office
  asked : ∃ earlier letter later, link.requests = earlier ++ letter :: later ∧
    ride.Asks session letter.message ∧ ∀ other ∈ earlier ++ later, other.Bypasses ride.taxi
  position : link.position ≤ link.responses.length
  unheard : ∀ letter ∈ link.responses.drop link.position, ¬ Letter.Orders ride.taxi letter

/-- A ride which starts is at its first stage. -/
theorem Starts.at (starts : ride.Starts session link) :
    ∃ behind, ride.At session link.responses.length (.asked behind) link := by
  obtain ⟨⟨taxi, running, signs, underway, allowed, rests⟩, free, asked, position, unheard⟩ := starts
  obtain ⟨earlier, letter, later, requests, asks, others⟩ := asked
  have bypasses := List.forall_mem_append.mp others
  refine ⟨earlier.length, taxi, ⟨running, signs, underway, allowed, ?_, Nat.le_refl _, position⟩,
    ⟨rests, free, unheard, letter, ⟨.inl asks.subject, earlier, later, requests, rfl, ?_, ?_⟩, asks⟩,
    ?_⟩
  · intro other member undecided
    rw [requests] at member
    rcases List.mem_append.mp member with before | after
    · exact bypasses.1 other before
    · rcases List.mem_cons.mp after with rfl | after
      · exact absurd (.inl asks.subject) undecided
      · exact bypasses.2 other after
  · exact fun other member => (bypasses.1 other member).not_decides
  · exact fun other member => (bypasses.2 other member).not_decides
  · rw [List.drop_length]
    exact clear_nil

/-- Central consumes, the taxi listens and the sensor announces that there is nothing to wait for
again and again, and nothing else happens than what may. -/
structure Fair (ride : Ride.Central) (schedule : Nat → Link.Event) : Prop where
  allows : ∀ time, ride.Allows (schedule time)
  consumes : Recurs schedule fun event => ∃ now outages beyond, event = .request now outages beyond
  hears : Recurs schedule fun event => ∃ beyond, event = .hear beyond
  announces : Recurs schedule fun event =>
    ∃ waitTime again, event = .turn (.tick waitTime again) ∧ ¬ 0 < waitTime

/-- What helps at a stage happens again and again. -/
theorem Fair.helps {schedule : Nat → Link.Event} (fair : ride.Fair schedule)
    (pending : stage.Pending) : Recurs schedule (Helps stage) := by
  intro time
  cases stage with
  | free | landed => exact pending.elim
  | asked | reported =>
      obtain ⟨later, passed, now, outages, beyond, scheduled⟩ := fair.consumes time
      exact ⟨later, passed, by rw [scheduled]; trivial⟩
  | ordered =>
      obtain ⟨later, passed, beyond, scheduled⟩ := fair.hears time
      exact ⟨later, passed, by rw [scheduled]; trivial⟩
  | driving =>
      obtain ⟨later, passed, waitTime, again, scheduled, elapsed⟩ := fair.announces time
      exact ⟨later, passed, by rw [scheduled]; exact elapsed⟩

/-- The customer was told that it has arrived, and it is where the place was. -/
structure Completed (ride : Ride.Central) (since : Nat) (link : Link) : Prop where
  ended : ride.Over link.db.office
  told : ∃ letter ∈ link.responses.drop since,
    letter.message.word? = some (.completed ride.customer)

/-- Nothing leads back to where nothing was asked for. -/
theorem not_free_of_lower {next : Stage} (lower : next.rank < stage.rank) : next ≠ .free := by
  rintro rfl
  cases stage with
  | free | asked | landed => simp [Stage.rank, Prod.Lex.toLex_lt_toLex] at lower
  | ordered leg | driving leg | reported leg =>
      cases leg <;> simp [Stage.rank, Prod.Lex.toLex_lt_toLex] at lower

/-- A pending ride goes on, or is completed. -/
theorem Goes.pending_or_completed {event : Link.Event} {next : Stage}
    (goes : ride.Goes session since stage event link next) (pending : stage.Pending) :
    ride.Completed since link ∨ next.Pending := by
  rcases goes.goesOn with rfl | ⟨_, pendingNext | ended⟩
  · exact .inr pending
  · exact .inr pendingNext
  · cases next with
    | asked | ordered | driving | reported => exact .inr trivial
    | free =>
        rcases goes.later with lower | ⟨rfl, _⟩
        · exact absurd rfl (not_free_of_lower lower)
        · exact pending.elim
    | landed behind =>
        obtain ⟨_, _, _, letter, awaits, completed⟩ := goes.here
        exact .inl ⟨ended, letter, awaits.mem, completed⟩

end Ride

/-! ### A ride in the town -/

namespace Town

/-- Taxi 1 attends a sensor, and customer 65 asks to be taken to 74. -/
def hails : List Link.Event :=
  Link.firstRide ++ [.turn .check, .turn .connect, Link.consume 1,
    .post { Message.request session.1 .newCustomer with id := 65, coord := ⟨2, 1⟩ }, Link.consume 2,
    .post ({ Message.request session.1 .customerServiceRequest with id := 65 }.setCharData 74)]

/-- Where that leads. -/
def hailed : Link :=
  ((Link.machine session 1).exec (.initial locations) hails).getD (.initial locations)

/-- The ride which is asked for. -/
def hailedRide : Ride.Central := ⟨1, 65, 74, ⟨2, 1⟩, ⟨7, 7⟩, hailed.db.office.placeAt⟩

/-- Central consumes, the taxi listens and the sensor announces, one after the other. -/
def byTurns (time : Nat) : Link.Event :=
  match time % 3 with
  | 0 => Link.consume time
  | 1 => .hear Link.beyond
  | _ => .turn (.tick 0 true)

/-- The taxi is free where it is the only one, and is connected and empty, and nobody is in the
queue. -/
theorem free_of_rows {ride : Ride.Central} {tables : Tables} {position : Coordinate}
    (taxis : tables.taxis.rows.map (·.id) = [ride.taxi])
    (connected : tables.connectedOf ride.taxi = some true)
    (customers : ∀ row ∈ tables.customers.rows, row.inQueue = none)
    (places : tables.office.placeAt = ride.placeAt)
    (present : (tables.office.taxiAt ride.taxi).isSome)
    (empty : tables.office.aboard ride.taxi = none)
    (waiting : tables.office.customerAt ride.customer = some position) :
    ride.Free position tables.office := by
  refine ⟨⟨fun customer => ?_, fun taxi => ⟨fun here => ?_, ?_⟩, places, present⟩, empty, waiting⟩
  · change tables.inQueueOf customer = none
    unfold Tables.inQueueOf
    cases found : tables.customers.lookup customer with
    | none => rfl
    | some row => exact customers row (Table.mem_of_lookup found)
  · change tables.connectedOf taxi = some true at here
    obtain ⟨row, found, _⟩ := Option.map_eq_some_iff.mp here
    have member : row.id ∈ tables.taxis.rows.map (·.id) :=
      List.mem_map_of_mem (Table.mem_of_lookup found)
    rw [taxis, List.mem_singleton] at member
    exact (Table.key_of_lookup found).symm.trans member
  · rintro rfl
    exact connected

/-- The hailed ride starts: the taxi is free and the customer waits for it. -/
theorem hailed_starts : hailedRide.Starts session hailed where
  taxi := by
    refine ⟨{ EcDe.start 1 session with
      sensor := .attending ⟨{ Message.new with taxiId := 1, session := session.1 }, session.2⟩ },
      by decide +kernel, ⟨rfl, rfl, ?_⟩, ⟨⟨_, rfl⟩, rfl, rfl, by decide, by decide⟩, rfl, rfl⟩
    rintro message ⟨⟩
    exact ⟨rfl, rfl⟩
  free := free_of_rows (by decide +kernel) (by decide +kernel) (by decide +kernel) rfl
    (by decide +kernel) (by decide +kernel) (by decide +kernel)
  asked := by
    have waiting : hailed.requests.map (·.message) =
        [{ Message.request session.1 .customerServiceRequest with id := 65 }.setCharData 74] := by
      decide +kernel
    obtain ⟨letter, rest, requests, message, nothing⟩ := List.map_eq_cons_iff.mp waiting
    refine ⟨[], letter, [], by simpa using requests.trans (by simpa using nothing), ?_, by simp⟩
    rw [message]
    exact ⟨rfl, rfl, rfl, by decide⟩
  position := by decide +kernel
  unheard := by decide +kernel

/-- The schedule `byTurns` gives each party its turn again and again. -/
theorem byTurns_fair : hailedRide.Fair byTurns where
  allows := by
    intro time
    unfold byTurns
    split
    · rfl
    · trivial
    · rfl
  consumes := fun time => ⟨3 * time, by omega, 3 * time, [], Link.beyond, by
    simp [byTurns, Link.consume]⟩
  hears := fun time => ⟨3 * time + 1, by omega, Link.beyond, by simp [byTurns, Nat.add_mod]⟩
  announces := fun time => ⟨3 * time + 2, by omega, 0, true, by simp [byTurns, Nat.add_mod], by decide⟩

end Town

/-- Every fair schedule completes a ride which is `Possible` and `Starts`: the customer and the place
can be quoted, the place and a location with the name of the customer are stored, and the squares are
in the map; and the only connected taxi is free and at rest, and the request is on its way. -/
theorem ride_completed (session : Uuid) (ride : Ride.Central) (link : Link)
    (schedule : Nat → Link.Event) (possible : ride.Possible) (starts : ride.Starts session link)
    (fair : ride.Fair schedule) :
    ∃ due, ride.Completed link.responses.length
      ((Link.machine session ride.taxi).under schedule link due) := by
  obtain ⟨behind, here⟩ := starts.at
  let At (stage : {stage : Ride.Stage // stage.Pending}) (link' : Link) : Prop :=
    ride.At session link.responses.length stage.1 link'
  let Helps (stage : {stage : Ride.Stage // stage.Pending}) : Link.Event → Prop := Ride.Helps stage.1
  refine @Machine.goal_reached _ _ (Link.machine session ride.taxi) _ _ _ At _ (fun stage => stage.1.rank)
    Helps schedule link _ (fun time => ?_) (fun stage => fair.helps stage.2) ⟨.asked behind, trivial⟩
    0 here
  rintro ⟨stage, pending⟩ here
  obtain ⟨next, goes⟩ :=
    Ride.advances possible.literal (fun _ => possible) (fair.allows time) here
  rcases goes.pending_or_completed pending with completed | pendingNext
  · exact .inl completed
  · refine .inr ⟨⟨next, pendingNext⟩, goes.here, goes.later.imp id fun ⟨same, idle⟩ => ?_⟩
    exact ⟨Subtype.ext same, idle⟩

/-- The customer is brought from (2, 1) to (7, 7). -/
theorem hailed_ride_completed : ∃ due, Town.hailedRide.Completed Town.hailed.responses.length
    ((Link.machine Town.session 1).under Town.byTurns Town.hailed due) :=
  ride_completed Town.session Town.hailedRide Town.hailed Town.byTurns
    ⟨by decide, by decide, by decide +kernel, by decide +kernel, by decide, by decide⟩
    Town.hailed_starts Town.byTurns_fair

end EasyCab
