import EasyCab.Central.Standing
import EasyCab.Network.Reconnection

/-!
# What Central and the taxi believe

Central keeps the place of a taxi and its stop flag in a row, and the program of the taxi keeps its
own copies. The program starts at the base and free to go; a new row says the same, but a row
which is found again says what it said before. `standing_agrees` says that there is no other way
for the copies to differ than this and a failing `UPDATE`.
-/

namespace EasyCab

open Library

/-! ### What a message says -/

/-- Where a request of the taxi says that it is. -/
def placeOf? (taxiId : TaxiId) (message : Message) : Option Coordinate :=
  if Link.reportsFor taxiId message then some message.coord else none

/-- The request orders the taxi to stop or to go on. -/
def ordersStop (taxiId : TaxiId) (message : Message) : Bool :=
  message.taxiId = taxiId &&
    (message.subject = .request .orderTaxiStop || message.subject = .request .orderTaxiContinue)

/-- Whether a response tells its taxi to stop or to go on. -/
def stopOf? : SubjResponse → Option Bool
  | .taxiStop => some true
  | .taxiContinue => some false
  | _ => none

/-- What a message tells the taxi about stopping. -/
def stopFor? (taxiId : TaxiId) (message : Message) : Option Bool :=
  match message.subject with
  | .response subject => if message.taxiId = taxiId then stopOf? subject else none
  | _ => none

/-- Only a response for the taxi tells it anything. -/
theorem stopFor?_eq_some_iff {taxiId : TaxiId} {message : Message} {stop : Bool} :
    stopFor? taxiId message = some stop ↔
      ∃ subject, message.subject = .response subject ∧ message.taxiId = taxiId ∧
        stopOf? subject = some stop := by
  unfold stopFor?
  constructor
  · intro told
    split at told
    · next subject answers =>
      obtain ⟨named, told⟩ := Option.ite_none_right_eq_some.mp told
      exact ⟨subject, answers, named, told⟩
    · cases told
  · rintro ⟨subject, answers, named, told⟩
    simp only [answers, if_pos named, told]

/-- The response is for the taxi. -/
def isFor (taxiId : TaxiId) (message : Message) : Bool :=
  message.taxiId = taxiId &&
    match message.subject with
    | .response .taxiGoTo | .response .taxiStop | .response .taxiContinue
    | .response .taxiReturnToBase | .response .taxiDisconnect => true
    | _ => false

/-- What is not for the taxi tells it nothing. -/
theorem stopFor?_of_not_isFor {taxiId : TaxiId} {message : Message}
    (other : isFor taxiId message = false) : stopFor? taxiId message = none := by
  refine Option.eq_none_iff_forall_ne_some.mpr fun stop told => ?_
  obtain ⟨subject, answers, named, told⟩ := stopFor?_eq_some_iff.mp told
  simp only [isFor, answers, named, decide_true, Bool.true_and] at other
  cases subject <;> cases told <;> cases other

/-- Only an order to stop or to go on is answered by telling the taxi so. -/
theorem KafkaServer.Answered.orders {request answer : Message} {subject : SubjRequest}
    {taxiId : TaxiId} {stop : Bool} (answered : Answered request subject answer)
    (told : stopFor? taxiId answer = some stop) :
    stop? subject = some stop ∧ request.taxiId = taxiId := by
  obtain ⟨kind, replies, named, told⟩ := stopFor?_eq_some_iff.mp told
  cases answered with
  | plain answers other =>
      obtain rfl := Subject.response.inj (replies.symm.trans answers)
      cases kind <;> cases told <;> cases other
  | echoes echoes answers same =>
      obtain rfl := Subject.response.inj (replies.symm.trans answers)
      refine ⟨?_, same.symm.trans named⟩
      cases subject <;> cases echoes <;> cases told <;> rfl

namespace Link

/-! ### What is on its way -/

section Settled

variable {Said : Type} {tells : Message → Option Said} {said : Said} {letters : List Letter}

/-- What holds once the letters were consumed: what the last one says which says anything. -/
def settled (tells : Message → Option Said) (said : Said) (letters : List Letter) : Said :=
  letters.foldl (fun said letter => (tells letter.message).getD said) said

theorem settled_cons {letter : Letter} :
    settled tells said (letter :: letters) = settled tells ((tells letter.message).getD said) letters :=
  rfl

theorem settled_append {more : List Letter} :
    settled tells said (letters ++ more) = settled tells (settled tells said letters) more :=
  List.foldl_append

/-- Letters which say the same, where they or what held before say it. -/
theorem settled_of_unanimous {same : Said}
    (unanimous : ∀ letter ∈ letters, ∀ other ∈ tells letter.message, other = same)
    (once : said = same ∨ ∃ letter ∈ letters, (tells letter.message).isSome) :
    settled tells said letters = same := by
  induction letters generalizing said with
  | nil => simpa [settled] using once
  | cons letter letters inductionHypothesis =>
      rw [List.forall_mem_cons] at unanimous
      rw [settled_cons]
      apply inductionHypothesis unanimous.2
      cases heard : tells letter.message with
      | some other => exact .inl (unanimous.1 other heard)
      | none => simpa [heard] using once

/-- Letters which say nothing change nothing. -/
theorem settled_of_silent (silent : ∀ letter ∈ letters, tells letter.message = none) :
    settled tells said letters = said := by
  refine settled_of_unanimous (fun letter member other heard => ?_) (.inl rfl)
  rw [silent letter member] at heard
  cases heard

end Settled

/-- Where all requests of the taxi and all responses for it have been consumed, the row of the taxi
says what its program believes. -/
def Agrees (link : Link) (taxiId : TaxiId) : Prop :=
  ∀ taxi ∈ link.taxi, (∀ letter ∈ link.requests, letter.own = false) →
    (∀ letter ∈ link.responses.drop link.position, isFor taxiId letter.message = false) →
      link.db.standingOf taxiId = some (taxi.pos, taxi.orderedToStop)

/-- Once what is on its way was consumed, the row of the taxi is at the base, and says of stopping
what a program which starts now will have been told. -/
def Fresh (link : Link) (taxiId : TaxiId) : Prop :=
  ∃ said ∈ link.db.standingOf taxiId,
    settled (placeOf? taxiId) said.1 link.requests = ⟨0, 0⟩ ∧
      settled (stopFor? taxiId) false (link.responses.drop link.committed) = said.2

instance (link : Link) (taxiId : TaxiId) : Decidable (link.Agrees taxiId) := by
  unfold Agrees
  infer_instance

instance (link : Link) (taxiId : TaxiId) : Decidable (link.Fresh taxiId) := by
  unfold Fresh
  infer_instance

/-- What the row of the taxi says and what its program believes differ by what is on its way. -/
structure Tracks (link : Link) (session : Uuid) (taxiId : TaxiId) : Prop where
  strays : ∀ letter ∈ link.strays, reportsFor taxiId letter.message = false
  requests : ∀ letter ∈ link.requests, reportsFor taxiId letter.message = true →
    letter.own = true ∧ letter.message.session = session.1
  committed : link.committed ≤ link.responses.length
  position : link.position ≤ link.responses.length
  standing : ∀ taxi ∈ link.taxi, ∃ said ∈ link.db.standingOf taxiId,
    settled (placeOf? taxiId) said.1 link.requests = taxi.pos ∧
      settled (stopFor? taxiId) taxi.orderedToStop (link.responses.drop link.position) = said.2

/-- Central and the taxi agree where Central keeps track and nothing is on its way. -/
theorem Tracks.agrees {link : Link} {session : Uuid} {taxiId : TaxiId}
    (tracks : link.Tracks session taxiId) : link.Agrees taxiId := by
  intro taxi running consumed heard
  obtain ⟨said, stored, place, stop⟩ := tracks.standing taxi running
  rw [settled_of_silent fun letter member => stopFor?_of_not_isFor (heard letter member)] at stop
  rw [settled_of_silent fun letter member => ?_] at place
  · rw [← place, stop]
    exact stored
  · unfold placeOf?
    by_cases reports : reportsFor taxiId letter.message = true
    · have own := (tracks.requests letter member reports).1
      exact absurd ((consumed letter member).symm.trans own) Bool.false_ne_true
    · exact if_neg reports

end Link

namespace LinkStep

/-- The program of the taxi starts where its row says what the program believes, and while it runs
the `UPDATE` of no report of its place and of no order to stop or to go on fails. -/
def Faithful (taxiId : TaxiId) (taken : LinkStep) : Prop :=
  match taken.event with
  | .start => taken.before.Fresh taxiId
  | .request _ outages _ =>
      taken.before.taxi.isSome →
        ∀ letter ∈ taken.before.requests.head?,
          (Link.reportsFor taxiId letter.message = true → outages.tail.head? ≠ some true) ∧
            (ordersStop taxiId letter.message = true → outages.head? ≠ some true)
  | _ => True

instance (taxiId : TaxiId) (taken : LinkStep) : Decidable (taken.Faithful taxiId) := by
  unfold Faithful
  refine Link.Event.casesOn taken.event ?_ ?_ ?_ ?_ ?_ ?_ ?_ ?_ ?_ ?_ <;> intros <;> infer_instance

end LinkStep

/-! ### One turn of the taxi -/

namespace EcDe

variable {taxi next : EcDe} {taxiId : TaxiId} {session : Uuid} {acts : List Act}

/-- The taxi reports where it is, and where it moves it reports it. -/
structure Reports (taxi next : EcDe) (taxiId : TaxiId) (acts : List Act) : Prop where
  honest : ∀ sent ∈ Network.requestsOf acts,
    Link.reportsFor taxiId sent.1 = true → sent.1.coord = next.pos
  moved : next.pos = taxi.pos ∨
    ∃ sent ∈ Network.requestsOf acts, Link.reportsFor taxiId sent.1 = true

/-- A turn in which the taxi neither moves nor reports says where it is. -/
theorem Reports.stays (same : next.pos = taxi.pos)
    (silent : ∀ sent ∈ Network.requestsOf acts, Link.reportsFor taxiId sent.1 = false) :
    taxi.Reports next taxiId acts :=
  ⟨fun sent member reports => absurd ((silent sent member).symm.trans reports) Bool.false_ne_true,
    .inl same⟩

/-- What the taxi sends of itself reports nothing. -/
theorem message_silent {subject : SubjRequest} (other : ¬ KafkaServer.Reports subject) :
    ∀ sent ∈ Network.requestsOf [.produce (taxi.message subject)],
      Link.reportsFor taxiId sent.1 = false := by
  intro sent member
  obtain rfl := List.mem_singleton.mp member
  simpa [Link.reportsFor, message, Message.request, KafkaServer.Reports] using fun _ => other

/-- An order leaves the taxi where it is, and tells it what it says of stopping. -/
theorem Obeyed.reports {message : FullMessage} {subject : SubjResponse}
    (obeyed : taxi.Obeyed message subject next acts) :
    taxi.Reports next taxiId acts ∧
      next.orderedToStop = (stopOf? subject).getD taxi.orderedToStop := by
  cases obeyed with
  | arrived there =>
      refine ⟨⟨fun sent member _ => ?_, .inl rfl⟩, rfl⟩
      obtain rfl := List.mem_singleton.mp member
      rfl
  | sent | stopped | continued | returned | dismissed =>
      exact ⟨.stays rfl (List.forall_mem_nil _), rfl⟩
  | ignored other =>
      refine ⟨.stays rfl (List.forall_mem_nil _), ?_⟩
      cases subject <;> first | rfl | simp at other

/-- A consumed response leaves the taxi where it is, and tells it what it says of stopping. -/
theorem consume_reports {message : FullMessage}
    (turned : taxi.turn (.consume (some message)) = some (next, acts)) :
    taxi.Reports next taxi.id acts ∧
      next.orderedToStop = (stopFor? taxi.id message.1).getD taxi.orderedToStop := by
  cases turned_of_turn turned with
  | unheard unordered =>
      refine ⟨.stays rfl (List.forall_mem_nil _), ?_⟩
      cases told : stopFor? taxi.id message.1 with
      | none => rfl
      | some stop =>
          -- What tells the taxi something is an order for it.
          obtain ⟨subject, answers, named, _⟩ := stopFor?_eq_some_iff.mp told
          have ordered : taxi.order? message = some subject :=
            order?_eq_some_iff.mpr ⟨answers, named⟩
          cases ordered.symm.trans unordered
  | @heard _ subject _ _ ordered obeyed =>
      obtain ⟨answers, named⟩ := order?_eq_some_iff.mp ordered
      have said : stopFor? taxi.id message.1 = stopOf? subject := by
        simp only [stopFor?, answers, if_pos named]
      obtain ⟨reports, stops⟩ := obeyed.reports
      exact ⟨⟨reports.honest, reports.moved⟩, said ▸ stops⟩

/-- On a tick the taxi reports where it moves. -/
theorem Driven.reports {message : FullMessage} {waitTime : Int32} {sent : Option FullMessage}
    {moving : Bool} {sensor : SensorThread} (named : message.1.taxiId = taxiId)
    (drove : taxi.Driven message waitTime next sent) :
    taxi.Reports { next with sensor := sensor } taxiId
        (sent.toList.map .produce ++ [.answer moving]) ∧
      next.orderedToStop = taxi.orderedToStop := by
  cases drove with
  | waits waiting =>
      refine ⟨.stays rfl fun sent member => ?_, rfl⟩
      obtain rfl := List.mem_singleton.mp member
      simp [Link.reportsFor, Message.setIntData]
  | moves rolls apart allowed move =>
      refine ⟨⟨fun sent member _ => ?_, .inr ⟨_, List.mem_singleton_self _, ?_⟩⟩, rfl⟩
      · obtain rfl := List.mem_singleton.mp member
        rfl
      · by_cases there : move = taxi.dest <;> simp [Link.reportsFor, named, there]
  | rests held => exact ⟨.stays rfl (List.forall_mem_nil _), rfl⟩

/-- The taxi reports wherever it moves, and only a response tells it to stop or to go on. -/
theorem turn_reports (signs : taxi.Signs taxiId session) {event : Event}
    (deaf : ∀ message, event ≠ .consume (some message))
    (turned : taxi.turn event = some (next, acts)) :
    taxi.Reports next taxiId acts ∧ next.orderedToStop = taxi.orderedToStop := by
  cases turned_of_turn turned with
  | heard => exact absurd rfl (deaf _)
  | ticked attending drove => exact drove.reports (signs.attends _ attending).named
  | ended | connected | left | pinged =>
      exact ⟨.stays rfl (message_silent (by simp [KafkaServer.Reports])), rfl⟩
  | unheard | accepting | quit => exact ⟨.stays rfl (List.forall_mem_nil _), rfl⟩

end EcDe

namespace Link

variable {session : Uuid} {taxiId : TaxiId} {link next : Link}

/-! ### The other steps -/

/-- What the taxi sends in a turn says where it then is. -/
theorem settled_turned {taxi next : EcDe} {acts : List EcDe.Act} {epoch : Nat}
    (reports : taxi.Reports next taxiId acts) :
    settled (placeOf? taxiId) taxi.pos
        ((Network.requestsOf acts).map fun message => ⟨message.1, epoch, true⟩) = next.pos := by
  refine settled_of_unanimous (fun letter member coord heard => ?_) ?_
  · obtain ⟨sent, produced, rfl⟩ := List.mem_map.mp member
    obtain ⟨reporting, there⟩ := Option.ite_none_right_eq_some.mp heard
    rw [← Option.some.inj there]
    exact reports.honest sent produced reporting
  · rcases reports.moved with same | ⟨sent, member, reporting⟩
    · exact .inl same.symm
    · refine .inr ⟨_, List.mem_map_of_mem member, ?_⟩
      rw [placeOf?, if_pos reporting]
      rfl

/-- Letters which report nothing say nothing of a place. -/
theorem placeOf?_of_silent {letters : List Letter}
    (silent : ∀ letter ∈ letters, reportsFor taxiId letter.message = false) :
    ∀ letter ∈ letters, placeOf? taxiId letter.message = none :=
  fun letter member => if_neg (by simp [silent letter member])

/-- A turn of the taxi keeps track, if nothing but its consumed response tells it to stop or to go
on. -/
theorem Tracks.turned (tracks : link.Tracks session taxiId) {taxi after : EcDe}
    {acts : List EcDe.Act} {position : Nat} (running : link.taxi = some taxi)
    (reports : taxi.Reports after taxiId acts)
    (signed : ∀ sent ∈ Network.requestsOf acts, sent.1.Signed taxiId session)
    (within : position ≤ link.responses.length)
    (told : settled (stopFor? taxiId) after.orderedToStop (link.responses.drop position) =
      settled (stopFor? taxiId) taxi.orderedToStop (link.responses.drop link.position)) :
    ({ link with position := position }.turned after acts).Tracks session taxiId := by
  refine ⟨tracks.strays, fun letter member reporting => ?_, tracks.committed, within,
    fun current running' => ?_⟩
  · rcases List.mem_append.mp member with old | new
    · exact tracks.requests letter old reporting
    · obtain ⟨sent, produced, rfl⟩ := List.mem_map.mp new
      exact ⟨rfl, (signed sent produced).admitted⟩
  · obtain rfl := Option.some.inj running'
    obtain ⟨said, stored, place, stop⟩ := tracks.standing taxi running
    refine ⟨said, stored, ?_, told.trans stop⟩
    simp only [Link.turned, settled_append, place]
    exact settled_turned reports

/-- Requests which report nothing keep track. -/
theorem Tracks.sends (tracks : link.Tracks session taxiId) {letters : List Letter}
    (silent : ∀ letter ∈ letters, reportsFor taxiId letter.message = false) :
    { link with requests := link.requests ++ letters }.Tracks session taxiId := by
  refine ⟨tracks.strays, fun letter member reporting => ?_, tracks.committed, tracks.position,
    fun taxi running => ?_⟩
  · rcases List.mem_append.mp member with old | new
    · exact tracks.requests letter old reporting
    · exact absurd ((silent letter new).symm.trans reporting) Bool.false_ne_true
  · obtain ⟨said, stored, place, stop⟩ := tracks.standing taxi running
    refine ⟨said, stored, ?_, stop⟩
    rw [settled_append, settled_of_silent (placeOf?_of_silent silent)]
    exact place

section Consumed

/-- A report of the taxi with its session is let through. -/
theorem accepted_report {message : Message} (reports : reportsFor taxiId message = true)
    (admitted : message.session = session.1) :
    message.taxiId = taxiId ∧
      ∃ subject, KafkaServer.accepted? session message = some subject ∧
        KafkaServer.Reports subject := by
  simp only [reportsFor, Bool.and_eq_true, Bool.or_eq_true, decide_eq_true_eq] at reports
  obtain ⟨named, moved | reached⟩ := reports
  · exact ⟨named, _, by simp [KafkaServer.accepted?, moved, Message.checkSession, admitted], .inl rfl⟩
  · exact ⟨named, _, by simp [KafkaServer.accepted?, reached, Message.checkSession, admitted], .inr rfl⟩

variable {now : Timestamp} {outages : List Bool} {response request : Message} {db : Db}
  {subject : SubjRequest} {outcome : Outcome KafkaServer Act Unit} {said : Coordinate × Bool}
  {epoch : Nat}

/-- What Central puts on `responses`. -/
def answers (epoch : Nat) (acts : List Act) : List Letter :=
  (Network.responsesOf acts).map fun message => ⟨message, epoch, false⟩

/-- What it tells the taxi of stopping, it was ordered to. -/
theorem answers_ordered
    (ran : KafkaServer.process now session request ⟨db, outages, response⟩ = .ok outcome) :
    ∀ letter ∈ answers epoch outcome.acts, ∀ stop ∈ stopFor? taxiId letter.message,
      ∃ subject ∈ KafkaServer.accepted? session request,
        KafkaServer.stop? subject = some stop ∧ request.taxiId = taxiId := by
  intro letter member stop told
  obtain ⟨answer, produced, rfl⟩ := List.mem_map.mp member
  have acted : .produce answer ∈
      (KafkaServer.process now session request).acts ⟨db, outages, response⟩ := by
    rw [Effect.acts, ran]
    exact Network.mem_responsesOf_iff.mp produced
  obtain ⟨subject, accepted, answered⟩ := KafkaServer.process_answered acted
  exact ⟨subject, accepted, answered.orders told⟩

/-- A report whose `UPDATE` is executed is in the row, and tells the taxi nothing. -/
theorem consumed_report
    (ran : KafkaServer.process now session request ⟨db, outages, response⟩ = .ok outcome)
    (accepted : KafkaServer.accepted? session request = some subject)
    (reports : KafkaServer.Reports subject) (executed : outages.tail.head? ≠ some true)
    (stored : db.standingOf request.taxiId = some said) :
    outcome.state.db.standingOf request.taxiId = some (request.coord, said.2) ∧
      settled (stopFor? request.taxiId) said.2 (answers epoch outcome.acts) = said.2 := by
  refine ⟨KafkaServer.process_report accepted reports executed ran stored,
    settled_of_silent fun letter member => Option.eq_none_iff_forall_ne_some.mpr fun stop told => ?_⟩
  obtain ⟨other, accepted', orders, _⟩ := answers_ordered ran letter member stop told
  obtain rfl := Option.some.inj (accepted.symm.trans accepted')
  obtain rfl | rfl := reports <;> cases orders

/-- An order to stop or to go on whose `UPDATE` is executed is in the row, and the taxi is told. -/
theorem consumed_stop {stop : Bool}
    (ran : KafkaServer.process now session request ⟨db, outages, response⟩ = .ok outcome)
    (accepted : KafkaServer.accepted? session request = some subject)
    (orders : KafkaServer.stop? subject = some stop) (executed : outages.head? ≠ some true)
    (stored : db.standingOf request.taxiId = some said) :
    outcome.state.db.standingOf request.taxiId = some (said.1, stop) ∧
      settled (stopFor? request.taxiId) said.2 (answers epoch outcome.acts) = stop := by
  obtain ⟨_, same, row, answer, produced, named, replies⟩ :=
    @KafkaServer.process_stop now session ⟨db, outages, response⟩ request subject stop accepted orders
      executed
  obtain rfl := Except.ok.inj (ran.symm.trans same)
  refine ⟨by rw [row]; simp [stored], settled_of_unanimous (fun letter member other told => ?_) ?_⟩
  · obtain ⟨_, accepted', orders', _⟩ := answers_ordered ran letter member other told
    obtain rfl := Option.some.inj (accepted.symm.trans accepted')
    exact Option.some.inj (orders'.symm.trans orders)
  · refine .inr ⟨_, List.mem_map_of_mem (Network.mem_responsesOf_iff.mpr produced), ?_⟩
    have told : stopFor? request.taxiId answer = some stop :=
      stopFor?_eq_some_iff.mpr ⟨_, replies, named, by cases stop <;> rfl⟩
    exact Option.isSome_of_eq_some told

/-- Any other request leaves the row and tells the taxi nothing. -/
theorem consumed_other
    (ran : KafkaServer.process now session request ⟨db, outages, response⟩ = .ok outcome)
    (other : ∀ subject ∈ KafkaServer.accepted? session request, request.taxiId = taxiId →
      ¬ KafkaServer.Reports subject ∧ KafkaServer.stop? subject = none) {flag : Bool} :
    outcome.state.db.standingOf taxiId = db.standingOf taxiId ∧
      settled (stopFor? taxiId) flag (answers epoch outcome.acts) = flag := by
  constructor
  · refine KafkaServer.process_standing ran fun subject accepted named _ _ => ?_
    obtain ⟨moves, stops⟩ := other subject accepted named
    refine ⟨fun reports => absurd reports moves, fun stop orders => ?_⟩
    rw [stops] at orders
    cases orders
  · refine settled_of_silent fun letter member => ?_
    refine Option.eq_none_iff_forall_ne_some.mpr fun stop told => ?_
    obtain ⟨subject, accepted, orders, named⟩ := answers_ordered ran letter member stop told
    rw [(other subject accepted named).2] at orders
    cases orders

end Consumed

/-- What Central consumes keeps track, if no `UPDATE` fails which matters. -/
theorem Tracks.request (tracks : link.Tracks session taxiId) {now : Timestamp}
    {outages : List Bool} {beyond : Beyond} {letter : Letter} {requests : List Letter}
    {outcome : Outcome KafkaServer Act Unit} (waiting : link.requests = letter :: requests)
    (ran : KafkaServer.process now session (letter.message.read beyond).1
      ⟨link.db, outages, link.response⟩ = .ok outcome)
    (faithful : link.taxi.isSome →
      (reportsFor taxiId letter.message = true → outages.tail.head? ≠ some true) ∧
        (ordersStop taxiId letter.message = true → outages.head? ≠ some true)) :
    Tracks
      { link with
        db := outcome.state.db
        response := outcome.state.response
        requests := requests
        responses := link.responses ++ answers letter.epoch outcome.acts } session taxiId := by
  have rest : ∀ other ∈ requests, other ∈ link.requests := by
    rw [waiting]
    exact fun _ member => List.mem_cons_of_mem _ member
  have longer (more : List Letter) : link.responses.length ≤ (link.responses ++ more).length := by
    simp
  refine ⟨tracks.strays, fun other member => tracks.requests other (rest other member),
    Nat.le_trans tracks.committed (longer _), Nat.le_trans tracks.position (longer _),
    fun taxi running => ?_⟩
  obtain ⟨said, stored, place, stop⟩ := tracks.standing taxi running
  obtain ⟨executed, flagged⟩ := faithful (Option.isSome_of_eq_some running)
  rw [waiting, settled_cons] at place
  simp only [List.drop_append_of_le_length tracks.position, settled_append, stop]
  by_cases reports : reportsFor taxiId letter.message = true
  · have admitted := (tracks.requests letter (waiting ▸ List.mem_cons_self) reports).2
    obtain ⟨named, subject, accepted, reporting⟩ := accepted_report reports admitted
    have full : letter.message.session.length = uuidLength := admitted.symm ▸ session.2
    rw [Message.read_of_full beyond full] at ran
    obtain ⟨row, told⟩ :=
      consumed_report ran accepted reporting (executed reports) (named.symm ▸ stored)
    rw [named] at row told
    exact ⟨_, row, by simpa [placeOf?, reports] using place, told⟩
  · rw [placeOf?, if_neg reports, Option.getD_none] at place
    by_cases orders : ∃ subject stop, KafkaServer.accepted? session (letter.message.read beyond).1 =
        some subject ∧ KafkaServer.stop? subject = some stop ∧ letter.message.taxiId = taxiId
    · obtain ⟨subject, stop, accepted, orders, named⟩ := orders
      have asked : letter.message.subject = .request subject := by
        simpa using KafkaServer.subject_of_accepted accepted
      have ordered : ordersStop taxiId letter.message = true := by
        cases subject <;> cases orders <;> simp [ordersStop, named, asked]
      have same : (letter.message.read beyond).1.taxiId = taxiId := by simpa using named
      obtain ⟨row, told⟩ := consumed_stop ran accepted orders (flagged ordered) (same.symm ▸ stored)
      rw [same] at row told
      exact ⟨_, row, place, told⟩
    · have other : ∀ subject ∈ KafkaServer.accepted? session (letter.message.read beyond).1,
          (letter.message.read beyond).1.taxiId = taxiId →
            ¬ KafkaServer.Reports subject ∧ KafkaServer.stop? subject = none := by
        intro subject accepted named
        have asked := KafkaServer.subject_of_accepted accepted
        simp only [Message.read_subject, Message.read_taxiId] at asked named
        refine ⟨fun reporting => reports ?_, Option.eq_none_iff_forall_ne_some.mpr fun stop ordered =>
          orders ⟨subject, stop, accepted, ordered, named⟩⟩
        simpa [reportsFor, named, asked, KafkaServer.Reports] using reporting
      obtain ⟨row, told⟩ := consumed_other ran other
      exact ⟨said, row.trans stored, place, told⟩

end Link

/-- The authentication server leaves what the row of a stored taxi says. -/
theorem AuthServer.addTaxi_standing (now : Timestamp) (session : Uuid) (other : TaxiId)
    (reconnect : Bool) (outages : List Bool) {taxiId : TaxiId} {db : Db} {said : Coordinate × Bool}
    (stored : db.standingOf taxiId = some said) :
    (AuthServer.addTaxi now session other reconnect outages db).db.standingOf taxiId = some said :=
  AuthServer.addTaxi_taxiColumn (fun _ _ => rfl) (fun _ _ => rfl) stored

namespace Link

variable {session : Uuid} {taxiId : TaxiId} {link next : Link}

/-- What the authentication server announces reports nothing. -/
theorem Tracks.announces (tracks : link.Tracks session taxiId) (now : Timestamp) (other : TaxiId)
    (reconnect : Bool) (outages : List Bool) (epoch : Nat) :
    Tracks
      { link with
        requests := link.requests ++
          (AuthServer.addTaxi now session other reconnect outages link.db).value.toList.map
            fun message => ⟨message, epoch, false⟩ } session taxiId := by
  refine tracks.sends fun letter member => ?_
  obtain ⟨message, announced, rfl⟩ := List.mem_map.mp member
  simp only [AuthServer.addTaxi, Option.mem_toList] at announced
  split at announced
  · cases announced
  · cases announced
    cases reconnect <;> simp [reportsFor, AuthServer.announcement, Message.request]

/-- Every faithful step keeps track. -/
theorem Tracks.step {event : Event} (tracks : link.Tracks session taxiId)
    (signs : link.Signs session taxiId) (stepped : Stepped session taxiId link event next)
    (faithful : LinkStep.Faithful taxiId ⟨link, event, next⟩) : next.Tracks session taxiId := by
  cases stepped with
  | select now outages =>
      refine ⟨fun letter member => ?_, tracks.requests, tracks.committed, tracks.position,
        tracks.standing⟩
      obtain ⟨message, sent, rfl⟩ := List.mem_map.mp member
      rcases KafkaServer.checkStrays_orders now outages link.db message sent with orders | orders <;>
        simp [reportsFor, orders]
  | @order letter strays waiting =>
      have first : reportsFor taxiId letter.message = false :=
        tracks.strays letter (waiting ▸ List.mem_cons_self)
      have sent := tracks.sends (List.forall_mem_singleton.mpr first)
      refine ⟨fun other member => tracks.strays other ?_, sent.requests, sent.committed,
        sent.position, sent.standing⟩
      rw [waiting]
      exact List.mem_cons_of_mem _ member
  | post other => exact tracks.sends (List.forall_mem_singleton.mpr other)
  | request waiting ran =>
      exact tracks.request waiting ran fun running =>
        faithful running _ (by rw [waiting]; rfl)
  | @register now other reconnect outages answer epoch ran counts =>
      subst ran
      have sent := tracks.announces now other reconnect outages epoch
      refine ⟨sent.strays, sent.requests, sent.committed, sent.position, fun taxi running => ?_⟩
      obtain ⟨said, stored, standing⟩ := sent.standing taxi running
      exact ⟨said, AuthServer.addTaxi_standing now session other reconnect outages stored, standing⟩
  | start stopped acknowledged =>
      refine ⟨tracks.strays, tracks.requests, tracks.committed, tracks.committed, fun taxi running => ?_⟩
      obtain rfl := Option.some.inj running
      exact faithful
  | @hear beyond taxi after letter acts running waiting turned =>
      have signed := signs taxi running
      obtain ⟨reports, heard⟩ := EcDe.consume_reports turned
      rw [signed.named] at reports heard
      obtain ⟨within, rfl⟩ := List.getElem?_eq_some_iff.mp waiting
      apply tracks.turned running reports (signed.turn turned).2 within
      rw [List.drop_eq_getElem_cons within, settled_cons, heard]
      simp [stopFor?]
  | @turn event taxi after acts deaf running turned =>
      have signed := signs taxi running
      obtain ⟨reports, kept⟩ := EcDe.turn_reports signed deaf turned
      exact tracks.turned running reports (signed.turn turned).2 tracks.position (by rw [kept])
  | commit running =>
      exact ⟨tracks.strays, tracks.requests, tracks.position, tracks.position, tracks.standing⟩
  | crash =>
      exact ⟨tracks.strays, tracks.requests, tracks.committed, tracks.position,
        fun _ running => by simp at running⟩

end Link

/-- In every run in which the program of the taxi only starts where its row says what it believes,
and no `UPDATE` of the place or of the flag fails while it runs, the two agree whenever all was
consumed. -/
theorem standing_agrees (session : Uuid) (taxiId : TaxiId) (locations : Table LocationRow.id)
    (events : List Link.Event)
    (faithful : ∀ taken ∈ (Link.machine session taxiId).run (.initial locations) events,
      LinkStep.Faithful taxiId taken) :
    ∀ taken ∈ (Link.machine session taxiId).run (.initial locations) events,
      taken.after.Agrees taxiId := by
  intro taken member
  have initial : (Link.initial locations).Tracks session taxiId ∧
      (Link.initial locations).Signs session taxiId :=
    ⟨⟨by simp [Link.initial], by simp [Link.initial], Nat.le_refl _, Nat.le_refl _,
      by simp [Link.initial]⟩, by simp [Link.Signs, Link.initial]⟩
  have holds := (Machine.run_invariant
    (fun link => link.Tracks session taxiId ∧ link.Signs session taxiId)
    (fun taken stepped faithful kept =>
      ⟨kept.1.step kept.2 (Link.stepped_of_step stepped) faithful,
        kept.2.step (Link.stepped_of_step stepped)⟩)
    initial faithful taken member).2
  exact holds.1.agrees

namespace Link

/-- Taxi 1 is on its way to (2, 0), has moved once, and Central has consumed all that it sent. -/
def halfway : List Event :=
  firstRide ++ [.post { Message.request [] .orderTaxiGoTo with taxiId := 1, coord := ⟨2, 0⟩ },
    consume 1, .hear beyond, .turn .check, .turn .connect, .turn (.tick 0 true), consume 2, consume 3]

/-- The taxi is thrown out there, crashes and comes back. -/
def comesBack : List Event :=
  halfway ++ [.post { Message.request [] .orderTaxiDisconnect with taxiId := 1 }, consume 4,
    .hear beyond, .commit, .crash, .register 5 1 true [], .start, consume 6]

/-- Taxi 1 comes back where it has left, is sent away, and is stopped after its first move. -/
def stoppedHalfway : List Event :=
  leaves ++ [.post { Message.request [] .orderTaxiGoTo with taxiId := 1, coord := ⟨2, 0⟩ },
    consume 3, .hear beyond, .turn .check, .turn .connect, .turn (.tick 0 true),
    .post { Message.request [] .orderTaxiStop with taxiId := 1 }, consume 3, consume 4, consume 4,
    .hear beyond]

end Link

/-- The row of a taxi which came back to the base follows it from there. -/
theorem stopped_taxi_agrees :
    (((Link.machine Town.session 1).exec (.initial Town.locations) Link.stoppedHalfway).map
        (·.db.standingOf 1)) = some (some (⟨1, 0⟩, true)) ∧
      ∀ taken ∈ (Link.machine Town.session 1).run (.initial Town.locations) Link.stoppedHalfway,
        taken.after.Agrees 1 :=
  ⟨by decide +kernel,
    standing_agrees Town.session 1 Town.locations Link.stoppedHalfway (by decide +kernel)⟩

/-- The row of a taxi which comes back keeps the place where the taxi was. -/
theorem returned_taxi_disagrees :
    ¬ ∀ (session : Uuid) (taxiId : TaxiId) (locations : Table LocationRow.id)
        (events : List Link.Event),
      ∀ taken ∈ (Link.machine session taxiId).run (.initial locations) events,
        taken.after.Agrees taxiId := by
  intro claimed
  have agrees := claimed Town.session 1 Town.locations Link.comesBack
  revert agrees
  decide +kernel

end EasyCab
