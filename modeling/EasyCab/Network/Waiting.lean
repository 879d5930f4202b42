import EasyCab.Network.Countdown

/-!
# What Central knows of a wait

On an exchange with a positive waiting time the taxi stays and reports one less than it received,
and Central stores the report. `inconvenience_counts_down` follows one connection of a sensor from
the counter of `EC_SE` to the row in the database, through every order of the steps.
-/

namespace EasyCab

open Library

namespace Countdown

/-! ### What the taxi reports -/

/-- The waiting time which the taxi received last, and zero before the first one. -/
def latest (countdown : Countdown) : Int32 := countdown.received.getLastD 0

/-- The taxi attends the sensor. -/
def connected (countdown : Countdown) : Bool :=
  match countdown.taxi.sensor with
  | .attending _ | .leaving => true
  | _ => false

/-- What the row of the taxi is to say after a waiting time was received. -/
def reported (waitTime : Int32) : Int32 × Bool :=
  (if 0 < waitTime then waitTime - 1 else 0, decide (waitTime.toInt ≤ 1))

/-- What the row of a taxi says when Central has consumed all requests. -/
def settling (countdown : Countdown) (taxi : TaxiId) : Option (Int32 × Bool) :=
  (countdown.central.db.taxiColumn TaxiRow.waiting taxi).map
    (Message.settleAll countdown.requests taxi)

/-- While the taxi attends the sensor, Central will have stored what the taxi received last when it
has consumed what was sent. -/
structure Reporting (countdown : Countdown) (session : Uuid) (taxi : TaxiId) : Prop where
  signs : countdown.taxi.Signs taxi session
  signed : ∀ message ∈ countdown.requests,
    message.settles taxi = true → message.session = session.1
  unread : countdown.answered = false → intOf countdown.socket.getData = countdown.latest
  settles : countdown.connected = true →
    countdown.settling taxi = some (reported countdown.latest)

end Countdown

/-! ### What a turn of the taxi puts on `requests` -/

namespace EcDe

variable {taxi next : EcDe} {event : Event} {acts : List Act}

/-- Only a tick and the connection of a sensor settle how long the taxi waits, and only they begin
to attend a sensor. -/
theorem quiet_of_turn (unticked : ∀ waitTime again, event ≠ .tick waitTime again)
    (unconnected : event ≠ .connect) (turned : taxi.turn event = some (next, acts))
    (attends : next.sensor = .leaving ∨ ∃ message, next.sensor = .attending message) :
    next.sensor = taxi.sensor ∧
      ∀ message ∈ Network.requestsOf acts, ∀ other, message.1.settles other = false := by
  cases turned_of_turn turned with
  | ticked => exact absurd rfl (unticked _ _)
  | connected => exact absurd rfl unconnected
  | ended | accepting | left => simp at attends
  | heard ordered obeyed =>
      cases obeyed with
      | arrived there =>
          refine ⟨rfl, fun message member other => ?_⟩
          obtain rfl := List.mem_singleton.mp member
          simp [Message.settles]
      | _ => exact ⟨rfl, List.forall_mem_nil _⟩
  | unheard | quit => exact ⟨rfl, List.forall_mem_nil _⟩
  | pinged =>
      refine ⟨rfl, fun message member other => ?_⟩
      obtain rfl := List.mem_singleton.mp member
      simp [EcDe.message, Message.request, Message.settles]

/-- What `attend` puts on `requests` in one pass. -/
theorem requestsOf_attend (sent : Option FullMessage) (moving : Bool) :
    Network.requestsOf (sent.toList.map .produce ++ [.answer moving]) = sent.toList := by
  cases sent <;> rfl

variable {waitTime : Int32} {again : Bool}

/-- On a positive waiting time the taxi stays where it is and reports one less, and nothing else. -/
theorem tick_of_pos (positive : 0 < waitTime)
    (turned : taxi.turn (.tick waitTime again) = some (next, acts)) :
    ∃ message, taxi.sensor = .attending message ∧ next.pos = taxi.pos ∧
      Network.requestsOf acts =
        [⟨Message.setIntData { message.1 with subject := .request .taxiUpdateWaitTime }
          (waitTime - 1), message.2⟩] := by
  simp only [turn] at turned
  split at turned
  · next message attending =>
    obtain ⟨⟨driven, sent⟩, drove, same⟩ := Option.map_eq_some_iff.mp turned
    rw [drive, if_pos positive] at drove
    cases drove
    cases same
    exact ⟨message, attending, rfl, requestsOf_attend _ _⟩
  · cases turned

/-- On a tick with no positive waiting time the taxi does not report how long it waits. -/
theorem tick_of_not_pos (elapsed : ¬ 0 < waitTime)
    (turned : taxi.turn (.tick waitTime again) = some (next, acts)) :
    (∃ message, taxi.sensor = .attending message) ∧
      ∀ message ∈ Network.requestsOf acts, ∀ other, message.1.settles other = false := by
  cases turned_of_turn turned with
  | @ticked message _ _ driven sent attending drove =>
      refine ⟨⟨message, attending⟩, ?_⟩
      rw [requestsOf_attend]
      cases drove with
      | waits waiting => exact absurd waiting elapsed
      | rests held => exact List.forall_mem_nil _
      | moves rolls apart allowed move =>
          refine List.forall_mem_singleton.mpr fun other => ?_
          by_cases there : move ≠ taxi.dest <;> simp [Message.settles, there]

end EcDe

namespace Countdown

variable {session : Uuid} {countdown next : Countdown} {event : Event} {taxi : TaxiId}

theorem connected_iff : countdown.connected = true ↔
    countdown.taxi.sensor = .leaving ∨ ∃ message, countdown.taxi.sensor = .attending message := by
  cases sensor : countdown.taxi.sensor <;> simp [connected, sensor]

/-- A waiting time of at most one leaves nothing to wait. -/
theorem reported_of_le_one {waitTime : Int32} (small : waitTime.toInt ≤ 1) :
    reported waitTime = (0, true) := by
  unfold reported
  by_cases positive : 0 < waitTime
  · have above : 0 < waitTime.toInt := Int32.lt_iff_toInt_lt.mp positive
    have one : waitTime = 1 := Int32.toInt_inj.mp (show waitTime.toInt = 1 by omega)
    subst one
    rfl
  · rw [if_neg positive, decide_eq_true small]

/-- A positive waiting time is reported less one. -/
theorem reported_of_pos {waitTime : Int32} (positive : 0 < waitTime) :
    reported waitTime = (waitTime - 1, decide (waitTime - 1 = 0)) := by
  have above : 0 < waitTime.toInt := Int32.lt_iff_toInt_lt.mp positive
  have less := EcSe.toInt_sub_one above
  have same : waitTime.toInt ≤ 1 ↔ waitTime - 1 = 0 := by
    rw [← Int32.toInt_inj, less, Int32.toInt_zero]
    omega
  rw [reported, if_pos positive, decide_eq_decide.mpr same]

/-- Before a pass of `attend` the socket shows what was received last. -/
theorem Reporting.heard (reporting : countdown.Reporting session taxi) {heard : Countdown}
    (received : countdown.Received heard) : intOf heard.socket.getData = heard.latest := by
  cases received with
  | first unanswered => exact reporting.unread unanswered
  | read answered waiting => simp [latest]

/-- When no more is to be waited, the row was to say so already: the counter does not fall to zero
from more than one. -/
theorem Counting.reported_eq (counting : countdown.Counting) {heard : Countdown}
    (received : countdown.Received heard) (elapsed : ¬ 0 < heard.latest) :
    reported heard.latest = reported countdown.latest := by
  have later := counting.received received
  cases received with
  | first unanswered => rfl
  | @read frame counts answered waiting =>
      obtain ⟨more, counted⟩ := later.inOrder
      let value := intOf (countdown.socket.readFrame frame).2.getData
      have split : EcSe.counted countdown.notes =
          countdown.received ++ value :: (counts.map Frame.count ++ more) := by
        rw [← counted]
        simp [value]
      obtain ⟨before, after, noted, earlier, _⟩ := EcSe.note_of_counted split
      obtain ⟨natural, small⟩ := (later.regular before value after noted).of_counted
      have latest : ∀ heard : Countdown, heard.received = countdown.received ++ [value] →
          heard.latest = value := fun heard same => by simp [Countdown.latest, same]
      rw [latest _ rfl] at elapsed ⊢
      rw [Int32.lt_iff_toInt_lt, Int32.toInt_zero] at elapsed
      have zero : value.toInt = 0 := by omega
      have before := small zero
      rw [earlier] at before
      rw [reported_of_le_one (by omega), Countdown.latest, reported_of_le_one before]

/-- Messages which settle nothing may be put on `requests`. -/
theorem Reporting.sends (reporting : countdown.Reporting session taxi) {messages : List Message}
    (quiet : ∀ message ∈ messages, message.settles taxi = false) :
    Reporting { countdown with requests := countdown.requests ++ messages } session taxi := by
  obtain ⟨signs, signed, unread, settles⟩ := reporting
  refine ⟨signs, fun message member settling => ?_, unread, fun attends => ?_⟩
  · rcases List.mem_append.mp member with before | sent
    · exact signed message before settling
    · rw [quiet message sent] at settling
      cases settling
  · have same : Message.settleAll (countdown.requests ++ messages) taxi =
        Message.settleAll countdown.requests taxi := by
      funext columns
      rw [Message.settleAll_append, Message.settleAll_of_quiet quiet]
    rw [settling, same]
    exact settles attends

/-- A turn of the taxi which does not tick keeps what it reports. -/
theorem Reporting.turned (reporting : countdown.Reporting session taxi) {event : EcDe.Event}
    {next : EcDe} {acts : List EcDe.Act}
    (unticked : ∀ waitTime again, event ≠ .tick waitTime again) (unconnected : event ≠ .connect)
    (turned : countdown.taxi.turn event = some (next, acts)) :
    (countdown.turned next acts).Reporting session taxi := by
  obtain ⟨signs, sent⟩ := reporting.signs.turn turned
  have admitted : ∀ message ∈ (Network.requestsOf acts).map (·.1), message.session = session.1 :=
    List.forall_mem_map.mpr fun full produced => (sent full produced).admitted
  refine ⟨signs, fun message member settling => ?_, reporting.unread, fun attends => ?_⟩
  · rcases List.mem_append.mp member with before | here
    · exact reporting.signed message before settling
    · exact admitted message here
  · obtain ⟨same, quiet⟩ :=
      EcDe.quiet_of_turn unticked unconnected turned (connected_iff.mp attends)
    have attended : countdown.connected = true := by
      rw [connected_iff] at attends ⊢
      rwa [← same]
    have silent : ∀ message ∈ (Network.requestsOf acts).map (·.1), message.settles taxi = false :=
      List.forall_mem_map.mpr fun full produced => quiet full produced taxi
    exact (reporting.sends silent).settles attended

/-- A pass of `attend` keeps what the taxi reports: Central will store the waiting time which it
reports. -/
theorem Reporting.exchanged (reporting : countdown.Reporting session taxi)
    (counting : countdown.Counting) {heard : Countdown} (received : countdown.Received heard)
    {again moving : Bool} {next : EcDe} {acts : List EcDe.Act}
    (turned : heard.taxi.turn (.tick (intOf heard.socket.getData) again) = some (next, acts)) :
    ((heard.turned next acts).answer moving).Reporting session taxi := by
  have value := reporting.heard received
  have elapsed := counting.reported_eq received
  obtain ⟨signs, signed, unread, settles⟩ := reporting
  have same : heard.taxi = countdown.taxi ∧ heard.requests = countdown.requests ∧
      heard.central = countdown.central := by
    cases received <;> exact ⟨rfl, rfl, rfl⟩
  obtain ⟨sameTaxi, sameRequests, sameCentral⟩ := same
  rw [sameTaxi, value] at turned
  obtain ⟨signsNext, sent⟩ := signs.turn turned
  have admitted : ∀ message ∈ (Network.requestsOf acts).map (·.1), message.session = session.1 :=
    List.forall_mem_map.mpr fun full produced => (sent full produced).admitted
  refine ⟨signsNext, fun message member settling => ?_, by rintro ⟨⟩, fun _ => ?_⟩
  · rcases List.mem_append.mp member with before | here
    · exact signed message (sameRequests ▸ before) settling
    · exact admitted message here
  · change (heard.central.db.taxiColumn TaxiRow.waiting taxi).map (Message.settleAll
      (heard.requests ++ (Network.requestsOf acts).map (·.1)) taxi) = some (reported heard.latest)
    rw [sameRequests, sameCentral]
    by_cases positive : 0 < heard.latest
    · obtain ⟨message, attending, _, only⟩ := EcDe.tick_of_pos positive turned
      have before := settles (connected_iff.mpr (.inr ⟨message, attending⟩))
      obtain ⟨columns, stored, settled⟩ := Option.map_eq_some_iff.mp before
      have named : message.1.taxiId = taxi := (signs.attends message attending).named
      rw [only, stored, Option.map_some, Message.settleAll_append, settled, reported_of_pos positive]
      simp [Message.settleAll, Message.settle, named]
    · obtain ⟨⟨message, attending⟩, quiet⟩ := EcDe.tick_of_not_pos positive turned
      have attends : countdown.connected = true := connected_iff.mpr (.inr ⟨message, attending⟩)
      have silent : ∀ message ∈ (Network.requestsOf acts).map (·.1),
          message.settles taxi = false :=
        List.forall_mem_map.mpr fun full produced => quiet full produced taxi
      rw [elapsed positive]
      exact (Reporting.sends ⟨signs, signed, unread, settles⟩ silent).settles attends

/-- A registration keeps what the taxi reports. -/
theorem Reporting.registered (reporting : countdown.Reporting session taxi) {now : Timestamp}
    {other : TaxiId} {reconnect : Bool} {outages : List Bool} {central : System}
    (stepped : countdown.central.step session (.addTaxi now other reconnect outages) =
      some central) :
    Reporting { countdown with
      central := central
      requests := countdown.requests ++
        (AuthServer.addTaxi now session other reconnect outages
          countdown.central.db).value.toList } session taxi := by
  have kept : Reporting { countdown with central := central } session taxi := by
    obtain ⟨signs, signed, unread, settles⟩ := reporting
    refine ⟨signs, signed, unread, fun attends => ?_⟩
    obtain ⟨columns, stored, settled⟩ := Option.map_eq_some_iff.mp (settles attends)
    cases System.stepped_of_step stepped
    rw [settling, AuthServer.addTaxi_taxiColumn (fun _ _ => rfl) (fun _ _ => rfl) stored,
      Option.map_some, settled]
    rfl
  refine kept.sends fun message member => ?_
  simp only [AuthServer.addTaxi, Option.mem_toList] at member
  split at member
  · cases member
  · cases member
    cases reconnect <;> simp [AuthServer.announcement, Message.request, Message.settles]

/-- A message is read as the same one where it settles something, and settles nothing otherwise. -/
theorem settle_read {message : Message} {beyond : Beyond}
    (signed : message.settles taxi = true → message.session = session.1) :
    (message.read beyond).1.settle taxi = message.settle taxi ∧
      (message.read beyond).1.settles taxi = message.settles taxi ∧
      (message.settles taxi = true → (message.read beyond).1.session = session.1) := by
  have same : (message.read beyond).1.settles taxi = message.settles taxi := by
    simp [Message.settles]
  cases settles : message.settles taxi with
  | true =>
      have own := signed settles
      have read : (message.read beyond).1 = message :=
        Message.read_of_full beyond (by rw [own, session.2])
      rw [read]
      exact ⟨rfl, settles, fun _ => own⟩
  | false =>
      rw [settles] at same
      refine ⟨?_, same, by rintro ⟨⟩⟩
      funext columns
      rw [Message.settle_of_not_settles same, Message.settle_of_not_settles settles]

/-- A request which Central consumes keeps what the taxi reports, if its query is executed where it
settles something. -/
theorem Reporting.consumed (reporting : countdown.Reporting session taxi) {now : Timestamp}
    {outages : List Bool} {beyond : Beyond} {message : Message} {requests : List Message}
    {central : System} (waiting : countdown.requests = message :: requests)
    (executed : message.settles taxi = true → outages.head? ≠ some true)
    (stepped : countdown.central.step session (.request now (message.read beyond).1 outages) =
      some central) :
    Reporting { countdown with central := central, requests := requests } session taxi := by
  obtain ⟨signs, signed, unread, settles⟩ := reporting
  rw [waiting, List.forall_mem_cons] at signed
  obtain ⟨sameSettle, sameSettles, admitted⟩ := @settle_read session taxi message beyond signed.1
  refine ⟨signs, signed.2, unread, fun attends => ?_⟩
  have before := settles attends
  cases System.stepped_of_step stepped with
  | consumed ran =>
      rw [← sameSettles] at admitted executed
      have columns := KafkaServer.process_waiting ran fun settling =>
        ⟨admitted settling, executed settling⟩
      rw [settling, waiting] at before
      rw [settling, columns, sameSettle, Option.map_map]
      exact before

/-- Every step keeps what the taxi reports, if Central executes the query of a request which settles
something. -/
theorem Reporting.step (reporting : countdown.Reporting session taxi)
    (counting : countdown.Counting)
    (executed : ∀ now outages beyond, event = .request now outages beyond →
      ∀ message ∈ countdown.requests.head?, message.settles taxi = true → outages.head? ≠ some true)
    (stepped : Stepped session countdown event next) : next.Reporting session taxi := by
  cases stepped with
  | hear waiting turned | sensor turned =>
      obtain ⟨signs, signed, unread, settles⟩ := reporting
      exact ⟨signs, signed, unread, settles⟩
  | exchange received turned => exact reporting.exchanged counting received turned
  | taxi unticked unconnected turned => exact reporting.turned unticked unconnected turned
  | post other =>
      refine reporting.sends (List.forall_mem_singleton.mpr ?_)
      rwa [reporting.signs.named] at other
  | register stepped => exact reporting.registered stepped
  | request waiting stepped =>
      exact reporting.consumed waiting (executed _ _ _ rfl _ (by rw [waiting]; rfl)) stepped

/-- When the taxi accepts the connection, nothing has been counted. -/
theorem Counting.of_connect {taxi : EcDe} {requests : List Message} {central : System}
    {start : Countdown} (accepted : connect taxi requests central = some start) :
    start.Counting := by
  obtain ⟨⟨after, acts⟩, _, same⟩ := Option.bind_eq_some_iff.mp accepted
  cases same
  exact ⟨EcSe.start_natural, EcSe.start_foretold, EcSe.regular_nil, List.nil_prefix, fun _ => rfl⟩

/-- A taxi which a sensor joins reports: its `TAXI_READY` will find it with nothing left to wait. -/
theorem Reporting.of_connect {taxi : EcDe} {requests : List Message} {central : System}
    {start : Countdown} {ready : Bool} (accepted : connect taxi requests central = some start)
    (quiet : ∀ message ∈ requests, message.settles taxi.id = false)
    (waitless : central.db.taxiColumn TaxiRow.waiting taxi.id = some (0, ready)) :
    start.Reporting taxi.session taxi.id := by
  obtain ⟨⟨after, acts⟩, turned, same⟩ := Option.bind_eq_some_iff.mp accepted
  cases same
  cases EcDe.turned_of_turn turned
  refine ⟨⟨rfl, rfl, ?_⟩, fun message member settles => ?_, fun _ => ?_, fun _ => ?_⟩
  · rintro message ⟨⟩
    exact ⟨rfl, rfl⟩
  · rcases List.mem_append.mp member with before | own
    · rw [quiet message before] at settles
      cases settles
    · obtain rfl := List.mem_singleton.mp own
      rfl
  · exact intOf_new
  · rw [settling, waitless, Option.map_some, Message.settleAll_append,
      Message.settleAll_of_quiet quiet]
    simp [Network.requestsOf, Message.settleAll, Message.settle, EcDe.message, Message.request,
      latest, reported]

/-- No message which is still to be consumed settles how long the taxi waits. -/
def Processed (countdown : Countdown) (taxi : TaxiId) : Prop :=
  ∀ message ∈ countdown.requests, message.settles taxi = false

/-- The row of the taxi agrees with the waiting time which the taxi received last. -/
def Settled (countdown : Countdown) (taxi : TaxiId) : Prop :=
  ∃ row ∈ countdown.central.db.taxis.lookup taxi,
    row.waitTime.toInt = max (countdown.latest.toInt - 1) 0 ∧
      row.ready = decide (countdown.latest.toInt ≤ 1)

instance (countdown : Countdown) (taxi : TaxiId) : Decidable (countdown.Processed taxi) :=
  inferInstanceAs (Decidable (∀ message ∈ countdown.requests, message.settles taxi = false))

instance (countdown : Countdown) (taxi : TaxiId) : Decidable (countdown.Settled taxi) :=
  inferInstanceAs (Decidable (∃ row ∈ countdown.central.db.taxis.lookup taxi,
    row.waitTime.toInt = max (countdown.latest.toInt - 1) 0 ∧
      row.ready = decide (countdown.latest.toInt ≤ 1)))

/-- Where everything is consumed, the row says what it was to say. -/
theorem Reporting.settled (reporting : countdown.Reporting session taxi)
    (attends : countdown.connected = true) (processed : countdown.Processed taxi) :
    countdown.Settled taxi := by
  obtain ⟨columns, stored, settled⟩ := Option.map_eq_some_iff.mp (reporting.settles attends)
  rw [Message.settleAll_of_quiet processed] at settled
  obtain ⟨row, found, rfl⟩ := Option.map_eq_some_iff.mp stored
  obtain ⟨waits, ready⟩ := Prod.ext_iff.mp settled
  refine ⟨row, found, ?_, ready⟩
  change row.waitTime = if 0 < countdown.latest then countdown.latest - 1 else 0 at waits
  rw [waits]
  by_cases positive : 0 < countdown.latest
  · have above : 0 < countdown.latest.toInt := Int32.lt_iff_toInt_lt.mp positive
    rw [if_pos positive, EcSe.toInt_sub_one above]
    omega
  · have below : ¬ 0 < countdown.latest.toInt := fun above =>
      positive (Int32.lt_iff_toInt_lt.mpr above)
    rw [if_neg positive, Int32.toInt_zero]
    omega

end Countdown

/-- A step of the connection. -/
abbrev CountdownStep := Transition Countdown Countdown.Event

namespace CountdownStep

/-- Where a step consumes a message which settles how long the taxi waits, its query is executed. -/
def Executed (taxi : TaxiId) (taken : CountdownStep) : Prop :=
  match taken.event with
  | .request _ outages _ => ∀ message ∈ taken.before.requests.head?,
      message.settles taxi = true → outages.head? ≠ some true
  | _ => True

instance (taxi : TaxiId) (taken : CountdownStep) : Decidable (taken.Executed taxi) := by
  unfold Executed
  split <;> infer_instance

/-- When the taxi receives a positive waiting time, it stays where it is and reports one less. -/
def Waits (taken : CountdownStep) : Prop :=
  ∀ again waitTime, taken.event = .exchange again →
    taken.after.received = taken.before.received ++ [waitTime] → 0 < waitTime.toInt →
      taken.after.taxi.pos = taken.before.taxi.pos ∧
        ∃ message, taken.after.requests = taken.before.requests ++ [message] ∧
          message.subject = .request .taxiUpdateWaitTime ∧ message.intFromData = waitTime - 1

variable {session : Uuid} {taken : CountdownStep}

/-- Every step of the machine waits. -/
theorem waits_of_step
    (stepped : (Countdown.machine session).step taken.before taken.event = some taken.after) :
    taken.Waits := by
  intro again waitTime exchanges received positive
  obtain ⟨before, event, after⟩ := taken
  change Countdown.step session before event = some after at stepped
  cases exchanges
  cases Countdown.stepped_of_step stepped with
  | exchange heard turned =>
      cases heard with
      | first unanswered => simp [Countdown.answer, Countdown.turned] at received
      | read answered waiting =>
          have value := List.singleton_inj.mp (List.append_cancel_left received)
          rw [value] at turned
          obtain ⟨message, _, stays, only⟩ :=
            EcDe.tick_of_pos (Int32.lt_iff_toInt_lt.mpr positive) turned
          refine ⟨stays, _, congrArg _ (congrArg _ only), ?_, ?_⟩
          · simp
          · simp

end CountdownStep

/-- In every run of a connection the counter of the sensor is never negative, the waiting times
which the taxi receives drop by one down to zero unless the operator sets the counter in between,
and the taxi takes no step when it receives a positive one. Where the queries for its messages are
executed, and no such message is still to be consumed, its row agrees with what it received last. -/
theorem inconvenience_counts_down (session : Uuid) (taxi : EcDe) (requests : List Message)
    (central : System) (start : Countdown) (ready : Bool) (events : List Countdown.Event)
    (accepted : Countdown.connect taxi requests central = some start)
    (admitted : taxi.session = session)
    (quiet : ∀ message ∈ requests, message.settles taxi.id = false)
    (waitless : central.db.taxiColumn TaxiRow.waiting taxi.id = some (0, ready)) :
    (∀ taken ∈ (Countdown.machine session).run start events,
      0 ≤ taken.after.sensor.counter.toInt ∧ taken.after.Drops ∧ CountdownStep.Waits taken) ∧
    ((∀ taken ∈ (Countdown.machine session).run start events,
        CountdownStep.Executed taxi.id taken) →
      ∀ taken ∈ (Countdown.machine session).run start events,
        taken.after.connected = true → taken.after.Processed taxi.id →
          taken.after.Settled taxi.id) := by
  have counting := Countdown.Counting.of_connect accepted
  have reporting := Countdown.Reporting.of_connect accepted quiet waitless
  rw [admitted] at reporting
  constructor
  · intro taken member
    have counted := (Machine.run_always Countdown.Counting
      (fun transition stepped before => before.step (Countdown.stepped_of_step stepped))
      counting taken member).2
    exact ⟨counted.natural.counter, counted.drops,
      CountdownStep.waits_of_step (Machine.run_step member)⟩
  · intro executed taken member attends processed
    have kept := (@Machine.run_invariant _ _ _
      (fun countdown => countdown.Counting ∧ countdown.Reporting session taxi.id)
      (CountdownStep.Executed taxi.id) (fun transition stepped executed before => ?_) _ _
      ⟨counting, reporting⟩ executed taken member).2
    · exact kept.2.settled attends processed
    · have stepped := Countdown.stepped_of_step stepped
      refine ⟨before.1.step stepped, before.2.step before.1 ?_ stepped⟩
      intro now outages beyond consumes
      simpa [CountdownStep.Executed, consumes] using executed

/-! ### A minor inconvenience -/

namespace Town

/-- Central after a taxi was added. -/
def attended : System :=
  ((System.machine session).exec (System.start locations) (join 1)).getD (System.start locations)

/-- The taxi is on its way, and waits for a sensor. -/
def driver : EcDe := { EcDe.start 1 session with dest := ⟨3, 4⟩, sensor := .accepting }

/-- The sensor sends its first count, and the taxi receives it. -/
def firstCount : List Countdown.Event :=
  [.exchange true, .hear, .sensor .work, .sensor .work, .sensor .work, .exchange true]

/-- Between the look at the counter and the write the operator selects a minor inconvenience, and
the taxi receives first what was read before and then what is left of the selection. -/
def minorInconvenience : List Countdown.Event :=
  [.exchange true, .hear, .sensor .work, .sensor .work,
    .sensor (.press (.choose .minorInconvenience)), .sensor .choose,
    .sensor .work, .sensor .work, .sensor .work, .exchange true,
    .hear, .sensor .work, .sensor .work, .sensor .work, .exchange true]

/-- Central consumes the next request, and its queries meet these outages. -/
def consumed (outages : List Bool) : Countdown.Event := .request 0 outages Link.beyond

end Town

/-- The operator selects a minor inconvenience, and Central has stored what the taxi received
last. -/
theorem inconvenience_counts_down_minor :
    ∃ start ∈ Countdown.connect Town.driver [] Town.attended,
      ∃ taken ∈ (Countdown.machine Town.session).run start
          (Town.minorInconvenience ++ List.replicate 4 (Town.consumed [])),
        taken.after.received = [0, 4] ∧ 0 ≤ taken.after.sensor.counter.toInt ∧
          taken.after.Drops ∧ CountdownStep.Waits taken ∧ taken.after.Settled 1 := by
  have found : (Countdown.connect Town.driver [] Town.attended).any (fun start =>
      let run := (Countdown.machine Town.session).run start
        (Town.minorInconvenience ++ List.replicate 4 (Town.consumed []))
      decide (∀ taken ∈ run, CountdownStep.Executed 1 taken) && run.any fun taken =>
        decide (taken.after.received = [0, 4]) && taken.after.connected &&
          decide (taken.after.Processed 1)) = true := by
    decide +kernel
  obtain ⟨start, accepted, found⟩ := (Option.any_eq_true _ _).mp found
  simp only [Bool.and_eq_true, List.any_eq_true, decide_eq_true_eq] at found
  obtain ⟨executed, taken, member, ⟨received, attends⟩, processed⟩ := found
  have waitless : Town.attended.db.taxiColumn TaxiRow.waiting 1 = some (0, false) := by
    decide +kernel
  obtain ⟨always, settled⟩ := inconvenience_counts_down Town.session Town.driver [] Town.attended
    start false _ accepted rfl (by simp) waitless
  obtain ⟨counter, drops, waits⟩ := always taken member
  exact ⟨start, accepted, taken, member, received, counter, drops, waits,
    settled executed taken member attends processed⟩

/-- The row does not agree with what the taxi received while its `TAXI_READY` is still to be
consumed, although no `TAXI_UPDATE_WAIT_TIME` is, and neither where the query of one failed. -/
theorem row_lags_behind :
    (¬ ∀ (session : Uuid) (taxi : EcDe) (requests : List Message) (central : System)
        (start : Countdown) (ready : Bool) (events : List Countdown.Event),
      Countdown.connect taxi requests central = some start → taxi.session = session →
      (∀ message ∈ requests, message.settles taxi.id = false) →
      central.db.taxiColumn TaxiRow.waiting taxi.id = some (0, ready) →
      (∀ taken ∈ (Countdown.machine session).run start events,
        CountdownStep.Executed taxi.id taken) →
      ∀ taken ∈ (Countdown.machine session).run start events,
        taken.after.connected = true → taken.after.received ≠ [] →
        (∀ message ∈ taken.after.requests, message.subject ≠ .request .taxiUpdateWaitTime) →
          taken.after.Settled taxi.id) ∧
    ¬ ∀ (session : Uuid) (taxi : EcDe) (requests : List Message) (central : System)
        (start : Countdown) (ready : Bool) (events : List Countdown.Event),
      Countdown.connect taxi requests central = some start → taxi.session = session →
      (∀ message ∈ requests, message.settles taxi.id = false) →
      central.db.taxiColumn TaxiRow.waiting taxi.id = some (0, ready) →
      ∀ taken ∈ (Countdown.machine session).run start events,
        taken.after.connected = true → taken.after.received ≠ [] →
        taken.after.Processed taxi.id → taken.after.Settled taxi.id := by
  have waitless : Town.attended.db.taxiColumn TaxiRow.waiting 1 = some (0, false) := by
    decide +kernel
  constructor
  · intro claimed
    have found : (Countdown.connect Town.driver [] Town.attended).any (fun start =>
        let run := (Countdown.machine Town.session).run start Town.firstCount
        decide (∀ taken ∈ run, CountdownStep.Executed 1 taken) && run.any fun taken =>
          taken.after.connected && decide (taken.after.received ≠ []) &&
            decide (∀ message ∈ taken.after.requests,
              message.subject ≠ .request .taxiUpdateWaitTime) &&
            decide (¬ taken.after.Settled 1)) = true := by
      decide +kernel
    obtain ⟨start, accepted, found⟩ := (Option.any_eq_true _ _).mp found
    simp only [Bool.and_eq_true, List.any_eq_true, decide_eq_true_eq] at found
    obtain ⟨executed, taken, member, ⟨⟨attends, received⟩, consumed⟩, behind⟩ := found
    exact behind (claimed Town.session Town.driver [] Town.attended start false _ accepted rfl
      (by simp) waitless executed taken member attends received consumed)
  · intro claimed
    have found : (Countdown.connect Town.driver [] Town.attended).any (fun start =>
        ((Countdown.machine Town.session).run start (Town.minorInconvenience ++
            List.replicate 3 (Town.consumed []) ++ [Town.consumed [true]])).any fun taken =>
          taken.after.connected && decide (taken.after.received ≠ []) &&
            decide (taken.after.Processed 1) && decide (¬ taken.after.Settled 1)) = true := by
      decide +kernel
    obtain ⟨start, accepted, found⟩ := (Option.any_eq_true _ _).mp found
    simp only [Bool.and_eq_true, List.any_eq_true, decide_eq_true_eq] at found
    obtain ⟨taken, member, ⟨⟨attends, received⟩, processed⟩, behind⟩ := found
    exact behind (claimed Town.session Town.driver [] Town.attended start false _ accepted rfl
      (by simp) waitless taken member attends received processed)

end EasyCab
