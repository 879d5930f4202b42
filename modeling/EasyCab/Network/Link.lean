import EasyCab.De.Turns
import EasyCab.Network.Network

/-!
# Central and one taxi

Central with `checkStrays` and its authentication server, and the program of one taxi, which may
crash and be started again. Requests are consumed in the order in which they were put on
`requests`. The taxi consumes `responses` from the offset which its group has committed, so what
it consumed since is delivered to a program which is started again.

`epoch` counts the registrations of the taxi, and every message is marked with their number at the
time when it, or the order which it answers, was caused. The marks are for the statements only.
-/

namespace EasyCab

open Library

/-- What `deserialize` finds past the end of a buffer. -/
abbrev Beyond := Uuid × Sized maxDataSize

/-- A message as its consumer reads it: where its session is short, the session and the data are
whatever follows. -/
def Message.read (message : Message) (beyond : Beyond) : FullMessage :=
  if full : message.session.length = uuidLength then ⟨message, full⟩
  else ⟨{ message with session := beyond.1.1, data := beyond.2 }, beyond.1.2⟩

/-- A message on a topic. `own` says that the taxi put it there. -/
structure Letter where
  message : Message
  epoch : Nat
  own : Bool

/-- Central, the topics and the taxi. -/
structure Link where
  db : Db
  response : Message
  /-- The orders which `checkStrays` has still to send. -/
  strays : List Letter
  /-- What Central has still to consume. -/
  requests : List Letter
  /-- All that Central has put on `responses`. -/
  responses : List Letter
  /-- The offset which the group of the taxi has committed. -/
  committed : Nat
  /-- The offset of what the taxi consumes next. -/
  position : Nat
  epoch : Nat
  /-- A registration of the taxi was acknowledged, and no program has started on it. -/
  acknowledged : Bool
  /-- The registration on which the program has started. -/
  since : Nat
  taxi : Option EcDe

namespace Link

/-- What can happen next. -/
inductive Event where
  /-- `checkStrays` runs its query. -/
  | select (now : Timestamp) (outages : List Bool)
  /-- `checkStrays` sends the next order. -/
  | order
  /-- Another component puts a message on `requests`. -/
  | post (message : Message)
  /-- The Kafka server consumes the next request. -/
  | request (now : Timestamp) (outages : List Bool) (beyond : Beyond)
  /-- The authentication server runs the query of `addTaxi`. -/
  | register (now : Timestamp) (taxiId : TaxiId) (reconnect : Bool) (outages : List Bool)
  /-- The program of the taxi starts. -/
  | start
  /-- The taxi consumes the next response. -/
  | hear (beyond : Beyond)
  /-- The taxi does something else. -/
  | turn (event : EcDe.Event)
  /-- The offset of the taxi is committed. -/
  | commit
  /-- The program of the taxi ends. -/
  | crash

/-- The message reports where the taxi is. Only the taxi sends such messages. -/
def reportsFor (taxi : TaxiId) (message : Message) : Bool :=
  message.taxiId = taxi &&
    (message.subject = .request .taxiMove || message.subject = .request .taxiDestinationReached)

/-- The program of the taxi took a turn. -/
def turned (link : Link) (next : EcDe) (acts : List EcDe.Act) : Link :=
  { link with
    taxi := some next
    requests := link.requests ++
      (Network.requestsOf acts).map fun message => ⟨message.1, link.epoch, true⟩ }

/-- One step. The request of which Central dies ends the run. -/
def step (session : Uuid) (taxiId : TaxiId) (link : Link) : Event → Option Link
  | .select now outages =>
      if link.strays = [] then
        some { link with
          strays := ((KafkaServer.checkStrays now outages link.db).acts ()).map
            fun message => ⟨message, link.epoch, false⟩ }
      else none
  | .order =>
      match link.strays with
      | [] => none
      | letter :: strays => some { link with strays := strays, requests := link.requests ++ [letter] }
  | .post message =>
      if reportsFor taxiId message then none
      else some { link with requests := link.requests ++ [⟨message, link.epoch, false⟩] }
  | .request now outages beyond =>
      match link.requests with
      | [] => none
      | letter :: requests =>
          match KafkaServer.process now session (letter.message.read beyond).1
            ⟨link.db, outages, link.response⟩ with
          | .error _ => none
          | .ok outcome =>
              some { link with
                db := outcome.state.db
                response := outcome.state.response
                requests := requests
                responses := link.responses ++
                  (Network.responsesOf outcome.acts).map fun message =>
                    ⟨message, letter.epoch, false⟩ }
  | .register now other reconnect outages =>
      let answer := AuthServer.addTaxi now session other reconnect outages link.db
      let epoch := if other = taxiId ∧ answer.value.isSome then link.epoch + 1 else link.epoch
      some { link with
        db := answer.db
        requests := link.requests ++ answer.value.toList.map fun message => ⟨message, epoch, false⟩
        epoch := epoch
        acknowledged := link.acknowledged || (other = taxiId && answer.value.isSome) }
  | .start =>
      if link.taxi.isNone && link.acknowledged then
        some { link with
          taxi := some (.start taxiId session)
          since := link.epoch
          position := link.committed
          acknowledged := false }
      else none
  | .hear beyond => do
      let taxi ← link.taxi
      let letter ← link.responses[link.position]?
      let (next, acts) ← taxi.turn (.consume (some (letter.message.read beyond)))
      return { link with position := link.position + 1 }.turned next acts
  | .turn event =>
      match event with
      | .consume (some _) => none
      | event => do
          let taxi ← link.taxi
          let (next, acts) ← taxi.turn event
          return link.turned next acts
  | .commit => if link.taxi.isSome then some { link with committed := link.position } else none
  | .crash => some { link with taxi := none }

/-- Central and the taxi as a machine. -/
def machine (session : Uuid) (taxiId : TaxiId) : Machine Link Event := ⟨step session taxiId⟩

/-- Central has started after `Reset_DB`, and the taxi has not. -/
def initial (locations : Table LocationRow.id) : Link where
  db := .initial locations
  response := .new
  strays := []
  requests := []
  responses := []
  committed := 0
  position := 0
  epoch := 0
  acknowledged := false
  since := 0
  taxi := none

/-- Past the end of a buffer there is a session. -/
def beyond : Beyond := (Town.session, Sized.fill maxDataSize 0)

end Link

namespace Link

/-- What a step does, event by event. -/
inductive Stepped (session : Uuid) (taxiId : TaxiId) (link : Link) : Event → Link → Prop where
  | select (now : Timestamp) (outages : List Bool) : Stepped session taxiId link (.select now outages)
      { link with
        strays := ((KafkaServer.checkStrays now outages link.db).acts ()).map
          fun message => ⟨message, link.epoch, false⟩ }
  | order {letter : Letter} {strays : List Letter} (waiting : link.strays = letter :: strays) :
      Stepped session taxiId link .order
        { link with strays := strays, requests := link.requests ++ [letter] }
  | post {message : Message} (other : reportsFor taxiId message = false) :
      Stepped session taxiId link (.post message)
        { link with requests := link.requests ++ [⟨message, link.epoch, false⟩] }
  | request {now : Timestamp} {outages : List Bool} {beyond : Beyond} {letter : Letter}
      {requests : List Letter} {outcome : Outcome KafkaServer Act Unit}
      (waiting : link.requests = letter :: requests)
      (ran : KafkaServer.process now session (letter.message.read beyond).1
        ⟨link.db, outages, link.response⟩ = .ok outcome) :
      Stepped session taxiId link (.request now outages beyond)
        { link with
          db := outcome.state.db
          response := outcome.state.response
          requests := requests
          responses := link.responses ++ (Network.responsesOf outcome.acts).map fun message =>
            ⟨message, letter.epoch, false⟩ }
  | register (now : Timestamp) (other : TaxiId) (reconnect : Bool) (outages : List Bool)
      {answer : Answer (Option Message)} {epoch : Nat}
      (ran : AuthServer.addTaxi now session other reconnect outages link.db = answer)
      (counts : epoch = if other = taxiId ∧ answer.value.isSome then link.epoch + 1 else link.epoch) :
      Stepped session taxiId link (.register now other reconnect outages)
        { link with
          db := answer.db
          requests := link.requests ++ answer.value.toList.map fun message =>
            ⟨message, epoch, false⟩
          epoch := epoch
          acknowledged := link.acknowledged || (other = taxiId && answer.value.isSome) }
  | start (stopped : link.taxi = none) (acknowledged : link.acknowledged = true) :
      Stepped session taxiId link .start
        { link with
          taxi := some (.start taxiId session)
          since := link.epoch
          position := link.committed
          acknowledged := false }
  | hear {beyond : Beyond} {taxi after : EcDe} {letter : Letter} {acts : List EcDe.Act}
      (running : link.taxi = some taxi) (waiting : link.responses[link.position]? = some letter)
      (turned : taxi.turn (.consume (some (letter.message.read beyond))) = some (after, acts)) :
      Stepped session taxiId link (.hear beyond)
        ({ link with position := link.position + 1 }.turned after acts)
  | turn {event : EcDe.Event} {taxi after : EcDe} {acts : List EcDe.Act}
      (deaf : ∀ message, event ≠ .consume (some message)) (running : link.taxi = some taxi)
      (turned : taxi.turn event = some (after, acts)) :
      Stepped session taxiId link (.turn event) (link.turned after acts)
  | commit {taxi : EcDe} (running : link.taxi = some taxi) :
      Stepped session taxiId link .commit { link with committed := link.position }
  | crash : Stepped session taxiId link .crash { link with taxi := none }

/-- A step of the machine is one of those listed. -/
theorem stepped_of_step {session : Uuid} {taxiId : TaxiId} {link next : Link} {event : Event}
    (stepped : link.step session taxiId event = some next) :
    Stepped session taxiId link event next := by
  cases event with
  | select now outages =>
      simp only [step, Option.ite_none_right_eq_some, Option.some.injEq] at stepped
      obtain ⟨_, rfl⟩ := stepped
      exact .select now outages
  | order =>
      simp only [step] at stepped
      split at stepped
      · cases stepped
      · next letter strays waiting =>
        cases stepped
        exact .order waiting
  | post message =>
      simp only [step, Option.ite_none_left_eq_some, Option.some.injEq] at stepped
      obtain ⟨other, rfl⟩ := stepped
      exact .post (by simpa using other)
  | request now outages beyond =>
      simp only [step] at stepped
      split at stepped
      · cases stepped
      · next letter requests waiting =>
        split at stepped
        · cases stepped
        · next outcome ran =>
          cases stepped
          exact .request waiting ran
  | register now other reconnect outages =>
      simp only [step, Option.some.injEq] at stepped
      subst stepped
      exact .register now other reconnect outages rfl rfl
  | start =>
      simp only [step, Bool.and_eq_true, Option.isNone_iff_eq_none, Option.ite_none_right_eq_some,
        Option.some.injEq] at stepped
      obtain ⟨⟨stopped, acknowledged⟩, rfl⟩ := stepped
      exact .start stopped acknowledged
  | hear beyond =>
      simp only [step, Option.bind_eq_bind, Option.bind_eq_some_iff, Option.pure_def,
        Option.some.injEq] at stepped
      obtain ⟨taxi, running, letter, waiting, ⟨after, acts⟩, turned, rfl⟩ := stepped
      exact .hear running waiting turned
  | turn event =>
      simp only [step] at stepped
      split at stepped
      · cases stepped
      · next deaf =>
        simp only [Option.bind_eq_bind, Option.bind_eq_some_iff, Option.pure_def,
          Option.some.injEq] at stepped
        obtain ⟨taxi, running, ⟨after, acts⟩, turned, rfl⟩ := stepped
        exact .turn deaf running turned
  | commit =>
      simp only [step, Option.ite_none_right_eq_some, Option.some.injEq] at stepped
      obtain ⟨running, rfl⟩ := stepped
      obtain ⟨taxi, running⟩ := Option.isSome_iff_exists.mp running
      exact .commit running
  | crash =>
      simp only [step, Option.some.injEq] at stepped
      subst stepped
      exact .crash

end Link

/-- A step of Central and the taxi. -/
abbrev LinkStep := Transition Link Link.Event

/-! ### What a consumer reads -/

namespace Message

variable (message : Message) (beyond : Beyond)

@[simp] theorem read_subject : (message.read beyond).1.subject = message.subject := by
  unfold read
  split <;> rfl

@[simp] theorem read_id : (message.read beyond).1.id = message.id := by
  unfold read
  split <;> rfl

@[simp] theorem read_taxiId : (message.read beyond).1.taxiId = message.taxiId := by
  unfold read
  split <;> rfl

@[simp] theorem read_coord : (message.read beyond).1.coord = message.coord := by
  unfold read
  split <;> rfl

/-- A message with a full session is read as it is. -/
theorem read_of_full {message : Message} (full : message.session.length = uuidLength) :
    (message.read beyond).1 = message := by
  rw [read, dif_pos full]

end Message

/-! ### What the taxi signs -/

/-- The message names a taxi and has its session. -/
structure Message.Signed (message : Message) (taxiId : TaxiId) (session : Uuid) : Prop where
  named : message.taxiId = taxiId
  admitted : message.session = session.1

namespace EcDe

/-- The program is that of a taxi and has a session, and what it sends to the sensor thread is
signed with both. -/
structure Signs (taxi : EcDe) (taxiId : TaxiId) (session : Uuid) : Prop where
  named : taxi.id = taxiId
  admitted : taxi.session = session
  attends : ∀ message, taxi.sensor = .attending message → message.1.Signed taxiId session

variable {taxi next : EcDe} {taxiId : TaxiId} {session : Uuid} {acts : List Act} {event : Event}

theorem Signs.start : (EcDe.start taxiId session).Signs taxiId session :=
  ⟨rfl, rfl, by rintro _ ⟨⟩⟩

/-- What the taxi sends of itself is signed. -/
theorem message_signed (subject : SubjRequest) :
    ∀ sent ∈ Network.requestsOf [.produce (taxi.message subject)],
      sent.1.Signed taxi.id taxi.session := by
  intro sent member
  obtain rfl := List.mem_singleton.mp member
  exact ⟨rfl, rfl⟩

/-- What the taxi sends back for a consumed response is signed. -/
theorem Signs.obeyed (signs : taxi.Signs taxiId session) {message : FullMessage}
    {subject : SubjResponse} (ordered : taxi.order? message = some subject)
    (obeyed : taxi.Obeyed message subject next acts) :
    next.Signs taxiId session ∧
      ∀ sent ∈ Network.requestsOf acts, sent.1.Signed taxiId session := by
  obtain ⟨rfl, rfl, attends⟩ := signs
  cases obeyed with
  | arrived there =>
      refine ⟨⟨rfl, rfl, attends⟩, fun sent member => ?_⟩
      obtain rfl := List.mem_singleton.mp member
      exact ⟨(order?_eq_some_iff.mp ordered).2, rfl⟩
  | _ => exact ⟨⟨rfl, rfl, attends⟩, List.forall_mem_nil _⟩

/-- What the taxi sends on a tick is signed, and so is what it will repeat on the next one. -/
theorem Signs.ticked (signs : taxi.Signs taxiId session) {message : FullMessage}
    {waitTime : Int32} {sent : Option FullMessage} {moving again : Bool}
    (attending : taxi.sensor = .attending message)
    (drove : taxi.Driven message waitTime next sent) :
    Signs { next with sensor := if again then .attending (sent.getD message) else .leaving }
        taxiId session ∧
      ∀ message ∈ Network.requestsOf (sent.toList.map .produce ++ [.answer moving]),
        message.1.Signed taxiId session := by
  have signed : message.1.Signed taxiId session := signs.attends message attending
  obtain ⟨rfl, rfl, attends⟩ := signs
  have kept : next.id = taxi.id ∧ next.session = taxi.session ∧
      ∀ message ∈ sent, message.1.Signed taxi.id taxi.session := by
    cases drove with
    | rests held => exact ⟨rfl, rfl, by simp⟩
    | waits waiting | moves rolls apart allowed move =>
        refine ⟨rfl, rfl, ?_⟩
        rintro other ⟨⟩
        exact ⟨signed.named, signed.admitted⟩
  obtain ⟨named, admitted, signedSent⟩ := kept
  refine ⟨⟨named, admitted, fun other attends => ?_⟩, fun other member => signedSent other ?_⟩
  · simp only at attends
    split at attends
    · cases attends
      cases sent with
      | none => exact signed
      | some message => exact signedSent message rfl
    · cases attends
  · cases sent with
    | none => cases member
    | some message =>
        obtain rfl := List.mem_singleton.mp member
        rfl

/-- Whatever the taxi does, it keeps its identifier and its session and signs with them. -/
theorem Signs.turn (signs : taxi.Signs taxiId session)
    (turned : taxi.turn event = some (next, acts)) :
    next.Signs taxiId session ∧
      ∀ sent ∈ Network.requestsOf acts, sent.1.Signed taxiId session := by
  cases turned_of_turn turned with
  | heard ordered obeyed =>
      obtain ⟨signs, signed⟩ := signs.obeyed ordered obeyed
      exact ⟨⟨signs.named, signs.admitted, signs.attends⟩, signed⟩
  | ticked attending drove => exact signs.ticked attending drove
  | unheard | quit =>
      exact ⟨⟨signs.named, signs.admitted, signs.attends⟩, List.forall_mem_nil _⟩
  | accepting =>
      exact ⟨⟨signs.named, signs.admitted, by rintro _ ⟨⟩⟩, List.forall_mem_nil _⟩
  | ended | left =>
      obtain ⟨rfl, rfl, _⟩ := signs
      exact ⟨⟨rfl, rfl, by rintro _ ⟨⟩⟩, message_signed _⟩
  | connected =>
      obtain ⟨rfl, rfl, _⟩ := signs
      refine ⟨⟨rfl, rfl, ?_⟩, message_signed _⟩
      rintro message ⟨⟩
      exact ⟨rfl, rfl⟩
  | pinged =>
      obtain ⟨rfl, rfl, attends⟩ := signs
      exact ⟨⟨rfl, rfl, attends⟩, message_signed _⟩

end EcDe

namespace Link

/-- The program of the taxi signs as the taxi. -/
def Signs (link : Link) (session : Uuid) (taxiId : TaxiId) : Prop :=
  ∀ taxi ∈ link.taxi, taxi.Signs taxiId session

/-- Every step leaves the program of the taxi signing as the taxi. -/
theorem Signs.step {session : Uuid} {taxiId : TaxiId} {link next : Link} {event : Event}
    (signs : link.Signs session taxiId) (stepped : Stepped session taxiId link event next) :
    next.Signs session taxiId := by
  intro taxi present
  cases stepped with
  | start =>
      obtain rfl := Option.some.inj present
      exact .start
  | hear running waiting turned | turn deaf running turned =>
      obtain rfl := Option.some.inj present
      exact ((signs _ running).turn turned).1
  | crash => cases present
  | _ => exact signs taxi present

end Link

end EasyCab
