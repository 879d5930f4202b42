import EasyCab.Central.Departure
import EasyCab.Central.Leftovers
import EasyCab.De.Turns

/-!
# What receivers make of responses

A taxi and a customer which consume what Central puts on `responses`, beside a taxi and a customer
which consume what a Central puts there that resets its response object before each request. They
do the same. A customer which has not yet been accepted looks at the session of every response, so
it is to read them in their order, from the first one on.
-/

namespace EasyCab

open Library

/-! ### What is read of a message -/

namespace Message

/-- `read` is what `deserialize` makes of the bytes of a message and of what lies behind them. -/
def Delivers (message : Message) (read : FullMessage) : Prop :=
  ∃ padding beyond, deserialize (message.serialize padding ++ beyond) = some read.1

/-- Where the session is short, the bytes of the data are taken for it, and then what follows. -/
theorem deserialize_serialize_append {message : Message} {padding : Sized 3} {beyond : List UInt8} :
    deserialize (message.serialize padding ++ beyond) =
      (readBytes uuidLength (message.session ++ (message.data.1 ++ beyond))).bind fun session =>
        (readBytes maxDataSize session.2).bind fun data =>
          some { message with session := session.1.1, data := data.1 } := by
  let rest := message.session ++ (message.data.1 ++ beyond)
  have subject := @readBytes_append 8 (message.subject.bytes padding)
    (message.id :: (littleEndian 2 message.taxiId.toUInt16.toNat ++
      (message.coord.bytes ++ rest))) (by simp)
  have id := @readBytes_append 1 [message.id] (littleEndian 2 message.taxiId.toUInt16.toNat ++
    (message.coord.bytes ++ rest)) rfl
  have taxiId := @readBytes_append 2 (littleEndian 2 message.taxiId.toUInt16.toNat)
    (message.coord.bytes ++ rest) (by simp)
  have coord := @readBytes_append 8 message.coord.bytes rest (by simp)
  have short : UInt16.ofNat (ofLittleEndian (littleEndian 2 message.taxiId.toUInt16.toNat)) =
      message.taxiId.toUInt16 := by
    rw [ofLittleEndian_littleEndian (by have := message.taxiId.toUInt16.toNat_lt; omega)]
    exact UInt16.ofNat_toNat
  have bytes : message.serialize padding ++ beyond =
      message.subject.bytes padding ++ (message.id :: (littleEndian 2 message.taxiId.toUInt16.toNat ++
        (message.coord.bytes ++ rest))) := by
    simp [serialize, rest]
  rw [List.singleton_append] at id
  rw [bytes]
  simp only [deserialize, subject, id, taxiId, coord, Option.bind_eq_bind, Option.bind_some,
    Subject.ofBytes?_bytes, Coordinate.ofBytes_bytes, short, Int16.toInt16_toUInt16,
    List.headD_cons]
  rfl

variable {message : Message} {read : FullMessage}

/-- The fields before the session are read as they are. -/
theorem Delivers.fields (delivers : message.Delivers read) : read.1.subject = message.subject ∧
    read.1.id = message.id ∧ read.1.taxiId = message.taxiId ∧ read.1.coord = message.coord := by
  obtain ⟨padding, beyond, decoded⟩ := delivers
  rw [deserialize_serialize_append] at decoded
  obtain ⟨session, _, continued⟩ := Option.bind_eq_some_iff.mp decoded
  obtain ⟨data, _, same⟩ := Option.bind_eq_some_iff.mp continued
  rw [← Option.some.inj same]
  exact ⟨rfl, rfl, rfl, rfl⟩

/-- A message with a full session is read as it is. -/
theorem Delivers.eq_of_full (delivers : message.Delivers read)
    (full : message.session.length = uuidLength) : read.1 = message := by
  obtain ⟨padding, beyond, decoded⟩ := delivers
  rw [deserialize_serialize_append, readBytes_append full, Option.bind_some,
    readBytes_append message.data.2, Option.bind_some] at decoded
  exact (Option.some.inj decoded).symm

/-- No session that is a text is read where it does not stand. -/
theorem Delivers.session_ne {uuid : Uuid} (delivers : message.Delivers read) (whole : message.Whole)
    (other : message.session ≠ uuid.1) (text : uuid ≠ Sized.fill uuidLength 0) :
    read.1.session ≠ uuid.1 := by
  rcases whole with full | ⟨empty, blank⟩
  · rwa [delivers.eq_of_full full]
  · obtain ⟨padding, beyond, decoded⟩ := delivers
    have bytes : message.session ++ (message.data.1 ++ beyond) =
        (Sized.fill uuidLength 0).1 ++ (List.replicate 4 0 ++ beyond) := by
      rw [empty, blank]
      rfl
    rw [deserialize_serialize_append, bytes, readBytes_append (Sized.fill uuidLength 0).2,
      Option.bind_some] at decoded
    obtain ⟨data, _, same⟩ := Option.bind_eq_some_iff.mp decoded
    rw [← Option.some.inj same]
    exact fun holds => text (Sized.ext holds.symm)

/-! ### What is used of a message -/

/-- The subject is always used. -/
@[simp] theorem used_subject : message.used.subject = message.subject := by
  unfold used
  split <;> rfl

/-- What two responses which are used alike have in common. -/
theorem subject_of_used {other : Message} (same : message.used = other.used) :
    message.subject = other.subject := by
  rw [← used_subject, same, used_subject]

/-- Messages at the same place of two logs are used alike where the logs are. -/
theorem used_of_zip {log log' : List Message} (same : log.map used = log'.map used) :
    ∀ place ∈ log.zip log', place.1.used = place.2.used := by
  induction log generalizing log' with
  | nil => simp
  | cons message log inductionHypothesis =>
      cases log' with
      | nil => simp
      | cons message' log' =>
          rw [List.map_cons, List.map_cons, List.cons.injEq] at same
          rw [List.zip_cons_cons, List.forall_mem_cons]
          exact ⟨same.1, inductionHypothesis same.2⟩

/-- What is used of a response to a taxi is the taxi. -/
theorem taxiId_of_used {other : Message} {answer : SubjResponse} (same : message.used = other.used)
    (told : message.subject = .response answer)
    (kind : answer ∈ [.taxiGoTo, .taxiStop, .taxiContinue, .taxiReturnToBase, .taxiDisconnect]) :
    message.taxiId = other.taxiId := by
  have toldToo := (subject_of_used same).symm.trans told
  simp only [List.mem_cons, List.not_mem_nil, or_false] at kind
  rcases kind with rfl | rfl | rfl | rfl | rfl <;> simp_all [used]

theorem coord_of_used {other : Message} (same : message.used = other.used)
    (told : message.subject = .response .taxiGoTo) : message.coord = other.coord := by
  have toldToo := (subject_of_used same).symm.trans told
  simp_all [used]

/-- The subjects of responses which a customer acts on in `askService`. -/
theorem id_of_used {other : Message} {answer : SubjResponse} (same : message.used = other.used)
    (told : message.subject = .response answer)
    (kind : answer ∈ [.customerDisconnect, .customerServiceCompleted, .customerServiceDenied]) :
    message.id = other.id := by
  have toldToo := (subject_of_used same).symm.trans told
  simp only [List.mem_cons, List.not_mem_nil, or_false] at kind
  rcases kind with rfl | rfl | rfl <;> simp_all [used]

/-- The session of a verdict is used, and the data of an acceptance. -/
theorem verdict_of_used {other : Message} (same : message.used = other.used)
    (verdict : message.isVerdict = true) :
    other.isVerdict = true ∧ message.session = other.session ∧
      (message.subject = .response .accept → message.uuidFromData = other.uuidFromData) := by
  have subject := subject_of_used same
  simp only [isVerdict, Bool.or_eq_true, decide_eq_true_eq] at verdict
  rcases verdict with accepts | denies
  · have toldToo := subject.symm.trans accepts
    simp only [used, accepts, toldToo] at same
    have session := congrArg Message.session same
    have data := congrArg uuidFromData same
    rw [uuidFromData_setUuidData, uuidFromData_setUuidData] at data
    exact ⟨by simp [isVerdict, toldToo], session, fun _ => data⟩
  · have toldToo := subject.symm.trans denies
    simp only [used, denies, toldToo] at same
    have session := congrArg Message.session same
    exact ⟨by simp [isVerdict, toldToo], session, fun accepts => by simp [denies] at accepts⟩

/-- Central treats two requests in the same way. -/
def TreatedAlike (first second : Message) : Prop :=
  ∀ (now : Timestamp) (session : Uuid),
    KafkaServer.accepted? session first = KafkaServer.accepted? session second ∧
      ∀ subject ∈ KafkaServer.accepted? session first,
        KafkaServer.handle now session subject first = KafkaServer.handle now session subject second

theorem TreatedAlike.refl (message : Message) : message.TreatedAlike message :=
  fun _ _ => ⟨rfl, fun _ _ => rfl⟩

/-- Central looks neither at the identifier of a customer nor at the data of an arrival. -/
theorem treatedAlike_arrival {first second : Message}
    (arrives : first.subject = .request .taxiDestinationReached)
    (same : second = { first with id := second.id, data := second.data }) :
    first.TreatedAlike second := by
  intro now session
  rw [same]
  refine ⟨rfl, fun subject accepted => ?_⟩
  have told := KafkaServer.subject_of_accepted accepted
  obtain rfl : SubjRequest.taxiDestinationReached = subject := by simpa [arrives] using told
  rfl

end Message

/-! ### Taxis -/

namespace EcDe

/-- The taxi does the same, and Central treats what it sends in the same way. -/
inductive Act.Alike : Act → Act → Prop where
  | produce {first second : FullMessage} (treated : first.1.TreatedAlike second.1) :
      Act.Alike (.produce first) (.produce second)
  | answer (moving : Bool) : Act.Alike (.answer moving) (.answer moving)

theorem Act.Alike.refl (act : Act) : act.Alike act := by
  cases act with
  | produce message => exact .produce (.refl message.1)
  | answer moving => exact .answer moving

/-- What two runs of a taxi come to is the same. -/
def SameRun : Option (EcDe × List Act) → Option (EcDe × List Act) → Prop :=
  Option.Rel fun first second => first.1 = second.1 ∧ List.Forall₂ Act.Alike first.2 second.2

/-- The taxi reads one of two responses, which stand at the same place of two logs, or something
else happens to it. -/
inductive Event.Alike (places : List (Message × Message)) : Event → Event → Prop where
  | other {event : Event} (unheard : ∀ read, event ≠ .consume (some read)) :
      Event.Alike places event event
  | heard {place : Message × Message} {first second : FullMessage} (listed : place ∈ places)
      (delivers : place.1.Delivers first) (deliversToo : place.2.Delivers second) :
      Event.Alike places (.consume (some first)) (.consume (some second))

variable {taxi : EcDe} {first second : FullMessage}

/-- A response which is for no taxi changes nothing. -/
theorem listenKafka_of_unordered (unordered : ∀ subject ∈ taxi.order? first, subject ∉
      [.taxiGoTo, .taxiStop, .taxiContinue, .taxiReturnToBase, .taxiDisconnect]) :
    taxi.listenKafka (some first) = ({ taxi with listening := !taxi.stop }, []) := by
  cases ordered : taxi.order? first with
  | none => simp [listenKafka, ordered]
  | some subject =>
      have ignored : taxi.obey first subject = (taxi, []) := by
        have other := unordered subject ordered
        cases subject <;> simp_all [obey]
      simp [listenKafka, ordered, ignored]

/-- A taxi makes the same of two responses of which it uses the same. -/
theorem listenKafka_alike (subject : first.1.subject = second.1.subject)
    (taxiId : ∀ answer, first.1.subject = .response answer → answer ∈
      [.taxiGoTo, .taxiStop, .taxiContinue, .taxiReturnToBase, .taxiDisconnect] →
        first.1.taxiId = second.1.taxiId)
    (coord : first.1.subject = .response .taxiGoTo → first.1.coord = second.1.coord) :
    (taxi.listenKafka (some first)).1 = (taxi.listenKafka (some second)).1 ∧
      List.Forall₂ Act.Alike (taxi.listenKafka (some first)).2
        (taxi.listenKafka (some second)).2 := by
  by_cases ours : ∃ answer ∈ taxi.order? first, answer ∈
      [.taxiGoTo, .taxiStop, .taxiContinue, .taxiReturnToBase, .taxiDisconnect]
  · obtain ⟨answer, ordered, kind⟩ := ours
    obtain ⟨told, addressed⟩ := order?_eq_some_iff.mp ordered
    have orderedToo : taxi.order? second = some answer :=
      order?_eq_some_iff.mpr ⟨subject ▸ told, taxiId answer told kind ▸ addressed⟩
    have heard (read : FullMessage) (ordered : taxi.order? read = some answer) :
        taxi.listenKafka (some read) = ({ (taxi.obey read answer).1 with
          listening := !(taxi.obey read answer).1.stop }, (taxi.obey read answer).2) := by
      simp [listenKafka, ordered]
    rw [heard first ordered, heard second orderedToo]
    cases answer with
    | taxiGoTo =>
        have place := coord told
        by_cases there : taxi.pos = first.1.coord
        · have thereToo : taxi.pos = second.1.coord := there.trans place
          simp only [obey, if_pos there, if_pos thereToo, true_and]
          refine .cons (.produce (Message.treatedAlike_arrival rfl ?_)) .nil
          simp only [Message.mk.injEq, true_and, and_true]
          exact (taxiId _ told kind).symm
        · have awayToo : ¬ taxi.pos = second.1.coord := fun there' => there (there'.trans place.symm)
          simp only [obey, if_neg awayToo, place, true_and]
          exact .nil
    | taxiStop | taxiContinue | taxiReturnToBase | taxiDisconnect => exact ⟨rfl, .nil⟩
    | _ => simp at kind
  · have unordered : ∀ answer ∈ taxi.order? first, answer ∉
        [.taxiGoTo, .taxiStop, .taxiContinue, .taxiReturnToBase, .taxiDisconnect] :=
      fun answer ordered kind => ours ⟨answer, ordered, kind⟩
    have unorderedToo : ∀ answer ∈ taxi.order? second, answer ∉
        [.taxiGoTo, .taxiStop, .taxiContinue, .taxiReturnToBase, .taxiDisconnect] := by
      intro answer ordered kind
      obtain ⟨told, addressed⟩ := order?_eq_some_iff.mp ordered
      have toldToo : first.1.subject = .response answer := subject.trans told
      refine ours ⟨answer, order?_eq_some_iff.mpr ⟨toldToo, ?_⟩, kind⟩
      exact (taxiId answer toldToo kind).trans addressed
    rw [listenKafka_of_unordered unordered, listenKafka_of_unordered unorderedToo]
    exact ⟨rfl, .nil⟩

variable {places : List (Message × Message)} {event event' : Event}

/-- A taxi does the same at both places. -/
theorem turn_alike (used : ∀ place ∈ places, place.1.used = place.2.used)
    (alike : Event.Alike places event event') : SameRun (taxi.turn event) (taxi.turn event') := by
  cases alike with
  | other =>
      cases taxi.turn event with
      | none => exact .none
      | some next => exact .some ⟨rfl, List.forall₂_same.mpr fun act _ => .refl act⟩
  | @heard place first second listed delivers deliversToo =>
      have same := used place listed
      obtain ⟨subject, _, taxiId, coord⟩ := delivers.fields
      obtain ⟨subjectToo, _, taxiIdToo, coordToo⟩ := deliversToo.fields
      simp only [turn]
      split
      · refine .some (listenKafka_alike ?_ (fun answer told kind => ?_) fun told => ?_)
        · rw [subject, subjectToo, Message.subject_of_used same]
        · rw [taxiId, taxiIdToo, Message.taxiId_of_used same (subject ▸ told) kind]
        · rw [coord, coordToo, Message.coord_of_used same (subject ▸ told)]
      · exact .none

/-- A taxi which is sent responses alike goes through the same run. -/
theorem turns_alike (used : ∀ place ∈ places, place.1.used = place.2.used)
    {events events' : List Event} (alike : List.Forall₂ (Event.Alike places) events events') :
    SameRun (taxi.turns events) (taxi.turns events') := by
  induction alike generalizing taxi with
  | nil => exact .some ⟨rfl, .nil⟩
  | @cons event event' events events' first _ inductionHypothesis =>
      have now := @turn_alike taxi places event event' used first
      simp only [turns, Option.bind_eq_bind]
      generalize taxi.turn event = step at now ⊢
      generalize taxi.turn event' = step' at now ⊢
      cases now with
      | none => exact .none
      | @some step step' same =>
          obtain ⟨next, acts⟩ := step
          obtain ⟨next', acts'⟩ := step'
          obtain ⟨rfl, actsAlike⟩ := same
          have later := @inductionHypothesis next
          simp only [Option.bind_some]
          generalize next.turns events = rest at later ⊢
          generalize next.turns events' = rest' at later ⊢
          cases later with
          | none => exact .none
          | some rest => exact .some ⟨rest.1, List.rel_append actsAlike rest.2⟩

end EcDe

/-! ### Customers -/

namespace EcCustomer

/-- The turns of a list of events, none of which is refused: the customer they leave, and what it
sends. -/
def turns : EcCustomer → List Event → Option (EcCustomer × List FullMessage)
  | customer, [] => some (customer, [])
  | customer, event :: events => do
      let (next, sent) ← customer.turn event
      let (last, more) ← next.turns events
      return (last, sent ++ more)

/-- The customer reads two logs in their order, and other things happen to it meanwhile. -/
inductive HearsAlike : List Message → List Message → List Event → List Event → Prop where
  | done {log log' : List Message} : HearsAlike log log' [] []
  | other {log log' : List Message} {events events' : List Event} {event : Event}
      (unheard : ∀ read, event ≠ .consume (some read)) (rest : HearsAlike log log' events events') :
      HearsAlike log log' (event :: events) (event :: events')
  | heard {message message' : Message} {log log' : List Message} {read read' : FullMessage}
      {events events' : List Event} (delivers : message.Delivers read)
      (delivers' : message'.Delivers read') (rest : HearsAlike log log' events events') :
      HearsAlike (message :: log) (message' :: log') (.consume (some read) :: events)
        (.consume (some read') :: events')

/-- The customer is not yet accepted. -/
def Greets (customer : EcCustomer) : Prop :=
  customer.errand = .greeting ∨ ∃ i, customer.errand = .shaking i

/-- Up to the first messages which carry the session, neither log carries it, and those two are used
alike. -/
inductive Matched (uuid : Uuid) : List Message → List Message → Prop where
  | done : Matched uuid [] []
  | others {message message' : Message} {log log' : List Message} (whole : message.Whole)
      (other : message.session ≠ uuid.1) (whole' : message'.Whole)
      (other' : message'.session ≠ uuid.1) (rest : Matched uuid log log') :
      Matched uuid (message :: log) (message' :: log')
  | own {message message' : Message} {log log' : List Message} (own : message.session = uuid.1)
      (own' : message'.session = uuid.1) (verdict : message.isVerdict = true) :
      Matched uuid (message :: log) (message' :: log')

variable {customer next : EcCustomer} {uuid : Uuid} {log log' : List Message}
  {read read' : FullMessage}

/-- Logs which are used alike are matched where the first message with the session is a verdict, and
the second log carries no session but those of verdicts. -/
theorem matched_of_logs (same : log.map Message.used = log'.map Message.used)
    (whole : ∀ message ∈ log, message.Whole) (verdict : VerdictFirst uuid.1 log)
    (whole' : ∀ message ∈ log', message.Whole)
    (verdicts : ∀ message ∈ log', message.session = uuid.1 → message.isVerdict = true) :
    Matched uuid log log' := by
  induction log generalizing log' with
  | nil =>
      cases log' with
      | nil => exact .done
      | cons message' log' => cases same
  | cons message log inductionHypothesis =>
      cases log' with
      | nil => cases same
      | cons message' log' =>
          rw [List.map_cons, List.map_cons, List.cons.injEq] at same
          rw [List.forall_mem_cons] at whole whole' verdicts
          rw [VerdictFirst] at verdict
          by_cases own : message.session = uuid.1
          · rw [if_pos own] at verdict
            obtain ⟨_, session, _⟩ := Message.verdict_of_used same.1 verdict
            exact .own own (session ▸ own) verdict
          · rw [if_neg own] at verdict
            refine .others whole.1 own whole'.1 (fun own' => ?_)
              (inductionHypothesis same.2 whole.2 verdict whole'.2 verdicts.2)
            obtain ⟨_, session, _⟩ := Message.verdict_of_used same.1.symm (verdicts.1 own')
            exact own (session ▸ own')

/-- A message with another session leaves the handshake where it is. -/
theorem handshake_of_other {i : Nat} (other : read.1.session ≠ customer.request.1.session) :
    customer.handshake i (some read) = customer := by
  simp [handshake, Message.checkSession, other]

/-- The verdict ends the handshake. -/
theorem handshake_of_own {i : Nat} (own : read.1.session = customer.request.1.session) :
    ¬ (customer.handshake i (some read)).Greets := by
  simp only [handshake, Message.checkSession, own, decide_true, not_true_eq_false, if_false]
  split
  · simp only [Greets]
    split <;> simp
  · simp [Greets]

/-- Two verdicts which are used alike end it in the same way. -/
theorem handshake_alike {i : Nat} (own : read.1.session = customer.request.1.session)
    (own' : read'.1.session = customer.request.1.session)
    (subject : read.1.subject = read'.1.subject)
    (data : read.1.subject = .response .accept → read.1.uuidFromData = read'.1.uuidFromData) :
    customer.handshake i (some read) = customer.handshake i (some read') := by
  have answers : response? read = response? read' := by simp only [response?, subject]
  simp only [handshake, Message.checkSession, own, own', decide_true, not_true_eq_false, if_false,
    answers]
  split
  · next accepts =>
    have told : read.1.subject = .response .accept := by
      rw [← answers, response?] at accepts
      split at accepts
      · next same => rw [same, Option.some.inj accepts]
      · cases accepts
    simp only [data told]
  · rfl

/-- A customer makes the same of two responses of which it uses the same. -/
theorem askService_alike {index : Nat} (subject : read.1.subject = read'.1.subject)
    (id : ∀ answer, read.1.subject = .response answer → answer ∈
      [.customerDisconnect, .customerServiceCompleted, .customerServiceDenied] →
        read.1.id = read'.1.id) :
    customer.askService index (some read) = customer.askService index (some read') := by
  have answers : response? read = response? read' := by simp only [response?, subject]
  by_cases ours : ∃ answer, read.1.subject = .response answer ∧ answer ∈
      [.customerDisconnect, .customerServiceCompleted, .customerServiceDenied]
  · obtain ⟨answer, told, kind⟩ := ours
    simp only [askService, answers, id answer told kind]
  · have ignored (read : FullMessage) (same : read.1.subject = read'.1.subject) :
        customer.askService index (some read) = customer := by
      have unheard : ∀ answer, response? read = some answer → answer ∉
          [.customerDisconnect, .customerServiceCompleted, .customerServiceDenied] := by
        intro answer told kind
        refine ours ⟨answer, ?_, kind⟩
        rw [subject, ← same]
        rw [response?] at told
        split at told
        · next heard => rw [heard, Option.some.inj told]
        · cases told
      simp only [askService]
      split
      · rfl
      · split <;> simp_all
    rw [ignored read subject, ignored read' rfl]

/-- A customer which asks for a service was accepted. -/
theorem askService_settled {index : Nat} (waiting : customer.errand = .waiting index) :
    ¬ (customer.askService index (some read)).Greets := by
  simp only [askService]
  split
  · simp [Greets, waiting]
  · split <;> simp [Greets, waiting]

/-- A customer which is not yet accepted was not accepted before, and holds its session. -/
theorem greets_of_turn {event : Event} {sent : List FullMessage}
    (unheard : ∀ read, event ≠ .consume (some read))
    (turned : customer.turn event = some (next, sent)) (greets : next.Greets) :
    customer.Greets ∧ next.request.1.session = customer.request.1.session := by
  cases event with
  | proceed =>
      simp only [turn, proceed] at turned
      split at turned
      · next greeting =>
        cases turned
        exact ⟨.inl greeting, rfl⟩
      · split at turned <;> cases turned <;> simp [Greets] at greets
      · split at turned <;> cases turned <;> simp [Greets] at greets
      all_goals cases turned
  | consume message =>
      cases message with
      | some read => exact absurd rfl (unheard read)
      | none =>
          simp only [turn] at turned
          split at turned
          · next i shaking =>
            cases turned
            exact ⟨.inr ⟨i, shaking⟩, rfl⟩
          · next index waiting =>
            cases turned
            exact ⟨greets, rfl⟩
          · cases turned
  | ping =>
      simp only [turn, ping] at turned
      split at turned <;> cases turned <;> exact ⟨greets, rfl⟩

/-- What a customer makes of two messages at the same place of two matched logs. -/
theorem turn_heard {message message' : Message} (same : message.used = message'.used)
    (delivers : message.Delivers read) (delivers' : message'.Delivers read')
    (text : uuid ≠ Sized.fill uuidLength 0)
    (waits : customer.Greets → customer.request.1.session = uuid.1 ∧
      Matched uuid (message :: log) (message' :: log')) :
    customer.turn (.consume (some read)) = customer.turn (.consume (some read')) ∧
      ∀ next sent, customer.turn (.consume (some read)) = some (next, sent) → next.Greets →
        next.request.1.session = uuid.1 ∧ Matched uuid log log' := by
  obtain ⟨subject, id, _⟩ := delivers.fields
  obtain ⟨subject', id', _⟩ := delivers'.fields
  have told : read.1.subject = read'.1.subject := by
    rw [subject, subject', Message.subject_of_used same]
  cases errand : customer.errand with
  | shaking i =>
      obtain ⟨holds, matched⟩ := waits (.inr ⟨i, errand⟩)
      simp only [turn, errand]
      cases matched with
      | others whole other whole' other' rest =>
          have unheard := @handshake_of_other customer read i
            (holds ▸ delivers.session_ne whole other text)
          have unheard' := @handshake_of_other customer read' i
            (holds ▸ delivers'.session_ne whole' other' text)
          rw [unheard, unheard']
          refine ⟨rfl, fun next sent turned greets => ?_⟩
          cases turned
          exact ⟨holds, rest⟩
      | own own own' verdict =>
          have full := delivers.eq_of_full (own ▸ uuid.2)
          have full' := delivers'.eq_of_full (own' ▸ uuid.2)
          have heard : read.1.session = customer.request.1.session := by rw [full, own, holds]
          have heard' : read'.1.session = customer.request.1.session := by rw [full', own', holds]
          obtain ⟨_, _, data⟩ := Message.verdict_of_used same verdict
          have alike := @handshake_alike customer read read' i heard heard' told
            (by rw [full, full']; exact data)
          rw [alike]
          refine ⟨rfl, fun next sent turned greets => ?_⟩
          cases turned
          exact absurd greets (handshake_of_own heard')
  | waiting index =>
      have alike : customer.askService index (some read) = customer.askService index (some read') := by
        refine askService_alike told fun answer asked kind => ?_
        rw [id, id', Message.id_of_used same (subject ▸ asked) kind]
      simp only [turn, errand, alike, true_and]
      intro next sent turned greets
      cases turned
      exact absurd greets (askService_settled errand)
  | greeting | asking | counting | ended =>
      simp only [turn, errand, true_and]
      exact fun next sent turned => by cases turned


/-- A customer does the same on two matched logs. -/
theorem turns_alike {events events' : List Event} (heard : HearsAlike log log' events events')
    (same : log.map Message.used = log'.map Message.used) (text : uuid ≠ Sized.fill uuidLength 0)
    (waits : customer.Greets → customer.request.1.session = uuid.1 ∧ Matched uuid log log') :
    customer.turns events = customer.turns events' := by
  induction heard generalizing customer with
  | done => rfl
  | @other _ _ _ _ event unheard _ inductionHypothesis =>
      simp only [turns]
      cases turned : customer.turn event with
      | none => rfl
      | some step =>
          obtain ⟨next, sent⟩ := step
          have later : next.turns _ = next.turns _ := inductionHypothesis same fun greets => by
            obtain ⟨greeted, holds⟩ := greets_of_turn unheard turned greets
            obtain ⟨held, matched⟩ := waits greeted
            exact ⟨holds.trans held, matched⟩
          simp only [Option.bind_eq_bind, Option.bind_some, later]
  | heard delivers delivers' _ inductionHypothesis =>
      rw [List.map_cons, List.map_cons, List.cons.injEq] at same
      obtain ⟨now, kept⟩ := turn_heard same.1 delivers delivers' text waits
      simp only [turns, ← now]
      cases turned : customer.turn (.consume (some _)) with
      | none => rfl
      | some step =>
          obtain ⟨next, sent⟩ := step
          have later : next.turns _ = next.turns _ :=
            inductionHypothesis same.2 (kept next sent turned)
          simp only [Option.bind_eq_bind, Option.bind_some, later]

end EcCustomer

/-- Whatever is left in its response object, Central sets what is used of a response while it treats
the request. So taxis, and customers from their handshake on, do in every run what they would do if
the object were reset before each request. -/
theorem leftovers_never_matter (session : Uuid) (locations : Table LocationRow.id)
    (events : List System.Event)
    (succeeds : ∀ taken ∈ (System.machine session).run (System.start locations) events,
      CentralStep.Succeeds taken)
    (sized : ∀ event ∈ events, ∀ uuid ∈ event.uuid?, uuid.length = uuidLength) (system : System)
    (executed : (System.machine session).exec (System.start locations) events = some system) :
    (∀ (now : Timestamp) (request : Message) (db : Db) (outages : List Bool)
        (first second : Message),
      ((KafkaServer.process now session request).acts ⟨db, outages, first⟩).map Act.used =
        ((KafkaServer.process now session request).acts ⟨db, outages, second⟩).map Act.used) ∧
    ∃ reset, (System.resetting session).exec (System.start locations) events = some reset ∧
      reset.db = system.db ∧ system.log.map Message.used = reset.log.map Message.used ∧
      (∀ (taxi : EcDe) (turns turns' : List EcDe.Event),
        List.Forall₂ (EcDe.Event.Alike (system.log.zip reset.log)) turns turns' →
          EcDe.SameRun (taxi.turns turns) (taxi.turns turns')) ∧
      ∀ (id : Id) (coord : Coordinate) (uuid : Uuid) (services : Option (List Id))
          (turns turns' : List EcCustomer.Event), uuid ≠ Sized.fill uuidLength 0 →
        EcCustomer.HearsAlike system.log reset.log turns turns' →
          (EcCustomer.start id coord uuid services).turns turns =
            (EcCustomer.start id coord uuid services).turns turns' := by
  refine ⟨fun now request db outages first second =>
    KafkaServer.process_couples.acts ⟨rfl, rfl, rfl⟩, ?_⟩
  have alike : (System.start locations).Alike (System.start locations) := ⟨rfl, rfl⟩
  have fresh : (System.start locations).Reset :=
    ⟨fun reply member => (List.not_mem_nil member).elim,
      fun reply member => (List.not_mem_nil member).elim⟩
  obtain ⟨reset, cleared, _⟩ :=
    @System.Alike.exec session _ _ id (fun _ => .new) alike events system executed
  have relate (uuid : List UInt8) (written : uuid ≠ []) :
      system.Alike reset ∧ system.Orderly uuid ∧ reset.Reset := by
    have orderly : (System.start locations).Orderly uuid :=
      ⟨.inr ⟨rfl, rfl⟩, fun reply member => (List.not_mem_nil member).elim, trivial,
        fun empty => absurd empty.symm written⟩
    obtain ⟨other, executedToo, facts⟩ :=
      System.exec_orderly alike orderly fresh succeeds sized executed
    cases cleared.symm.trans executedToo
    exact facts
  obtain ⟨same, _, clean⟩ := relate [0] (by simp)
  refine ⟨reset, cleared, same.db.symm, same.log, fun taxi turns turns' heard => ?_,
    fun id coord uuid services turns turns' text heard => ?_⟩
  · exact EcDe.turns_alike (Message.used_of_zip same.log) heard
  · have written : uuid.1 ≠ [] := fun empty => by
      have size := uuid.2
      rw [empty] at size
      cases size
    obtain ⟨_, orderly, _⟩ := relate uuid.1 written
    refine EcCustomer.turns_alike heard same.log text fun _ => ⟨rfl, ?_⟩
    exact EcCustomer.matched_of_logs same.log orderly.whole orderly.verdict clean.whole
      fun reply member holds => clean.verdict reply member (holds ▸ written)

/-- A customer registers and asks for a ride, and a taxi is assigned to it. The responses to the
ride still carry the session of the registration, and are used as if they carried none. -/
theorem leftovers_never_matter_expected :
    ∃ reset, (System.resetting Town.session).exec (System.start Town.locations) expected =
        some reset ∧
      (Town.reach expected expected_survives).log ≠ reset.log ∧
      (Town.reach expected expected_survives).log.map Message.used = reset.log.map Message.used := by
  obtain ⟨_, reset, cleared, _, same, _⟩ := leftovers_never_matter Town.session Town.locations expected
    (by decide +kernel) (by decide +kernel) (Town.reach expected expected_survives)
    (Option.some_get expected_survives).symm
  refine ⟨reset, cleared, fun equal => ?_, same⟩
  have stale : (Town.reach expected expected_survives).log.all
      (fun reply => reply.session = Town.session.1) = true := by decide +kernel
  have blank : ((System.resetting Town.session).exec (System.start Town.locations) expected).all
      (fun reset => reset.log.all fun reply => reply.session = Town.session.1) = false := by
    decide +kernel
  rw [cleared, Option.all_some, ← equal, stale] at blank
  cases blank

end EasyCab
