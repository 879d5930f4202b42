import EasyCab.Central.Issued
import EasyCab.Network.Network

/-!
# Which messages can be read back

A message is read back exactly when its session has 36 bytes (`Message.readsBack_iff`).
Taxis, customers and the authentication server always have a session. The orders of
`checkStrays` never get one, and `response` has none until a `NEW_CUSTOMER` is treated,
because nothing but the handler of that request ever sets it.
-/

namespace EasyCab

open Library

/-! ### The session of `response` -/

namespace KafkaServer

variable {now : Timestamp} {session : Uuid} {request : Message} {server : KafkaServer}

/-- What is put on `responses` for a request carries the session which `response` has then, and
`response` keeps it. -/
theorem process_session {subject : SubjRequest} (accepted : accepted? session request = some subject) :
    ((process now session request).last server).response.session =
        sessionFor request subject server.response ∧
      ∀ message, .produce message ∈ (process now session request).acts server →
        message.session = sessionFor request subject server.response := by
  obtain ⟨kept, carried⟩ := (@process_stays
    (fun _ held => held = sessionFor request subject server.response) now session request subject
    server accepted (fun _ _ _ _ _ _ _ _ holds => holds) rfl).holds
  refine ⟨kept, fun message member => ?_⟩
  obtain ⟨_, same⟩ := carried _ member
  exact same

/-- A request which is not let through leaves the server alone. -/
theorem process_refused (refused : accepted? session request = none) :
    (process now session request).last server = server ∧
      (process now session request).acts server = [] := by
  simp only [process, refused]
  exact ⟨rfl, rfl⟩

/-- A `NEW_CUSTOMER` is always let through. -/
theorem accepted_newCustomer (joins : request.subject = .request .newCustomer) :
    accepted? session request = some .newCustomer := by
  simp [accepted?, joins, greenList]

/-- After a request `response` has the session which it had, and after a `NEW_CUSTOMER` that of the
request. -/
theorem process_response_session :
    ((process now session request).last server).response.session =
      if request.subject = .request .newCustomer then request.session
      else server.response.session := by
  cases accepted : accepted? session request with
  | none =>
      rw [(process_refused accepted).1, if_neg]
      intro joins
      rw [accepted_newCustomer joins] at accepted
      cases accepted
  | some subject =>
      have asked : request.subject = .request subject := subject_of_accepted accepted
      rw [(process_session accepted).1, sessionFor, asked]
      simp only [Subject.request.injEq]

/-- The session of everything that is put on `responses` for a request. -/
theorem produced_session {message : Message}
    (member : .produce message ∈ (process now session request).acts server) :
    message.session =
      if request.subject = .request .newCustomer then request.session
      else server.response.session := by
  cases accepted : accepted? session request with
  | none =>
      rw [(process_refused accepted).2] at member
      cases member
  | some subject =>
      have asked : request.subject = .request subject := subject_of_accepted accepted
      rw [(process_session accepted).2 message member, sessionFor, asked]
      simp only [Subject.request.injEq]

end KafkaServer

/-! ### Runs -/

namespace Network

/-- The session of `response` is set once a `NEW_CUSTOMER` was consumed, and empty before. -/
def Inv (network : Network) : Prop :=
  ∀ process ∈ network.server,
    process.response.session.length = if process.registered then uuidLength else 0

variable {session : Uuid}

/-- Taxis and customers keep the invariant. -/
theorem Inv.of_sendsFull {network next : Network} (holds : network.Inv)
    (sends : network.SendsFull next) : next.Inv := by
  unfold Inv at holds ⊢
  rw [sends.server]
  exact holds

/-- Every step keeps the invariant. -/
theorem inv_preserved {network next : Network} {event : Event}
    (stepped : (machine session).step network event = some next) (holds : network.Inv) :
    next.Inv := by
  change network.step session event = some next at stepped
  cases event with
  | restart =>
      cases stepped
      intro process alive
      cases alive
      rfl
  | addTaxi | checkStrays | joinTaxi | joinCustomer =>
      cases stepped
      exact holds
  | taxi process event => exact holds.of_sendsFull (sendsFull_of_taxi stepped)
  | customer process event => exact holds.of_sendsFull (sendsFull_of_customer stepped)
  | request now message outages =>
      obtain ⟨process, alive, rfl⟩ := Option.map_eq_some_iff.mp stepped
      intro later living
      simp only [request] at living
      cases ran : KafkaServer.process now session message.1
          ⟨network.db, outages, process.response⟩ with
      | error crash => simp [ran] at living
      | ok outcome =>
          simp only [ran, Option.mem_def, Option.some.injEq] at living
          subst living
          have sessioned := @KafkaServer.process_response_session now session message.1
            ⟨network.db, outages, process.response⟩
          simp only [Effect.last, ran] at sessioned
          have before := holds process alive
          by_cases joins : message.1.subject = .request .newCustomer
          · rw [if_pos joins] at sessioned
            simp [joins, sessioned, message.2]
          · rw [if_neg joins] at sessioned
            simpa [joins, sessioned] using before

end Network

namespace NetworkStep

/-- Who sends in the step has a session: it is not `checkStrays`, and if it is the Kafka server,
a `NEW_CUSTOMER` was consumed since it started or is what it consumes now. -/
def InSession (taken : NetworkStep) : Prop :=
  match taken.event with
  | .checkStrays .. => False
  | .request _ message _ =>
      message.1.subject = .request .newCustomer ∨
        ∃ process ∈ taken.before.server, process.registered = true
  | _ => True

instance (taken : NetworkStep) : Decidable taken.InSession := by
  unfold InSession
  split <;> infer_instance

variable {session : Uuid} {taken : NetworkStep} {message : Message}

/-- What a taxi or a customer sends has a session of 36 bytes. -/
theorem sentFull (sends : taken.before.SendsFull taken.after) (sent : message ∈ taken.sent) :
    message.session.length = uuidLength := by
  obtain ⟨messages, requests⟩ := sends.requests
  rw [@sent_eq taken _ [] requests sends.responses, List.append_nil, List.mem_reverse] at sent
  obtain ⟨full, _, rfl⟩ := List.mem_map.mp sent
  exact full.2

/-- A message of a step reads back exactly if who sends in the step has a session. -/
theorem readsBack_iff_of_step
    (stepped : (Network.machine session).step taken.before taken.event = some taken.after)
    (holds : taken.before.Inv) (sent : message ∈ taken.sent) :
    message.ReadsBack ↔ taken.InSession := by
  obtain ⟨before, event, after⟩ := taken
  change Network.step session before event = some after at stepped
  rw [Message.readsBack_iff]
  cases event with
  | restart | joinTaxi | joinCustomer =>
      cases stepped
      rw [@sent_eq _ [] [] rfl rfl] at sent
      cases sent
  | addTaxi now taxiId reconnect outages =>
      cases stepped
      rw [@sent_eq _ _ [] rfl rfl, List.append_nil, List.mem_reverse, Option.mem_toList] at sent
      refine iff_of_true ?_ trivial
      simp only [AuthServer.addTaxi] at sent
      split at sent
      · cases sent
      · cases sent
        exact session.2
  | checkStrays now outages =>
      cases stepped
      rw [@sent_eq _ _ [] rfl rfl, List.append_nil, List.mem_reverse] at sent
      refine iff_of_false ?_ id
      have unset : message.session = [] :=
        KafkaServer.checkStrays_unset now outages before.db message sent
      simp [unset, uuidLength]
  | taxi process event =>
      exact iff_of_true (sentFull (Network.sendsFull_of_taxi stepped) sent) trivial
  | customer process event =>
      exact iff_of_true (sentFull (Network.sendsFull_of_customer stepped) sent) trivial
  | request now request outages =>
      obtain ⟨process, alive, rfl⟩ := Option.map_eq_some_iff.mp stepped
      rw [@sent_eq _ [] _ rfl rfl, List.nil_append, List.mem_reverse] at sent
      have produced : .produce message ∈ (KafkaServer.process now session request.1).acts
          ⟨before.db, outages, process.response⟩ := Network.mem_responsesOf_iff.mp sent
      have living : before.server = some process := alive
      rw [KafkaServer.produced_session produced]
      simp only [InSession, living, Option.mem_some_iff, exists_eq_left']
      by_cases joins : request.1.subject = .request .newCustomer
      · simp [joins, request.2]
      · have length := holds process alive
        rw [if_neg joins, length]
        cases process.registered with
        | true => simp
        | false => simp [joins, uuidLength]

end NetworkStep

/-- In every run, a message which is put on `requests` or `responses` can be read back exactly
when its sender had a session. -/
theorem sent_reads_back_iff {session : Uuid} {locations : Table LocationRow.id}
    {events : List Network.Event} {taken : NetworkStep} {message : Message}
    (member : taken ∈ (Network.machine session).run (.start locations) events)
    (sent : message ∈ taken.sent) : message.ReadsBack ↔ taken.InSession := by
  have initial : (Network.start locations).Inv := by
    intro process alive
    cases alive
    rfl
  have stepped := Machine.run_step member
  have holds := Machine.run_always Network.Inv (fun _ stepped => Network.inv_preserved stepped)
    initial taken member
  exact NetworkStep.readsBack_iff_of_step stepped holds.1 sent

/-! ### A taxi and a customer -/

namespace Network

/-- A session. -/
def session : Uuid := Sized.fill 36 48

/-- The run from a database without locations. -/
def run (events : List Event) : List NetworkStep := (machine session).run (.start .empty) events

/-- Customer `a` introduces itself. -/
def hello : FullMessage := (EcCustomer.start 97 ⟨3, 4⟩ (Sized.fill 36 49) none).request

/-- Taxi 1 is ordered to be disconnected. -/
def disconnect : FullMessage :=
  ⟨{ Message.request session.1 .orderTaxiDisconnect with taxiId := 1 }, session.2⟩

end Network

/-- A new customer is accepted, and the answer can be read back. -/
theorem accept_reads_back :
    (∃ taken ∈ Network.run [.request 0 Network.hello []], ∃ message ∈ taken.sent,
        message.subject = .response .accept) ∧
      ∀ taken ∈ Network.run [.request 0 Network.hello []], ∀ message ∈ taken.sent,
        message.ReadsBack := by
  refine ⟨by decide +kernel, fun taken member message sent => ?_⟩
  have sessioned : ∀ taken ∈ Network.run [.request 0 Network.hello []],
      NetworkStep.InSession taken := by decide +kernel
  exact (sent_reads_back_iff member sent).mpr (sessioned taken member)

/-- Taxi 1 is added and not heard of for ten seconds. The order of `checkStrays` to disconnect
it cannot be read back, and neither can the response to such an order while no customer has
come. -/
theorem disconnection_unreadable :
    (¬ ∀ taken ∈ Network.run [.addTaxi 0 1 false [], .checkStrays 10 []],
        ∀ message ∈ taken.sent, message.ReadsBack) ∧
      ¬ ∀ taken ∈ Network.run [.addTaxi 0 1 false [], .request 10 Network.disconnect []],
        ∀ message ∈ taken.sent, message.ReadsBack := by
  simp only [Message.readsBack_iff]
  decide +kernel

end EasyCab
