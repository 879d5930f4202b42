import EasyCab.Central.Survival
import EasyCab.Central.TripSteps

/-!
# Registrations

`newCustomer` stores the session of its request in `response`, and every later response carries
it until the next registration. So where no two registrations share a session, the first response
which carries one is the answer to its own registration.
-/

namespace EasyCab

open Library

/-- The message accepts or denies a customer. -/
def Message.isVerdict (message : Message) : Bool :=
  message.subject = .response .accept || message.subject = .response .deny

namespace System

/-- The session of a `NEW_CUSTOMER`, if the event is one. -/
def Event.uuid? : Event → Option (List UInt8)
  | .addTaxi .. => none
  | .request _ message _ =>
      if message.subject = .request .newCustomer then some message.session else none

/-- The registrations carry sessions which nobody else carries. -/
structure FreshUuids (events : List Event) : Prop where
  distinct : (events.filterMap Event.uuid?).Nodup
  nonempty : [] ∉ events.filterMap Event.uuid?

/-- No response has carried the session. -/
structure Unused (system : System) (uuid : List UInt8) : Prop where
  held : system.response.session ≠ uuid
  carried : ∀ reply ∈ Act.responses system.trace, reply.session ≠ uuid

end System

namespace CentralStep

/-- What the step puts on `responses`, in order. -/
def responses (taken : CentralStep) : List Message := Act.responses taken.recorded.reverse

/-- The session which `response` holds after the step. -/
def carried (taken : CentralStep) : List UInt8 :=
  taken.event.uuid?.getD taken.before.response.session

/-- A `NEW_CUSTOMER` is answered by one verdict with the session of the request, which no response
carried before. A denied customer is stored already and nothing changes; an accepted one is not. -/
structure Registers (taken : CentralStep) (request : Message) : Prop where
  reply : ∃ reply, taken.responses = [reply] ∧ reply.session = request.session ∧
    (reply.subject = .response .accept ∧
        taken.before.db.customers.lookup request.id = none ∨
      reply.subject = .response .deny ∧
        (taken.before.db.customers.lookup request.id).isSome ∧
        taken.after.db.toTables = taken.before.db.toTables)
  first : ∀ earlier ∈ Act.responses taken.before.trace, earlier.session ≠ request.session

/-- The step accepts the customer. -/
def Accepts (session : Uuid) (customer : Id) (taken : CentralStep) : Prop :=
  ∃ request reply, taken.request? session = some (request, .newCustomer) ∧
    request.id = customer ∧ reply ∈ taken.responses ∧ reply.subject = .response .accept

/-- The step deletes the row of the customer. -/
def Deletes (session : Uuid) (customer : Id) (taken : CentralStep) : Prop :=
  ∃ request, taken.request? session = some (request, .orderCustomerDisconnect) ∧
    request.id = customer ∧ (taken.before.db.customers.lookup customer).isSome ∧
    taken.after.db.customers.lookup customer = none

end CentralStep

/-! ### Sessions -/

namespace KafkaServer

variable {now : Timestamp} {session : Uuid} {request : Message} {subject : SubjRequest}
  {server : KafkaServer} {outcome : Outcome KafkaServer Act Unit}

/-- Whatever becomes of its queries, a request leaves one session in `response` and in all that it
puts on `responses`. -/
theorem process_carries (accepted : accepted? session request = some subject)
    (ran : process now session request server = .ok outcome) :
    outcome.state.response.session = sessionFor request subject server.response ∧
      ∀ reply, .produce reply ∈ outcome.acts →
        reply.session = sessionFor request subject server.response := by
  have stays := @process_stays
    (fun _ held => held = sessionFor request subject server.response) now session request subject
    server accepted (fun _ _ _ _ _ _ _ _ held => held) rfl
  obtain ⟨last, acts⟩ := Effect.last_of_ok ran
  obtain ⟨held, carried⟩ := stays.holds
  rw [last] at held
  rw [acts] at carried
  refine ⟨held, fun reply member => ?_⟩
  obtain ⟨_, same⟩ := carried _ member
  exact same

/-- Only a `NEW_CUSTOMER` is answered by a verdict. -/
theorem Handled.newCustomer_of_verdict {before after : KafkaServer} {acts : List Act}
    {reply : Message} (handled : Handled now session before request subject after acts)
    (produced : .produce reply ∈ acts) (verdict : reply.isVerdict = true) :
    subject = .newCustomer := by
  have assigned {taxi : TaxiId} {customer : Id} {middle : KafkaServer} {later : List Act}
      (assigned : Assigned now taxi customer middle after later)
      (member : .produce reply ∈ later) : False := by
    obtain ⟨coord, _, response⟩ := assigned.sent
    rw [assigned.acts] at member
    simp only [List.mem_cons, Act.produce.injEq, reduceCtorEq, List.not_mem_nil, or_false,
      false_or] at member
    rcases member with rfl | rfl <;> simp [Message.isVerdict, response] at verdict
  cases handled with
  | denied kind | accepted kind => exact kind
  | ignored _ _ _ _ _ recorded | arrivedIdle _ _ _ _ recorded | silent _ _ _ _ recorded
  | moved _ _ _ recorded =>
      rw [recorded] at produced
      cases produced
  | arrivedAssigned _ _ _ sent => exact (assigned sent produced).elim
  | flagged effect answer kind _ response recorded =>
      obtain rfl : reply = after.response := by simpa [recorded] using produced
      have told := (@trips_flagEffect now before.db.toTables request _ _ _ kind).2.2
      rw [response] at verdict
      simp only [List.mem_cons, List.not_mem_nil, or_false] at told
      rcases told with rfl | rfl | rfl <;> simp [Message.isVerdict] at verdict
  | deleted _ _ response recorded | prioritized _ _ response recorded
  | completed _ _ _ _ _ response recorded | pickUpDenied _ _ _ _ _ _ response recorded
  | enqueued _ _ _ response recorded | redirected _ _ _ response recorded =>
      obtain rfl : reply = after.response := by simpa [recorded] using produced
      simp [Message.isVerdict, response] at verdict
  | completedAssigned _ _ middle later _ _ _ _ response sent recorded =>
      rw [recorded, List.mem_cons, Act.produce.injEq] at produced
      rcases produced with rfl | member
      · simp [Message.isVerdict, response] at verdict
      · exact (assigned sent member).elim
  | pickedUp _ _ _ _ _ _ _ response recorded =>
      rw [recorded] at produced
      simp only [List.mem_cons, Act.produce.injEq, List.not_mem_nil, or_false] at produced
      rcases produced with rfl | rfl <;> simp [Message.isVerdict, response] at verdict
  | requestAssigned _ _ earlier _ _ _ _ sent recorded =>
      rw [recorded, List.mem_append, List.mem_singleton, Act.produce.injEq] at produced
      rcases produced with member | rfl
      · exact (assigned sent member).elim
      · obtain ⟨coord, _, response⟩ := sent.sent
        simp [Message.isVerdict, response] at verdict

/-- Central dies of no `NEW_CUSTOMER`. -/
theorem process_newCustomer_ends (asked : request.subject = .request .newCustomer) :
    (process now session request).Ends server := by
  have accepted : accepted? session request = some .newCustomer := by
    simp [accepted?, asked, greenList]
  simp only [process, accepted]
  rw [Effect.ends_record_bind_iff]
  have handled : (handle now session .newCustomer request).Ends server :=
    (newCustomer_ends _).bind fun _ _ => Effect.ends_pure
  refine handled.bind fun refresh server => ?_
  cases refresh with
  | true => exact refreshMap_ends server
  | false => exact Effect.ends_pure

end KafkaServer

/-! ### Rows of customers -/

/-- A request leaves a customer stored unless it orders to disconnect this customer. -/
theorem TripStep.customer_stays {before after : Trips} {message : Message} {subject : SubjRequest}
    {acts : List Act} {customer : Id} (step : TripStep before message subject after acts)
    (kept : subject = .orderCustomerDisconnect → message.id ≠ customer)
    (present : (before.customerAt customer).isSome) : (after.customerAt customer).isSome := by
  cases step with
  | quiet _ same => rwa [same]
  | relocated _ trips =>
      rw [trips]
      exact present
  | left kind trips =>
      have other : customer ≠ message.id := (kept kind).symm
      rw [trips]
      simpa [Trips.leave, other] using present
  | joined _ trips =>
      rw [trips]
      by_cases same : customer = message.id
      · simp [Trips.join, same]
      · simpa [Trips.join, same] using present
  | drove _ trips => rwa [trips, Trips.drive_customerAt_isSome]
  | droppedOff _ _ _ trips =>
      rwa [trips, Trips.setOnboard_customerAt, Trips.drive_customerAt_isSome]
  | boardedDenied _ _ _ _ _ trips | boarded _ _ _ _ _ _ trips =>
      rwa [trips, Trips.setOnboard_customerAt, Trips.drive_customerAt_isSome]
  | droppedOffAndSent _ _ middle _ _ _ _ dropped trips =>
      rwa [trips, Trips.assign_customerAt, dropped, Trips.setOnboard_customerAt,
        Trips.drive_customerAt_isSome]
  | requested _ _ _ _ _ trips =>
      rw [trips, Trips.assign_customerAt]
      exact present
  | summoned _ _ _ trips => rwa [trips, Trips.assign_customerAt]
  | redirected _ _ _ trips =>
      rw [trips, Trips.landNamesake_customerAt]
      exact present

/-- A customer is stored where the trips know where it is. -/
theorem Tables.customerAt_isSome {tables : Tables} {customer : Id} :
    (tables.trips.customerAt customer).isSome = (tables.customers.lookup customer).isSome := by
  simp [trips, customerCoord]

namespace CentralStep

variable {session : Uuid} {taken : CentralStep} {customer : Id} {request : Message}

/-- A step leaves a customer stored unless it deletes it. -/
theorem customer_stays
    (stepped : (System.machine session).step taken.before taken.event = some taken.after)
    (succeeds : taken.Succeeds) (kept : ¬ Deletes session customer taken)
    (present : (taken.before.db.customers.lookup customer).isSome) :
    (taken.after.db.customers.lookup customer).isSome := by
  cases taken_of_step stepped succeeds with
  | added now taxiId reconnect _ tables =>
      rw [← Tables.customerAt_isSome] at present ⊢
      cases reconnect with
      | true =>
          simp only [AuthServer.addedTables, if_true, Option.some.injEq] at tables
          rwa [← tables, Tables.trips_setConnected]
      | false =>
          simp only [AuthServer.addedTables, Bool.false_eq_true, if_false] at tables
          rw [(Tables.trips_insertTaxi tables).1]
          exact present
  | dropped _ unchanged => rwa [unchanged]
  | treated now message subject outages handled acts maps asked treats db =>
      by_cases ordered : subject = .orderCustomerDisconnect ∧ message.id = customer
      · obtain ⟨rfl, rfl⟩ := ordered
        rw [Option.isSome_iff_ne_none]
        exact fun gone => kept ⟨message, asked, rfl, present, gone⟩
      · rw [← Tables.customerAt_isSome] at present ⊢
        rw [db]
        refine (treats.tripStep (subject_of_asked asked)).customer_stays ?_ present
        exact fun kind same => ordered ⟨kind, same⟩

/-! ### Registrations in a run -/

/-- A step adds what it records to the trace. -/
theorem trace_of_step
    (stepped : (System.machine session).step taken.before taken.event = some taken.after) :
    taken.after.trace = taken.recorded ++ taken.before.trace := by
  obtain ⟨before, event, after⟩ := taken
  change System.step session before event = some after at stepped
  have grows : ∃ added, after.trace = added ++ before.trace := by
    cases System.stepped_of_step stepped with
    | added => exact ⟨_, rfl⟩
    | consumed => exact ⟨_, rfl⟩
  obtain ⟨added, grows⟩ := grows
  rw [recorded_append grows]
  exact grows

/-- A `NEW_CUSTOMER` is let through. -/
theorem accepted_newCustomer (asked : request.subject = .request .newCustomer) :
    KafkaServer.accepted? session request = some .newCustomer := by
  simp [KafkaServer.accepted?, asked, KafkaServer.greenList]

/-- All responses of a step carry one session, which `response` holds afterwards. -/
theorem carried_of_step
    (stepped : (System.machine session).step taken.before taken.event = some taken.after) :
    taken.after.response.session = taken.carried ∧
      ∀ reply ∈ taken.responses, reply.session = taken.carried := by
  obtain ⟨before, event, after⟩ := taken
  change System.step session before event = some after at stepped
  cases System.stepped_of_step stepped with
  | added now taxiId reconnect outages =>
      refine ⟨rfl, fun reply member => ?_⟩
      rw [responses, recorded_append rfl] at member
      simp at member
  | @consumed now message outages outcome ran =>
      let after : System :=
        ⟨outcome.state.db, outcome.state.response, outcome.acts.reverse ++ before.trace⟩
      have recorded : responses ⟨before, .request now message outages, after⟩ =
          Act.responses outcome.acts := by
        rw [responses, recorded_append rfl, List.reverse_reverse]
      rw [recorded]
      cases accepted : KafkaServer.accepted? session message with
      | none =>
          have other : message.subject ≠ .request .newCustomer := fun asked => by
            rw [accepted_newCustomer asked] at accepted
            cases accepted
          rw [KafkaServer.process_dropped accepted ran]
          exact ⟨by simp [carried, System.Event.uuid?, other], fun reply member => by cases member⟩
      | some subject =>
          obtain ⟨held, produced⟩ := KafkaServer.process_carries accepted ran
          have same : carried ⟨before, .request now message outages, after⟩ =
              KafkaServer.sessionFor message subject before.response := by
            have asked := KafkaServer.subject_of_accepted accepted
            by_cases joins : subject = .newCustomer
            · simp [carried, System.Event.uuid?, KafkaServer.sessionFor, asked, joins]
            · simp [carried, System.Event.uuid?, KafkaServer.sessionFor, asked, joins]
          rw [same]
          exact ⟨held, fun reply member => produced reply (Act.mem_responses_iff.mp member)⟩

/-- A session stays unused until its own registration. -/
theorem unused_of_step
    (stepped : (System.machine session).step taken.before taken.event = some taken.after)
    {uuid : List UInt8} (other : taken.event.uuid? ≠ some uuid)
    (unused : taken.before.Unused uuid) : taken.after.Unused uuid := by
  obtain ⟨held, produced⟩ := carried_of_step stepped
  have different : taken.carried ≠ uuid := by
    unfold carried
    cases own : taken.event.uuid? with
    | none => exact unused.held
    | some session => simpa [own] using other
  refine ⟨held ▸ different, fun reply member => ?_⟩
  rw [trace_of_step stepped, Act.responses_append, List.mem_append] at member
  rcases member with now | before
  · have told : reply ∈ taken.responses := by
      rw [responses, Act.mem_responses_iff, List.mem_reverse]
      exact Act.mem_responses_iff.mp now
    rw [produced reply told]
    exact different
  · exact unused.carried reply before

/-- What a step which treats a request puts on `responses`. -/
theorem responses_of_treated {acts : List Act} {maps : List Map}
    (trace : taken.after.trace = maps.reverse.map .publishMap ++
      (acts.reverse ++ .handled request :: taken.before.trace)) :
    taken.responses = Act.responses acts := by
  have grows : taken.after.trace = (maps.reverse.map .publishMap ++
      (acts.reverse ++ [.handled request])) ++ taken.before.trace := by
    simpa using trace
  have silent : Act.responses (maps.map Act.publishMap) = [] := by
    simp [Act.responses, List.filterMap_map, Function.comp_def, Act.response?]
  have ordered : taken.recorded.reverse = .handled request :: (acts ++ maps.map .publishMap) := by
    rw [recorded_append grows]
    simp
  rw [responses, ordered]
  change Act.responses (acts ++ maps.map .publishMap) = Act.responses acts
  rw [Act.responses_append, silent, List.append_nil]

/-- A registration, every query succeeding, is answered by one verdict. -/
theorem replied_of_step
    (stepped : (System.machine session).step taken.before taken.event = some taken.after)
    (succeeds : taken.Succeeds) (asked : taken.request? session = some (request, .newCustomer)) :
    ∃ reply, taken.responses = [reply] ∧ reply.session = request.session ∧
      (reply.subject = .response .accept ∧
          taken.before.db.customers.lookup request.id = none ∨
        reply.subject = .response .deny ∧
          (taken.before.db.customers.lookup request.id).isSome ∧
          taken.after.db.toTables = taken.before.db.toTables) := by
  cases taken_of_step stepped succeeds with
  | added _ _ _ unasked => simp [asked] at unasked
  | dropped unasked => simp [asked] at unasked
  | treated now message subject outages handled acts maps asked' treats db response trace =>
      cases asked.symm.trans asked'
      rw [responses_of_treated trace]
      cases treats with
      | denied _ found same response recorded =>
          refine ⟨handled.response, by rw [recorded]; rfl, by rw [response], .inr ⟨?_, ?_, ?_⟩⟩
          · rw [response]
          · exact Option.isSome_iff_exists.mpr found
          · rw [db, same]
      | accepted _ stored response recorded =>
          refine ⟨handled.response, by rw [recorded]; rfl, ?_, .inl ⟨?_, ?_⟩⟩
          · rw [response]
            rfl
          · rw [response]
            rfl
          · have free := (Tables.trips_insertCustomer stored).2
            simpa [Tables.trips, Tables.customerCoord] using free
      | deleted kind | prioritized kind | moved kind | enqueued kind => cases kind
      | ignored _ _ kind | silent _ kind | flagged _ _ kind | completed _ kind | pickUpDenied _ kind
      | redirected _ kind => cases kind
      | arrivedIdle kind | arrivedAssigned _ kind => rcases kind with kind | kind <;> cases kind
      | pickedUp _ _ kind => cases kind
      | requestAssigned _ _ _ kind => cases kind
      | completedAssigned _ _ _ _ kind => cases kind

/-- A step which treats a request consumes it. -/
theorem uuid?_of_asked {subject : SubjRequest}
    (asked : taken.request? session = some (request, subject)) :
    taken.event.uuid? = if subject = .newCustomer then some request.session else none := by
  have told := subject_of_asked asked
  unfold request? at asked
  split at asked
  · cases asked
  · next now message outages event =>
    obtain ⟨_, _, same⟩ := Option.map_eq_some_iff.mp asked
    cases same
    simp [System.Event.uuid?, event, told]

/-- A verdict carries the session of the registration which it answers. -/
theorem uuid_of_verdict
    (stepped : (System.machine session).step taken.before taken.event = some taken.after)
    (succeeds : taken.Succeeds) {reply : Message} (member : reply ∈ taken.responses)
    (verdict : reply.isVerdict = true) : taken.event.uuid? = some reply.session := by
  have carried := (carried_of_step stepped).2 reply member
  cases taken_of_step stepped succeeds with
  | added _ _ _ _ _ _ trace =>
      have grows : taken.after.trace = [_] ++ taken.before.trace := trace
      rw [responses, recorded_append grows] at member
      cases member
  | dropped _ unchanged =>
      have grows : taken.after.trace = [] ++ taken.before.trace := by
        rw [unchanged]
        rfl
      rw [responses, recorded_append grows] at member
      cases member
  | treated now message subject outages handled acts maps asked treats db response trace =>
      rw [responses_of_treated trace, Act.mem_responses_iff] at member
      obtain rfl := treats.newCustomer_of_verdict member verdict
      rw [uuid?_of_asked asked, if_pos rfl, carried, CentralStep.carried, uuid?_of_asked asked,
        if_pos rfl]
      rfl

/-- An accepted customer had no row and has one. -/
theorem stored_of_accepts
    (stepped : (System.machine session).step taken.before taken.event = some taken.after)
    (succeeds : taken.Succeeds) (accepts : Accepts session customer taken) :
    taken.before.db.customers.lookup customer = none ∧
      (taken.after.db.customers.lookup customer).isSome := by
  obtain ⟨request, reply, asked, rfl, member, told⟩ := accepts
  cases taken_of_step stepped succeeds with
  | added _ _ _ unasked => simp [asked] at unasked
  | dropped unasked => simp [asked] at unasked
  | treated now message subject outages handled acts maps asked' treats db response trace =>
      cases asked.symm.trans asked'
      rw [responses_of_treated trace, Act.mem_responses_iff] at member
      cases treats with
      | denied _ _ _ response recorded =>
          obtain rfl : reply = handled.response := by simpa [recorded] using member
          simp [response] at told
      | accepted _ stored =>
          obtain ⟨trips, free⟩ := Tables.trips_insertCustomer stored
          refine ⟨by simpa [Tables.trips, Tables.customerCoord] using free, ?_⟩
          rw [← Tables.customerAt_isSome, db, trips]
          simp [Trips.join]
      | deleted kind | prioritized kind | moved kind | enqueued kind => cases kind
      | ignored _ _ kind | silent _ kind | flagged _ _ kind | completed _ kind | pickUpDenied _ kind
      | redirected _ kind => cases kind
      | arrivedIdle kind | arrivedAssigned _ kind => rcases kind with kind | kind <;> cases kind
      | pickedUp _ _ kind => cases kind
      | requestAssigned _ _ _ kind => cases kind
      | completedAssigned _ _ _ _ kind => cases kind

end CentralStep

section Run

variable {session : Uuid} {locations : Table LocationRow.id} {events : List System.Event}

/-- Two acceptances of one customer are separated by its deletion. -/
theorem CentralStep.deleted_between
    (succeeds : ∀ taken ∈ (System.machine session).run (System.start locations) events,
      CentralStep.Succeeds taken) {customer : Id} {earlier middle later : List CentralStep}
    {first second : CentralStep}
    (split : (System.machine session).run (System.start locations) events =
      earlier ++ first :: (middle ++ second :: later))
    (firstAccepts : Accepts session customer first)
    (secondAccepts : Accepts session customer second) :
    ∃ deletion ∈ middle, Deletes session customer deletion := by
  by_contra undeleted
  push Not at undeleted
  have member {taken : CentralStep} (listed : taken ∈ first :: (middle ++ second :: later)) :
      taken ∈ (System.machine session).run (System.start locations) events := by
    rw [split]
    exact List.mem_append_right _ listed
  have firstMember := member List.mem_cons_self
  have secondMember := @member second (by simp)
  obtain ⟨rest, continues⟩ := Machine.run_after split
  have stored := (stored_of_accepts (Machine.run_step firstMember) (succeeds _ firstMember)
    firstAccepts).2
  have stays : (second.before.db.customers.lookup customer).isSome := by
    refine Machine.run_before (fun system => (system.db.customers.lookup customer).isSome)
      continues.symm stored fun taken listed stepped => ?_
    exact customer_stays stepped (succeeds _ (member (by simp [listed]))) (undeleted taken listed)
  rw [(stored_of_accepts (Machine.run_step secondMember) (succeeds _ secondMember)
    secondAccepts).1] at stays
  cases stays

/-- A registration's session is unused where it is consumed. -/
theorem CentralStep.unused_of_run (fresh : System.FreshUuids events) :
    ∀ taken ∈ (System.machine session).run (System.start locations) events,
      ∀ uuid ∈ taken.event.uuid?, taken.before.Unused uuid := by
  refine Machine.run_unused System.Event.uuid? System.Unused ?_ fresh.distinct ?_
  · exact fun taken stepped uuid other unused => unused_of_step stepped other unused
  · intro uuid member
    refine ⟨fun empty => ?_, fun reply told => by cases told⟩
    have held : uuid = [] := empty.symm
    exact fresh.nonempty (held ▸ member)

/-- In a whole run one verdict carries the session of a registration. -/
theorem CentralStep.verdict_once (fresh : System.FreshUuids events)
    (succeeds : ∀ taken ∈ (System.machine session).run (System.start locations) events,
      CentralStep.Succeeds taken) {taken : CentralStep}
    (member : taken ∈ (System.machine session).run (System.start locations) events)
    {request : Message} (asked : taken.request? session = some (request, .newCustomer)) :
    (((System.machine session).run (System.start locations) events).flatMap responses).countP
      (fun reply => reply.isVerdict && decide (reply.session = request.session)) = 1 := by
  have own : taken.event.uuid? = some request.session := by
    rw [uuid?_of_asked asked, if_pos rfl]
  obtain ⟨reply, told, carries, verdict⟩ :=
    replied_of_step (Machine.run_step member) (succeeds taken member) asked
  have judged : reply.isVerdict = true := by
    rcases verdict with ⟨subject, _⟩ | ⟨subject, _⟩ <;> simp [Message.isVerdict, subject]
  obtain ⟨earlier, later, split⟩ := List.append_of_mem member
  have distinct : (((System.machine session).run (System.start locations) events).map
      Transition.event |>.filterMap System.Event.uuid?).Nodup :=
    ((Machine.run_events_prefix _ _).sublist.filterMap _).nodup fresh.distinct
  rw [split, List.map_append, List.map_cons, List.filterMap_append,
    List.filterMap_cons_some own] at distinct
  obtain ⟨_, distinctLater, apart⟩ := List.nodup_append.mp distinct
  have silent (others : List CentralStep)
      (listed : ∀ other ∈ others,
        other ∈ (System.machine session).run (System.start locations) events)
      (elsewhere : request.session ∉
        (others.map Transition.event).filterMap System.Event.uuid?) :
      (others.flatMap responses).countP
        (fun reply => reply.isVerdict && decide (reply.session = request.session)) = 0 := by
    rw [List.countP_eq_zero]
    intro reply told matching
    obtain ⟨other, among, answered⟩ := List.mem_flatMap.mp told
    simp only [Bool.and_eq_true, decide_eq_true_eq] at matching
    have registered := uuid_of_verdict (Machine.run_step (listed other among))
      (succeeds other (listed other among)) answered matching.1
    refine elsewhere (List.mem_filterMap.mpr ⟨other.event, List.mem_map_of_mem among, ?_⟩)
    rw [registered, matching.2]
  rw [split, List.flatMap_append, List.flatMap_cons, List.countP_append, List.countP_append, told,
    silent earlier, silent later]
  · simp [judged, carries]
  · exact fun other among => split ▸ by simp [among]
  · exact (List.nodup_cons.mp distinctLater).1
  · exact fun other among => split ▸ by simp [among]
  · exact fun among => apart _ among _ List.mem_cons_self rfl

/-- Each registration is answered by one verdict, which is the first response to carry its session:
it accepts the customer exactly when it is not stored, and a denial changes nothing. Two acceptances
of one customer are separated by its deletion. Central dies of no registration. -/
theorem registration_exclusive (fresh : System.FreshUuids events)
    (succeeds : ∀ taken ∈ (System.machine session).run (System.start locations) events,
      CentralStep.Succeeds taken) :
    (∀ taken ∈ (System.machine session).run (System.start locations) events,
      ∀ now request outages, taken.event = .request now request outages →
        request.subject = .request .newCustomer →
        CentralStep.Registers taken request ∧
        (((System.machine session).run (System.start locations) events).flatMap
          CentralStep.responses).countP
            (fun reply => reply.isVerdict && decide (reply.session = request.session)) = 1) ∧
      (∀ customer earlier first middle second later,
        (System.machine session).run (System.start locations) events =
            earlier ++ first :: (middle ++ second :: later) →
          CentralStep.Accepts session customer first →
          CentralStep.Accepts session customer second →
          ∃ deletion ∈ middle, CentralStep.Deletes session customer deletion) ∧
      ∀ system now request outages, request.subject = .request .newCustomer →
        ((System.machine session).step system (.request now request outages)).isSome := by
  refine ⟨fun taken member now request outages event subject => ?_,
    fun customer earlier first middle second later split firstAccepts secondAccepts =>
      CentralStep.deleted_between succeeds split firstAccepts secondAccepts,
    fun system now request outages subject => ?_⟩
  · have asked : CentralStep.request? session taken = some (request, .newCustomer) := by
      simp [CentralStep.request?, event, CentralStep.accepted_newCustomer subject]
    have own : taken.event.uuid? = some request.session := by
      rw [CentralStep.uuid?_of_asked asked, if_pos rfl]
    have answered := CentralStep.replied_of_step (Machine.run_step member) (succeeds taken member) asked
    exact ⟨⟨answered, (CentralStep.unused_of_run fresh taken member _ own).carried⟩,
      CentralStep.verdict_once fresh succeeds member asked⟩
  · obtain ⟨outcome, ended⟩ := @KafkaServer.process_newCustomer_ends now session request
      ⟨system.db, outages, system.response⟩ subject
    change (System.step session system (.request now request outages)).isSome
    simp [System.step, ended]

end Run

/-- Two customers ask for one identifier, one after the other, and a third one after it is free. -/
def rivals : List System.Event :=
  let ask (uuid : Uuid) := Town.consume { Message.request uuid.1 .newCustomer with id := 65 }
  [ask (Sized.fill 36 49), ask (Sized.fill 36 50),
    Town.consume { Message.request [] .orderCustomerDisconnect with id := 65 },
    ask (Sized.fill 36 51)]

/-- The second of two rival customers is answered as it should be. -/
theorem registration_exclusive_rivals :
    ∃ taken ∈ Town.run rivals, ∃ request : Message, request.session = (Sized.fill 36 50).1 ∧
      CentralStep.Registers taken request := by
  have fresh : System.FreshUuids rivals := ⟨by decide +kernel, by decide +kernel⟩
  have succeeds : ∀ taken ∈ Town.run rivals, CentralStep.Succeeds taken := by decide +kernel
  obtain ⟨taken, member, own⟩ : ∃ taken ∈ Town.run rivals,
      taken.event.uuid? = some (Sized.fill 36 50).1 := by decide +kernel
  cases event : taken.event with
  | addTaxi => simp [event, System.Event.uuid?] at own
  | request now request outages =>
      simp only [event, System.Event.uuid?, Option.ite_none_right_eq_some, Option.some.injEq] at own
      exact ⟨taken, member, request, own.2, ((registration_exclusive fresh succeeds).1 taken member now
        request outages event own.1).1⟩

end EasyCab
