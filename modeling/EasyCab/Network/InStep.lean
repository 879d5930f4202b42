import EasyCab.Network.Fleet

/-!
# Replies and the requests which they end

A response on which `askService` returns names the customer, and nothing says which service
request it ends. `replies_in_step` says when this does no harm: as long as Central ends no request
a second time, every reply which the customer takes for the end of its latest request is that.
-/

namespace EasyCab

open Library

namespace Fleet

/-- The responses among some on which `askService` of the customer returns true. -/
def endings (id : Id) (notices : List Notice) : List Notice :=
  notices.filter fun notice => notice.message.answers id

/-- Central has already ended the service request with this number. -/
def Ended (fleet : Fleet) (id : Id) (number : Nat) : Prop :=
  ∃ notice ∈ fleet.responses, notice.message.answers id = true ∧ notice.number = some number

instance (fleet : Fleet) (id : Id) (number : Nat) : Decidable (fleet.Ended id number) := by
  unfold Ended
  infer_instance

end Fleet

/-- The index of the service for whose end the customer waits. -/
def EcCustomer.awaited? (customer : EcCustomer) : Option Nat :=
  match customer.errand with
  | .waiting index => some index
  | _ => none

namespace FleetStep

/-- Every query of the step succeeds. -/
def Succeeds (session : Uuid) (taken : FleetStep) : Prop :=
  match taken.event with
  | .request now outages beyond =>
      ∀ notice ∈ taken.before.requests.head?,
        ∀ act ∈ (KafkaServer.process now session (notice.message.read beyond).1).acts
          ⟨taken.before.db, outages, taken.before.response⟩, ¬ act.IsFailure
  | .register now taxiId reconnect outages =>
      (AuthServer.addTaxi now session taxiId reconnect outages taken.before.db).failures = []
  | _ => True

/-- A taxi which arrives is under way for no service request of the customer which has ended. -/
def ArrivesOpen (session : Uuid) (id : Id) (taken : FleetStep) : Prop :=
  match taken.event with
  | .request _ _ beyond =>
      ∀ notice ∈ taken.before.requests.head?,
        KafkaServer.accepted? session (notice.message.read beyond).1 =
            some .taxiDestinationReached →
          ∀ number ∈ taken.before.ledger.arriving? id taken.before.db.toTables
              notice.message.taxiId, ¬ taken.before.Ended id number
  | _ => True

/-- Where `askService` returns true, the response ends the service request which it sent. -/
def ReturnsInStep (taken : FleetStep) : Prop :=
  match taken.event with
  | .listen _ =>
      ∀ customer ∈ taken.before.customer, ∀ index ∈ customer.awaited?,
        ∀ next ∈ taken.after.customer, next.errand = .counting index 4 →
          ∀ notice ∈ taken.before.responses[taken.before.position]?, notice.number = some index
  | _ => True

instance (session : Uuid) (taken : FleetStep) : Decidable (taken.Succeeds session) := by
  unfold Succeeds
  split <;> infer_instance

instance (session : Uuid) (id : Id) (taken : FleetStep) : Decidable (taken.ArrivesOpen session id) := by
  unfold ArrivesOpen
  split <;> infer_instance

instance (taken : FleetStep) : Decidable taken.ReturnsInStep := by
  unfold ReturnsInStep
  split <;> infer_instance

end FleetStep

/-! ### The pace of the customer -/

/-- How many service requests were sent, and how many of their ends consumed, where the main thread
is. -/
def Errand.Pace (asked heard : Nat) : Errand → Prop
  | .greeting | .shaking _ => asked = 0
  | .asking index => asked = index ∧ heard = index
  | .waiting index => asked = index + 1 ∧ heard = index
  | .counting index _ => asked = index + 1 ∧ heard = index + 1
  | .ended => True

namespace EcCustomer

/-- The customer keeps its pace, and sends no service request again by mistake. -/
structure Paced (customer : EcCustomer) (id : Id) (asked heard : Nat) : Prop where
  named : customer.request.1.id = id
  greets : customer.errand = .greeting → Fleet.asks id customer.request.1 = false
  counts : ∀ index j, customer.errand = .counting index j → Fleet.asks id customer.request.1 = false
  pace : customer.errand.Pace asked heard

variable {customer next : EcCustomer} {id : Id} {asked heard : Nat} {sent : List FullMessage}

theorem Paced.start {coord : Coordinate} {uuid : Uuid} {services : Option (List Id)} :
    (EcCustomer.start id coord uuid services).Paced id 0 heard :=
  ⟨rfl, fun _ => by simp [Fleet.asks, EcCustomer.start, Message.request],
    by simp [EcCustomer.start], rfl⟩

theorem awaited?_eq_some_iff {index : Nat} :
    customer.awaited? = some index ↔ customer.errand = .waiting index := by
  unfold awaited?
  cases customer.errand <;> simp

/-- `askService` returns true exactly on what ends a service request of the customer. -/
theorem askService_cases {message : FullMessage} {index : Nat} :
    message.1.answers customer.request.1.id = true ∧
        customer.askService index (some message) =
          { customer with
            request := ⟨{ customer.request.1 with
              subject := .request .customerUpdateNextRequest }, customer.request.2⟩
            errand := .counting index 4 } ∨
      message.1.answers customer.request.1.id = false ∧
        (customer.askService index (some message) = customer ∨
          customer.askService index (some message) = { customer with errand := .ended }) := by
  by_cases named : message.1.id = customer.request.1.id
  · cases told : message.1.subject with
    | response subject =>
        have heard : response? message = some subject := by simp [response?, told]
        cases subject <;>
          simp [askService, named, heard, Message.answers, told]
    | _ =>
        have unheard : response? message = none := by simp [response?, told]
        exact .inr ⟨by simp [Message.answers, told], .inl (by simp [askService, named, unheard])⟩
  · refine .inr ⟨by simp [Message.answers, named], .inl ?_⟩
    simp [askService, named]

/-- What the customer consumes keeps its pace; while it waits for an end, it goes on exactly where
it consumes one. -/
theorem Paced.consume (paced : customer.Paced id asked heard) {message : FullMessage}
    (fresh : asked = 0 → heard = 0 ∧ message.1.answers id = false)
    (turned : customer.turn (.consume (some message)) = some (next, sent)) :
    sent = [] ∧ next.Paced id asked (heard + if message.1.answers id then 1 else 0) ∧
      ∀ index ∈ customer.awaited?, next.errand = .counting index 4 →
        message.1.answers id = true ∧ heard = index := by
  obtain ⟨rfl, greets, counts, pace⟩ := paced
  simp only [EcCustomer.turn] at turned
  split at turned
  · next i shaking =>
    cases turned
    rw [shaking] at pace
    obtain ⟨unheard, open_⟩ := fresh pace
    refine ⟨rfl, ?_, fun index awaits => ?_⟩
    · rw [if_neg (by simp [open_])]
      simp only [handshake]
      split
      · exact ⟨rfl, greets, counts, by rw [shaking]; exact pace⟩
      · split
        · refine ⟨rfl, fun asks => ?_, fun index j asks => ?_, ?_⟩
          · simp only at asks
            split at asks <;> cases asks
          · simp only at asks
            split at asks <;> cases asks
          · simp only
            split
            · exact ⟨pace, unheard⟩
            · trivial
        · exact ⟨rfl, by simp, by simp, trivial⟩
    · rw [Option.mem_def, awaited?_eq_some_iff, shaking] at awaits
      cases awaits
  · next index waiting =>
    cases turned
    rw [waiting] at pace
    refine ⟨rfl, ?_, fun other awaits returns => ?_⟩
    · rcases askService_cases with ⟨ends, returned⟩ | ⟨open_, stays | leaves⟩
      · rw [returned, if_pos ends]
        refine ⟨rfl, by simp, fun _ _ _ => ?_, pace.1, congrArg (· + 1) pace.2⟩
        simp [Fleet.asks]
      · rw [stays, if_neg (by simp [open_])]
        exact ⟨rfl, greets, counts, by rw [waiting]; exact pace⟩
      · rw [leaves, if_neg (by simp [open_])]
        exact ⟨rfl, by simp, by simp, trivial⟩
    · rw [Option.mem_def, awaited?_eq_some_iff, waiting, Errand.waiting.injEq] at awaits
      subst awaits
      rcases askService_cases with ⟨ends, _⟩ | ⟨_, stays | leaves⟩
      · exact ⟨ends, pace.2⟩
      · rw [stays, waiting] at returns
        cases returns
      · rw [leaves] at returns
        cases returns
  · cases turned

/-- What the customer does of itself keeps its pace: it sends no service request, or the next one
after the end of the latest. -/
theorem Paced.turn (paced : customer.Paced id asked heard) {event : Event}
    (deaf : ∀ message, event ≠ .consume (some message))
    (turned : customer.turn event = some (next, sent)) :
    (∀ message ∈ sent, Fleet.asks id message.1 = false) ∧ next.Paced id asked heard ∨
      ∃ request, sent = [request] ∧ Fleet.asks id request.1 = true ∧ heard = asked ∧
        next.Paced id (asked + 1) heard := by
  obtain ⟨rfl, greets, counts, pace⟩ := paced
  cases event with
  | consume message =>
      cases message with
      | none =>
          simp only [EcCustomer.turn] at turned
          split at turned
          · next i shaking =>
            cases turned
            rw [shaking] at pace
            refine .inl ⟨List.forall_mem_nil _, rfl, ?_, ?_, ?_⟩ <;> simp only [handshake]
            · split <;> simp
            · split <;> simp
            · split
              · exact pace
              · trivial
          · cases turned
            exact .inl ⟨List.forall_mem_nil _, rfl, greets, counts, pace⟩
          · cases turned
      | some message => exact absurd rfl (deaf message)
  | ping =>
      simp only [EcCustomer.turn, EcCustomer.ping] at turned
      split at turned
      all_goals cases turned
      all_goals
        refine .inl ⟨?_, rfl, greets, counts, pace⟩
        simp [Fleet.asks, Message.request]
  | proceed =>
      simp only [EcCustomer.turn, EcCustomer.proceed] at turned
      split at turned
      · next greeting =>
        cases turned
        rw [greeting] at pace
        refine .inl ⟨?_, rfl, by simp, by simp, pace⟩
        simpa using greets greeting
      · next index asking =>
        rw [asking] at pace
        split at turned
        · cases turned
          exact .inl ⟨List.forall_mem_nil _, rfl, by simp, by simp, trivial⟩
        · cases turned
          refine .inr ⟨_, rfl, by simp [Fleet.asks, Message.setCharData], pace.2.trans pace.1.symm,
            rfl, by simp, by simp, ?_⟩
          exact ⟨congrArg (· + 1) pace.1, pace.2⟩
      · next index j counting =>
        rw [counting] at pace
        have silent := counts index j counting
        split at turned
        · cases turned
          exact .inl ⟨List.forall_mem_nil _, rfl, by simp, by simp, pace⟩
        · cases turned
          refine .inl ⟨?_, rfl, by simp, fun _ _ _ => ?_, pace⟩
          · simpa [Fleet.asks, Message.setIntData] using silent
          · simpa [Fleet.asks, Message.setIntData] using silent
      · cases turned
      · cases turned
      · cases turned

end EcCustomer

namespace Fleet

variable {session : Uuid} {id : Id} {fleet next : Fleet}

/-! ### What Central answers -/

theorem endings_append {first second : List Notice} :
    endings id (first ++ second) = endings id first ++ endings id second :=
  List.filter_append ..

/-- Acts which answer nobody put no end on `responses`. -/
theorem endings_of_unanswered {acts : List Act} {mark : Option Nat}
    (unanswered : Unanswered id acts) :
    endings id ((Network.responsesOf acts).map fun message => ⟨message, mark⟩) = [] := by
  refine List.filter_eq_nil_iff.mpr fun notice member => ?_
  obtain ⟨message, produced, rfl⟩ := List.mem_map.mp member
  simpa using unanswered message (Network.mem_responsesOf_iff.mp produced)

/-- A message which Central consumes leaves the ledger right, and ends the request of the customer
for which an arriving taxi is under way, or none. -/
theorem consumed {now : Timestamp} {outages : List Bool} {request : Message} {number : Option Nat}
    {outcome : Outcome KafkaServer Act Unit}
    (covers : fleet.ledger.Covers id fleet.db.toTables)
    (ran : KafkaServer.process now session request ⟨fleet.db, outages, fleet.response⟩ = .ok outcome)
    (clean : ∀ act ∈ outcome.acts, ¬ act.IsFailure)
    (numbered : asks id request = true → number.isSome) :
    (fleet.noted session id request number).Covers id outcome.state.db.toTables ∧
      (endings id ((Network.responsesOf outcome.acts).map fun message =>
          ⟨message, fleet.serving? session id request number⟩) = [] ∨
        ∃ answer own, endings id ((Network.responsesOf outcome.acts).map fun message =>
            ⟨message, fleet.serving? session id request number⟩) = [⟨answer, some own⟩] ∧
          KafkaServer.accepted? session request = some .taxiDestinationReached ∧
          own ∈ fleet.ledger.arriving? id fleet.db.toTables request.taxiId) := by
  cases accepted : KafkaServer.accepted? session request with
  | none =>
      rw [KafkaServer.process_dropped accepted ran]
      exact ⟨by simpa [noted, accepted] using covers, .inl rfl⟩
  | some subject =>
      have asked := KafkaServer.subject_of_accepted accepted
      obtain ⟨handled, acts, maps, _, treated, rfl⟩ := KafkaServer.process_yields accepted ⟨ran, clean⟩
      have produced : Network.responsesOf (.handled request :: (acts ++ maps.map .publishMap)) =
          Network.responsesOf acts := by
        simp [Network.responsesOf, List.filterMap_append, List.filterMap_map]
      have own : subject = .customerServiceRequest → request.id = id → number.isSome := by
        rintro rfl named
        exact numbered (by simp [asks, named, asked])
      refine ⟨by simpa [noted, accepted] using covers.note asked treated own, ?_⟩
      simp only [produced]
      rcases (treated.tripStep asked).answers_cases id with
        unanswered | ⟨answer, later, rfl, rest, answers, rfl, serves⟩
      · exact .inl (endings_of_unanswered unanswered)
      · obtain ⟨own, arrives⟩ := Option.isSome_iff_exists.mp (covers.arriving serves)
        refine .inr ⟨answer, own, ?_, rfl, arrives⟩
        have mark : fleet.serving? session id request number = some own := by
          simp [serving?, accepted, Ledger.serving?, arrives]
        have quiet : endings id ((Network.responsesOf later).map fun message =>
            ⟨message, some own⟩) = [] := endings_of_unanswered rest
        have first : Network.responsesOf (.produce answer :: later) =
          answer :: Network.responsesOf later := rfl
        rw [mark, first, List.map_cons, endings, List.filter_cons_of_pos (by exact answers)]
        exact congrArg (_ :: ·) quiet

/-! ### The invariant -/

/-- How many service requests of the customer Central has ended. -/
def ends (fleet : Fleet) (id : Id) : Nat := (endings id fleet.responses).length

/-- How many ends of its services the customer has consumed. -/
def heard (fleet : Fleet) (id : Id) : Nat :=
  (endings id (fleet.responses.take fleet.position)).length

/-- The service requests which Central has still to consume. -/
def pending (fleet : Fleet) : List Nat := fleet.requests.filterMap (·.number)

/-- Central ends the service requests one by one, in the order in which the customer sends them. A
request which is on its way is the next to be ended, and all that Central knows of is earlier. -/
structure InStep (fleet : Fleet) (id : Id) : Prop where
  covers : fleet.ledger.Covers id fleet.db.toTables
  before : fleet.ledger.Before fleet.asked
  numbered : ∀ notice ∈ fleet.requests, asks id notice.message = true → notice.number.isSome
  pending : fleet.pending = [] ∨
    fleet.pending = [fleet.ends id] ∧ fleet.ends id < fleet.asked ∧ fleet.ledger.Before (fleet.ends id)
  ended : (endings id fleet.responses).map (·.number) = (List.range (fleet.ends id)).map some
  within : fleet.ends id ≤ fleet.asked ∧ fleet.asked ≤ fleet.ends id + 1
  position : fleet.position ≤ fleet.responses.length
  absent : fleet.customer = none → fleet.asked = 0
  paced : ∀ customer ∈ fleet.customer, customer.Paced id fleet.asked (fleet.heard id)

/-- The customer has consumed no more ends than there are. -/
theorem heard_le_ends : fleet.heard id ≤ fleet.ends id :=
  ((List.take_sublist _ _).filter _).length_le

/-- The requests which have ended are the first ones. -/
theorem InStep.ended_iff (inStep : fleet.InStep id) {number : Nat} :
    fleet.Ended id number ↔ number < fleet.ends id := by
  have listed : some number ∈ (endings id fleet.responses).map (·.number) ↔
      fleet.Ended id number := by
    simp [endings, Ended, and_assoc]
  rw [← listed, inStep.ended]
  simp

/-- The end which the customer consumes after some others is that of the next request. -/
theorem InStep.next_end (inStep : fleet.InStep id) {notice : Notice}
    (waiting : fleet.responses[fleet.position]? = some notice)
    (answers : notice.message.answers id = true) : notice.number = some (fleet.heard id) := by
  obtain ⟨within, rfl⟩ := List.getElem?_eq_some_iff.mp waiting
  have rest : endings id (fleet.responses.drop fleet.position) =
      fleet.responses[fleet.position] :: endings id (fleet.responses.drop (fleet.position + 1)) := by
    rw [List.drop_eq_getElem_cons within]
    exact List.filter_cons_of_pos (by exact answers)
  have parted : endings id fleet.responses = endings id (fleet.responses.take fleet.position) ++
      fleet.responses[fleet.position] :: endings id (fleet.responses.drop (fleet.position + 1)) := by
    rw [← rest, ← endings_append, List.take_append_drop]
  have here : (endings id fleet.responses)[fleet.heard id]? = some fleet.responses[fleet.position] := by
    rw [parted, heard, List.getElem?_append_right (Nat.le_refl _)]
    simp
  have read := congrArg (·[fleet.heard id]?) inStep.ended
  have known : fleet.heard id < fleet.ends id := (List.getElem?_eq_some_iff.mp here).1
  simpa [here, known] using read

/-! ### One step -/

/-- Messages which are no service requests of the customer stay in step. -/
theorem InStep.sends (inStep : fleet.InStep id) {db : Db} {cabs : Nat → Option Cab}
    {notices : List Notice} (covers : fleet.ledger.Covers id db.toTables)
    (silent : ∀ notice ∈ notices, notice.number = none ∧ asks id notice.message = false) :
    InStep { fleet with db := db, cabs := cabs, requests := fleet.requests ++ notices } id := by
  have unnumbered : notices.filterMap (·.number) = [] :=
    List.filterMap_eq_nil_iff.mpr fun notice member => (silent notice member).1
  have same : (fleet.requests ++ notices).filterMap (·.number) = fleet.pending := by
    rw [List.filterMap_append, unnumbered, List.append_nil]
    rfl
  refine ⟨covers, inStep.before, fun notice member asked => ?_, ?_, inStep.ended, inStep.within,
    inStep.position, inStep.absent, inStep.paced⟩
  · rcases List.mem_append.mp member with old | new
    · exact inStep.numbered notice old asked
    · rw [(silent notice new).2] at asked
      cases asked
  · simp only [Fleet.pending, same]
    exact inStep.pending

/-- A turn of a taxi stays in step. -/
theorem InStep.turned (inStep : fleet.InStep id) {process : Nat} {cab : Cab} {taxi after : EcDe}
    {event : EcDe.Event} {acts : List EcDe.Act} (turned : taxi.turn event = some (after, acts)) :
    (fleet.turned process cab acts).InStep id := by
  refine inStep.sends inStep.covers fun notice member => ?_
  obtain ⟨sent, produced, rfl⟩ := List.mem_map.mp member
  exact ⟨rfl, EcDe.turn_asks_nothing turned sent produced⟩

/-- The authentication server stays in step. -/
theorem InStep.register (inStep : fleet.InStep id) (now : Timestamp) (taxiId : TaxiId)
    (reconnect : Bool) (outages : List Bool)
    (clean : (AuthServer.addTaxi now session taxiId reconnect outages fleet.db).failures = []) :
    InStep
      { fleet with
        db := (AuthServer.addTaxi now session taxiId reconnect outages fleet.db).db
        requests := fleet.requests ++
          (AuthServer.addTaxi now session taxiId reconnect outages fleet.db).value.toList.map
            fun message => ⟨message, none⟩ } id := by
  obtain ⟨stored, announced⟩ := AuthServer.addTaxi_clean clean
  refine inStep.sends (inStep.covers.added stored) fun notice member => ?_
  rw [announced] at member
  obtain rfl := List.mem_singleton.mp member
  refine ⟨rfl, EcDe.asks_of_subject rfl ?_⟩
  cases reconnect <;> decide

/-- A customer which keeps its pace and sends no service request stays in step. -/
theorem InStep.spoke (inStep : fleet.InStep id) {position : Nat} {after : EcCustomer}
    {sent : List FullMessage} (within : position ≤ fleet.responses.length)
    (silent : ∀ message ∈ sent, asks id message.1 = false)
    (paced : after.Paced id fleet.asked ({ fleet with position := position }.heard id)) :
    ({ fleet with position := position }.spoke id after sent).InStep id := by
  have quiet : ∀ notice ∈ sent.map fun message : FullMessage =>
      (⟨message.1, if asks id message.1 then some fleet.asked else none⟩ : Notice),
      notice.number = none ∧ asks id notice.message = false := by
    intro notice member
    obtain ⟨message, told, rfl⟩ := List.mem_map.mp member
    exact ⟨by simp [silent message told], silent message told⟩
  have unasked : sent.countP (fun message => asks id message.1) = 0 :=
    List.countP_eq_zero.mpr (by simpa using silent)
  have still : InStep { fleet with requests := fleet.requests ++ _ } id :=
    inStep.sends inStep.covers quiet
  simp only [Fleet.spoke, unasked, Nat.add_zero]
  refine ⟨still.covers, still.before, still.numbered, still.pending, still.ended, still.within,
    within, by simp, ?_⟩
  rintro customer ⟨⟩
  exact paced

/-- A customer which keeps its pace and sends the next service request after the end of the latest
stays in step. -/
theorem InStep.askNext (inStep : fleet.InStep id) {after : EcCustomer} {request : FullMessage}
    (asked : Fleet.asks id request.1 = true) (due : fleet.heard id = fleet.asked)
    (paced : after.Paced id (fleet.asked + 1) (fleet.heard id)) :
    (fleet.spoke id after [request]).InStep id := by
  obtain ⟨below, above⟩ := inStep.within
  have all : fleet.ends id = fleet.asked := by
    have consumed : fleet.heard id ≤ fleet.ends id := heard_le_ends
    omega
  have none : fleet.pending = [] := by
    rcases inStep.pending with none | ⟨_, open_, _⟩
    · exact none
    · omega
  have numbered : ∀ notice ∈ fleet.requests ++ [⟨request.1, some fleet.asked⟩],
      Fleet.asks id notice.message = true → notice.number.isSome := by
    intro notice member named
    rcases List.mem_append.mp member with old | new
    · exact inStep.numbered notice old named
    · rw [List.mem_singleton.mp new]
      rfl
  have pending : (fleet.requests ++ [Notice.mk request.1 (some fleet.asked)]).filterMap (·.number) =
      [fleet.ends id] := by
    rw [List.filterMap_append, all]
    exact congrArg (· ++ [fleet.asked]) none
  simp only [Fleet.spoke, List.map_singleton, asked, if_true, List.countP_singleton]
  refine ⟨inStep.covers, inStep.before.mono (Nat.le_succ _), numbered, .inr ⟨pending, ?_, ?_⟩,
    inStep.ended, ⟨?_, ?_⟩, inStep.position, by simp, ?_⟩
  · exact Nat.lt_succ_of_le below
  · exact all.symm ▸ inStep.before
  · exact Nat.le_succ_of_le below
  · exact Nat.succ_le_succ (Nat.le_of_eq all.symm)
  · rintro customer ⟨⟩
    exact paced

/-- The customer which consumes a response stays in step. -/
theorem InStep.listen (inStep : fleet.InStep id) {beyond : Beyond} {customer after : EcCustomer}
    {notice : Notice} {sent : List FullMessage} (present : fleet.customer = some customer)
    (waiting : fleet.responses[fleet.position]? = some notice)
    (turned : customer.turn (.consume (some (notice.message.read beyond))) = some (after, sent)) :
    ({ fleet with position := fleet.position + 1 }.spoke id after sent).InStep id ∧
      ∀ index ∈ customer.awaited?, after.errand = .counting index 4 →
        notice.number = some index := by
  have same : (notice.message.read beyond).1.answers id = notice.message.answers id := by
    simp [Message.answers]
  obtain ⟨within, read⟩ := List.getElem?_eq_some_iff.mp waiting
  have grows : { fleet with position := fleet.position + 1 }.heard id =
      fleet.heard id + if notice.message.answers id then 1 else 0 := by
    simp only [heard, List.take_add_one, waiting, Option.toList_some, endings_append,
      List.length_append]
    simp only [endings, List.filter_cons, List.filter_nil]
    cases notice.message.answers id <;> rfl
  have fresh : fleet.asked = 0 →
      fleet.heard id = 0 ∧ (notice.message.read beyond).1.answers id = false := by
    intro unasked
    have unended : endings id fleet.responses = [] :=
      List.eq_nil_of_length_eq_zero (Nat.le_zero.mp (unasked ▸ inStep.within.1))
    refine ⟨Nat.le_zero.mp (Nat.le_trans heard_le_ends (by simp [ends, unended])), ?_⟩
    rw [same]
    simpa using List.filter_eq_nil_iff.mp unended notice (List.mem_of_getElem? waiting)
  obtain ⟨rfl, paced, returns⟩ := (inStep.paced customer present).consume fresh turned
  refine ⟨inStep.spoke within (List.forall_mem_nil _) ?_, fun index awaits returned => ?_⟩
  · rwa [grows, ← same]
  · obtain ⟨ends, known⟩ := returns index awaits returned
    rw [inStep.next_end waiting (same ▸ ends), known]

/-- The notes which Central makes are of the consumed request or of earlier ones. -/
theorem noted_before {bound : Nat} (before : fleet.ledger.Before bound) {request : Message}
    {number : Option Nat} (counted : ∀ own ∈ number, own < bound) :
    (fleet.noted session id request number).Before bound := by
  unfold noted
  cases KafkaServer.accepted? session request with
  | none => exact before
  | some subject => exact before.note counted

/-- The consumed request was the one on its way, or was none and leaves it there. -/
theorem InStep.consumes (inStep : fleet.InStep id) {notice : Notice} {requests : List Notice}
    (waiting : fleet.requests = notice :: requests) :
    (requests.filterMap (·.number) = [] ∧
        (notice.number = none ∨ notice.number = some (fleet.ends id) ∧ fleet.ends id < fleet.asked ∧
          fleet.ledger.Before (fleet.ends id))) ∨
      requests.filterMap (·.number) = [fleet.ends id] ∧ notice.number = none ∧
        fleet.ends id < fleet.asked ∧ fleet.ledger.Before (fleet.ends id) := by
  have pending := inStep.pending
  unfold Fleet.pending at pending
  rw [waiting] at pending
  cases number : notice.number with
  | none =>
      rw [List.filterMap_cons_none number] at pending
      rcases pending with empty | ⟨only, open_, before⟩
      · exact .inl ⟨empty, .inl rfl⟩
      · exact .inr ⟨only, rfl, open_, before⟩
  | some own =>
      rw [List.filterMap_cons_some number] at pending
      rcases pending with empty | ⟨only, open_, before⟩
      · cases empty
      · obtain ⟨rfl, empty⟩ := List.cons.inj only
        exact .inl ⟨empty, .inr ⟨rfl, open_, before⟩⟩

/-- What Central consumes stays in step, if it ends no service request again. -/
theorem InStep.request (inStep : fleet.InStep id) {now : Timestamp} {outages : List Bool}
    {notice : Notice} {requests : List Notice} {request : Message}
    {outcome : Outcome KafkaServer Act Unit} (waiting : fleet.requests = notice :: requests)
    (asked : asks id request = asks id notice.message)
    (ran : KafkaServer.process now session request ⟨fleet.db, outages, fleet.response⟩ = .ok outcome)
    (clean : ∀ act ∈ outcome.acts, ¬ act.IsFailure)
    (opened : KafkaServer.accepted? session request = some .taxiDestinationReached →
      ∀ number ∈ fleet.ledger.arriving? id fleet.db.toTables request.taxiId,
        ¬ fleet.Ended id number) :
    InStep
      { fleet with
        db := outcome.state.db
        response := outcome.state.response
        ledger := fleet.noted session id request notice.number
        requests := requests
        responses := fleet.responses ++ (Network.responsesOf outcome.acts).map fun message =>
          ⟨message, fleet.serving? session id request notice.number⟩ } id := by
  have rest : ∀ other ∈ requests, other ∈ fleet.requests := by
    rw [waiting]
    exact fun _ member => List.mem_cons_of_mem _ member
  have first : notice ∈ fleet.requests := waiting ▸ List.mem_cons_self
  obtain ⟨covers, answered⟩ := consumed inStep.covers ran clean fun asks =>
    inStep.numbered notice first (asked ▸ asks)
  obtain ⟨below, above⟩ := inStep.within
  have numbered := fun other member => inStep.numbered other (rest other member)
  have longer (more : List Notice) : fleet.position ≤ (fleet.responses ++ more).length := by
    have within := inStep.position
    simp only [List.length_append]
    omega
  have heard (more : List Notice) : endings id ((fleet.responses ++ more).take fleet.position) =
      endings id (fleet.responses.take fleet.position) := by
    rw [List.take_append_of_le_length inStep.position]
  have paced (more : List Notice) : ∀ customer ∈ fleet.customer, customer.Paced id fleet.asked
      (endings id ((fleet.responses ++ more).take fleet.position)).length := by
    rw [heard more]
    exact inStep.paced
  rcases answered with silent | ⟨answer, own, ends, accepted, arrives⟩
  · -- Nothing ends, and what was on its way is noted or still there.
    have same : endings id (fleet.responses ++ (Network.responsesOf outcome.acts).map fun message =>
        ⟨message, fleet.serving? session id request notice.number⟩) =
          endings id fleet.responses := by
      rw [endings_append, silent, List.append_nil]
    have counted : ∀ own ∈ notice.number, own < fleet.asked := by
      intro own number
      rcases inStep.consumes waiting with ⟨_, none | ⟨some, open_, _⟩⟩ | ⟨_, none, _⟩
      · cases none.symm.trans number
      · exact Option.some.inj (some.symm.trans number) ▸ open_
      · cases none.symm.trans number
    refine ⟨covers, noted_before inStep.before counted, numbered, ?_, ?_, ?_, longer _, inStep.absent,
      paced _⟩ <;> simp only [Fleet.pending, Fleet.ends, same]
    · rcases inStep.consumes waiting with ⟨empty, _⟩ | ⟨only, none, open_, before⟩
      · exact .inl empty
      · refine .inr ⟨only, open_, noted_before before fun own number => ?_⟩
        cases none.symm.trans number
    · exact inStep.ended
    · exact ⟨below, above⟩
  · -- The request which ends is open, so it is the latest one and no other is on its way.
    have fresh : ¬ own < fleet.ends id := fun ended =>
      opened accepted own arrives (inStep.ended_iff.mpr ended)
    have known : own < fleet.asked := inStep.before.arriving own arrives
    have latest : own = fleet.ends id ∧ fleet.asked = fleet.ends id + 1 := by omega
    have drained : requests.filterMap (·.number) = [] ∧ notice.number = none := by
      rcases inStep.consumes waiting with ⟨empty, none | ⟨_, _, before⟩⟩ | ⟨_, _, _, before⟩
      · exact ⟨empty, none⟩
      · exact absurd (before.arriving own arrives) fresh
      · exact absurd (before.arriving own arrives) fresh
    have one : endings id (fleet.responses ++ (Network.responsesOf outcome.acts).map fun message =>
        ⟨message, fleet.serving? session id request notice.number⟩) =
          endings id fleet.responses ++ [⟨answer, some own⟩] := by
      rw [endings_append, ends]
    refine ⟨covers, noted_before inStep.before fun own number => ?_, numbered, .inl drained.1, ?_, ?_,
      longer _, inStep.absent, paced _⟩
    · cases drained.2.symm.trans number
    · simp only [Fleet.ends, one, List.map_append, inStep.ended, List.length_append,
        List.length_singleton, List.range_succ, latest.1]
      rfl
    · simp only [Fleet.ends, one, List.length_append, List.length_singleton]
      have total : (endings id fleet.responses).length = fleet.ends id := rfl
      omega

/-- Before the first request all is in step. -/
theorem InStep.initial {locations : Table LocationRow.id} : (Fleet.initial locations).InStep id where
  covers := Ledger.blank_covers
  before := by constructor <;> simp [Fleet.initial, Ledger.blank]
  numbered := List.forall_mem_nil _
  pending := .inl rfl
  ended := rfl
  within := ⟨Nat.le_refl _, Nat.zero_le _⟩
  position := Nat.le_refl _
  absent _ := rfl
  paced := by simp [Fleet.initial]

/-- Every step in which no query fails and no taxi arrives for a request which has ended stays in
step. -/
theorem InStep.step {event : Event} (inStep : fleet.InStep id)
    (stepped : Stepped session id fleet event next)
    (succeeds : FleetStep.Succeeds session ⟨fleet, event, next⟩)
    (opened : FleetStep.ArrivesOpen session id ⟨fleet, event, next⟩) : next.InStep id := by
  cases stepped with
  | post other =>
      refine inStep.sends inStep.covers fun notice member => ?_
      rw [List.mem_singleton.mp member]
      exact ⟨rfl, other⟩
  | @request now outages beyond notice requests request outcome waiting read ran =>
      subst read
      have head : notice ∈ fleet.requests.head? := by
        rw [waiting]
        rfl
      refine inStep.request waiting (by simp [asks]) ran (fun act member => ?_) fun arrives => ?_
      · apply succeeds notice head act
        rw [Effect.acts, ran]
        exact member
      · simpa using opened notice head arrives
  | register now taxiId reconnect outages ran =>
      subst ran
      exact inStep.register now taxiId reconnect outages succeeds
  | board process taxiId offset =>
      exact ⟨inStep.covers, inStep.before, inStep.numbered, inStep.pending, inStep.ended,
        inStep.within, inStep.position, inStep.absent, inStep.paced⟩
  | hear running turned => exact inStep.turned turned
  | drive running turned => exact inStep.turned turned
  | enter coord uuid services absent within =>
      refine ⟨inStep.covers, inStep.before, inStep.numbered, inStep.pending, inStep.ended,
        inStep.within, within, by simp, ?_⟩
      rintro customer ⟨⟩
      rw [show fleet.asked = 0 from inStep.absent absent]
      exact .start
  | listen present waiting turned => exact (inStep.listen present waiting turned).1
  | errand deaf present turned =>
      rcases (inStep.paced _ present).turn deaf turned with
        ⟨silent, paced⟩ | ⟨request, rfl, asked, due, paced⟩
      · exact inStep.spoke inStep.position silent paced
      · exact inStep.askNext asked due paced

end Fleet

/-- In every run in which every query succeeds and no taxi arrives for a service request of the
customer which has ended, the customer takes for the end of each of its requests the end of that
request. -/
theorem replies_in_step (session : Uuid) (id : Id) (locations : Table LocationRow.id)
    (events : List Fleet.Event)
    (succeed : ∀ taken ∈ (Fleet.machine session id).run (.initial locations) events,
      FleetStep.Succeeds session taken)
    (opened : ∀ taken ∈ (Fleet.machine session id).run (.initial locations) events,
      FleetStep.ArrivesOpen session id taken) :
    ∀ taken ∈ (Fleet.machine session id).run (.initial locations) events,
      FleetStep.ReturnsInStep taken := by
  intro taken member
  have holds := (Machine.run_invariant (fun fleet => fleet.InStep id)
    (fun taken stepped (guard : FleetStep.Succeeds session taken ∧
        FleetStep.ArrivesOpen session id taken) inStep =>
      inStep.step (Fleet.stepped_of_step stepped) guard.1 guard.2)
    .initial (fun taken member => ⟨succeed taken member, opened taken member⟩) taken member).1
  have stepped := Fleet.stepped_of_step (Machine.run_step member)
  obtain ⟨before, event, after⟩ := taken
  simp only at stepped holds
  cases stepped with
  | @listen beyond customer after notice sent present waiting turned =>
      intro asker asking index awaits next reached returned other read
      obtain rfl := Option.some.inj (present.symm.trans asking)
      obtain rfl := Option.some.inj reached
      obtain rfl := Option.some.inj (waiting.symm.trans read)
      exact (holds.listen present waiting turned).2 index awaits returned
  | _ => trivial

/-! ### A customer with two services -/

namespace Fleet

/-- Central consumes the next request. -/
def take : Event := .request 0 [] Link.beyond

/-- The customer consumes the next response. -/
def listen : Event := .listen Link.beyond

/-- A taxi consumes the next response. -/
def hear (process : Nat) : Event := .hear process Link.beyond

/-- The main thread of the customer goes on. -/
def proceed : Event := .errand .proceed

/-- The customer starts at the base, with two services to `J`, and is accepted. -/
def enters : List Event :=
  [.enter 0 ⟨0, 0⟩ Town.session (some [74, 74]), proceed, take, listen]

/-- `J` at the base. -/
def baseTown : Table LocationRow.id := ⟨[⟨65, 3, 4⟩, ⟨74, 0, 0⟩], by decide⟩

/-- A taxi is assigned, picks the customer up and brings it to `J`. -/
def trip : List Event :=
  [proceed, take, hear 0, hear 0, take, hear 0, hear 0, hear 0, hear 0, take, listen, listen, listen,
    listen, listen, listen]

/-- The message of the event is neither from Central's servers, a taxi nor the customer. -/
def Event.foreign : Event → Bool
  | .post _ => true
  | _ => false

/-- Taxi 1 serves both requests of the customer. -/
def bothServed : List Event :=
  [.register 0 1 false [], take, .board 0 1 0] ++ enters ++ trip ++
    List.replicate 5 proceed ++ List.replicate 4 take ++ trip

/-- Two taxis join while the customer is queued, and both are sent for its first request. -/
def servedTwice : List Event :=
  enters ++ [proceed, take, .register 0 1 false [], take, .board 0 1 0, .register 0 2 false [], take,
    .board 1 2 0] ++ List.replicate 3 (hear 0) ++ List.replicate 5 (hear 1) ++ [take, take] ++
    List.replicate 6 listen ++ List.replicate 6 proceed ++ [listen]

end Fleet

/-- Both requests of the customer are served, and it takes the end of each for that. -/
theorem both_services_in_step :
    (((Fleet.machine Town.session 65).exec (.initial Fleet.baseTown) Fleet.bothServed).bind
        (·.customer)).map (·.errand) = some (.counting 1 4) ∧
      ∀ taken ∈ (Fleet.machine Town.session 65).run (.initial Fleet.baseTown) Fleet.bothServed,
        FleetStep.ReturnsInStep taken :=
  ⟨by decide +kernel, replies_in_step Town.session 65 Fleet.baseTown Fleet.bothServed
    (by decide +kernel) (by decide +kernel)⟩

/-- The second taxi which was sent for the first request ends the second one. -/
theorem second_service_skipped :
    ¬ ∀ (session : Uuid) (id : Id) (locations : Table LocationRow.id) (events : List Fleet.Event),
      (∀ event ∈ events, event.foreign = false) →
      (∀ taken ∈ (Fleet.machine session id).run (.initial locations) events,
        FleetStep.Succeeds session taken) →
      ∀ taken ∈ (Fleet.machine session id).run (.initial locations) events,
        FleetStep.ReturnsInStep taken := by
  intro claimed
  have inStep := claimed Town.session 65 Town.locations Fleet.servedTwice (by decide +kernel)
    (by decide +kernel)
  revert inStep
  decide +kernel

end EasyCab
