import EasyCab.Central.Petitions
import EasyCab.Network.Link

/-!
# Orders to leave and taxis which come back

Neither the orders to disconnect a taxi nor the responses which pass them on name the
registration for which they were meant. One which is still on its way when the taxi is registered
again throws the new program out. `reconnected_spared` says that nothing else does.
-/

namespace EasyCab

open Library

/-- The message orders the taxi to be disconnected. -/
def Message.Disconnects (message : Message) (taxi : TaxiId) : Prop :=
  message.subject = .request .orderTaxiDisconnect ∧ message.taxiId = taxi

/-- The message tells the taxi to leave. -/
def Message.TellsToLeave (message : Message) (taxi : TaxiId) : Prop :=
  message.subject = .response .taxiDisconnect ∧ message.taxiId = taxi

instance (message : Message) (taxi : TaxiId) : Decidable (message.Disconnects taxi) := by
  unfold Message.Disconnects
  infer_instance

instance (message : Message) (taxi : TaxiId) : Decidable (message.TellsToLeave taxi) := by
  unfold Message.TellsToLeave
  infer_instance

namespace Link

variable {session : Uuid} {taxiId : TaxiId} {link next : Link}

/-- The program of the taxi is about to leave. -/
def leaving (link : Link) : Bool := link.taxi.any (·.stop)

/-- No order to disconnect the taxi is on its way, nor anything which tells the taxi to leave. -/
def Quiet (link : Link) (taxiId : TaxiId) : Prop :=
  (∀ letter ∈ link.strays ++ link.requests, ¬ letter.message.Disconnects taxiId) ∧
    ∀ letter ∈ link.responses.drop link.committed, ¬ letter.message.TellsToLeave taxiId

instance (link : Link) (taxiId : TaxiId) : Decidable (link.Quiet taxiId) := by
  unfold Quiet
  infer_instance

/-- All that is on its way to throw the taxi out was caused since its last registration. -/
structure Current (link : Link) (taxiId : TaxiId) : Prop where
  orders : ∀ letter ∈ link.strays ++ link.requests,
    letter.message.Disconnects taxiId → letter.epoch = link.epoch
  responses : ∀ letter ∈ link.responses.drop link.committed,
    letter.message.TellsToLeave taxiId → letter.epoch = link.epoch
  since : link.since ≤ link.epoch
  position : link.taxi.isSome → link.committed ≤ link.position

end Link

namespace LinkStep

/-- What was caused before the last registration of the taxi neither clears its flag nor makes its
program leave. -/
def SparesReconnected (taxiId : TaxiId) (taken : LinkStep) : Prop :=
  match taken.event with
  | .request .. =>
      taken.before.db.connectedOf taxiId = some true →
        taken.after.db.connectedOf taxiId = some false →
          ∀ letter ∈ taken.before.requests.head?, ¬ letter.epoch < taken.before.epoch
  | .hear _ =>
      taken.before.leaving = false → taken.after.leaving = true →
        ∀ letter ∈ taken.before.responses[taken.before.position]?,
          ¬ letter.epoch < taken.before.since
  | _ => True

/-- Where the taxi is registered, nothing is on its way to throw it out. -/
def RegistersQuietly (taxiId : TaxiId) (taken : LinkStep) : Prop :=
  taken.before.epoch < taken.after.epoch → taken.before.Quiet taxiId

instance (taxiId : TaxiId) (taken : LinkStep) : Decidable (taken.SparesReconnected taxiId) := by
  unfold SparesReconnected
  split <;> infer_instance

instance (taxiId : TaxiId) (taken : LinkStep) : Decidable (taken.RegistersQuietly taxiId) := by
  unfold RegistersQuietly
  infer_instance

end LinkStep

namespace KafkaServer

/-- Only an order to disconnect the taxi is answered by telling it to leave. -/
theorem Answered.disconnects {request answer : Message} {subject : SubjRequest} {taxi : TaxiId}
    (answered : Answered request subject answer) (dismisses : answer.TellsToLeave taxi) :
    subject = .orderTaxiDisconnect ∧ request.taxiId = taxi := by
  obtain ⟨told, named⟩ := dismisses
  cases answered with
  | plain answers other =>
      rw [answers, Subject.response.injEq] at told
      subst told
      cases other
  | echoes echoes answers same =>
      rw [answers, Subject.response.injEq] at told
      subst told
      cases subject <;> cases echoes
      exact ⟨rfl, same.symm.trans named⟩

end KafkaServer

namespace EcDe

/-- Only a response which tells the taxi to leave makes it leave. -/
theorem stop_of_consume {taxi next : EcDe} {acts : List Act} {message : FullMessage}
    (turned : taxi.turn (.consume (some message)) = some (next, acts)) (running : taxi.stop = false)
    (stopped : next.stop = true) : message.1.TellsToLeave taxi.id := by
  have remains : ¬ taxi.stop = true := by simp [running]
  cases turned_of_turn turned with
  | unheard unordered => exact absurd stopped remains
  | heard ordered obeyed =>
      cases obeyed with
      | dismissed => exact order?_eq_some_iff.mp ordered
      | _ => exact absurd stopped remains

end EcDe

namespace Link

variable {session : Uuid} {taxiId : TaxiId} {link next : Link}

/-- A turn of the taxi leaves everything current. -/
theorem Current.turned (current : link.Current taxiId) {after : EcDe} {acts : List EcDe.Act}
    (running : link.taxi.isSome) : (link.turned after acts).Current taxiId := by
  refine ⟨fun letter member disconnects => ?_, current.responses, current.since,
    fun _ => current.position running⟩
  simp only [Link.turned, ← List.append_assoc] at member
  rcases List.mem_append.mp member with old | new
  · exact current.orders letter old disconnects
  · obtain ⟨message, _, rfl⟩ := List.mem_map.mp new
    rfl

/-- Where nothing was on its way, everything is current once the taxi is registered. -/
theorem Current.register {announced : List Message} {db : Db} {epoch : Nat} {acknowledged : Bool}
    (current : link.Current taxiId)
    (quiet : link.epoch = epoch ∨ link.epoch < epoch ∧ link.Quiet taxiId) :
    Current
      { link with
        db := db
        requests := link.requests ++ announced.map fun message => ⟨message, epoch, false⟩
        epoch := epoch
        acknowledged := acknowledged } taxiId := by
  refine ⟨fun letter member disconnects => ?_, fun letter member tells => ?_, ?_, current.position⟩
  · simp only [← List.append_assoc] at member
    rcases List.mem_append.mp member with old | new
    · rcases quiet with same | ⟨_, quiet⟩
      · exact (current.orders letter old disconnects).trans same
      · exact absurd disconnects (quiet.1 letter old)
    · obtain ⟨message, _, rfl⟩ := List.mem_map.mp new
      rfl
  · rcases quiet with same | ⟨_, quiet⟩
    · exact (current.responses letter member tells).trans same
    · exact absurd tells (quiet.2 letter member)
  · rcases quiet with same | ⟨later, _⟩
    · exact same ▸ current.since
    · exact Nat.le_trans current.since (Nat.le_of_lt later)

/-- Every step in which the taxi is only registered while nothing is on its way leaves everything
current. -/
theorem Current.step {event : Event} (current : link.Current taxiId)
    (stepped : Stepped session taxiId link event next)
    (quietly : link.epoch < next.epoch → link.Quiet taxiId) : next.Current taxiId := by
  cases stepped with
  | select now outages =>
      refine ⟨fun letter member disconnects => ?_, current.responses, current.since,
        current.position⟩
      rcases List.mem_append.mp member with new | old
      · obtain ⟨message, _, rfl⟩ := List.mem_map.mp new
        rfl
      · exact current.orders letter (List.mem_append_right _ old) disconnects
  | order waiting =>
      refine ⟨fun letter member disconnects => current.orders letter ?_ disconnects,
        current.responses, current.since, current.position⟩
      rw [waiting]
      simp only [List.mem_append, List.mem_cons, List.not_mem_nil, or_false] at member ⊢
      tauto
  | post other =>
      refine ⟨fun letter member disconnects => ?_, current.responses, current.since,
        current.position⟩
      simp only [← List.append_assoc] at member
      rcases List.mem_append.mp member with old | new
      · exact current.orders letter old disconnects
      · rw [List.mem_singleton.mp new]
  | @request now outages beyond head requests outcome waiting ran =>
      refine ⟨fun letter member disconnects => current.orders letter ?_ disconnects,
        fun letter member tells => ?_, current.since, current.position⟩
      · rw [waiting]
        simp only [List.mem_append, List.mem_cons] at member ⊢
        tauto
      · simp only [List.drop_append] at member
        rcases List.mem_append.mp member with old | new
        · exact current.responses letter old tells
        · -- What is new answers the request, so the request is an order.
          obtain ⟨answer, produced, rfl⟩ := List.mem_map.mp (List.mem_of_mem_drop new)
          have acted : .produce answer ∈ (KafkaServer.process now session
              (head.message.read beyond).1).acts ⟨link.db, outages, link.response⟩ := by
            rw [Effect.acts, ran]
            exact Network.mem_responsesOf_iff.mp produced
          obtain ⟨subject, accepted, answered⟩ := KafkaServer.process_answered acted
          obtain ⟨rfl, named⟩ := answered.disconnects tells
          have disconnects : head.message.Disconnects taxiId := by
            refine ⟨?_, by simpa using named⟩
            simpa using KafkaServer.subject_of_accepted accepted
          refine current.orders head ?_ disconnects
          rw [waiting]
          simp
  | register now other reconnect outages ran counts =>
      subst ran
      apply current.register
      split at counts
      · exact .inr ⟨by omega, quietly (by simp only; omega)⟩
      · exact .inl counts.symm
  | start stopped acknowledged =>
      exact ⟨current.orders, current.responses, Nat.le_refl _, fun _ => Nat.le_refl _⟩
  | hear running waiting turned =>
      have moved : { link with position := link.position + 1 }.Current taxiId :=
        ⟨current.orders, current.responses, current.since,
          fun running => Nat.le_succ_of_le (current.position running)⟩
      exact moved.turned (by simp [running])
  | turn deaf running turned => exact current.turned (by simp [running])
  | commit running =>
      refine ⟨current.orders, fun letter member => ?_, current.since, fun _ => Nat.le_refl _⟩
      have further : link.committed ≤ link.position := current.position (by simp [running])
      exact current.responses letter (List.drop_subset_drop_left _ further member)
  | crash => exact ⟨current.orders, current.responses, current.since, by simp⟩

end Link

namespace LinkStep

variable {session : Uuid} {taxiId : TaxiId} {taken : LinkStep}

/-- While everything is current, the taxi is spared what is not. -/
theorem spares_of_current
    (stepped : Link.Stepped session taxiId taken.before taken.event taken.after)
    (current : taken.before.Current taxiId) (signs : taken.before.Signs session taxiId) :
    taken.SparesReconnected taxiId := by
  obtain ⟨before, event, after⟩ := taken
  simp only at stepped current signs
  cases stepped with
  | @request now outages beyond head requests outcome waiting ran =>
      intro connected fallen letter member
      rw [waiting, List.head?_cons, Option.mem_some_iff] at member
      subst member
      rcases KafkaServer.process_staysConnected ran taxiId with same | ⟨ordered, named, _, _⟩
      · exact absurd ((same.symm.trans fallen).symm.trans connected) (by decide)
      · have disconnects : head.message.Disconnects taxiId :=
          ⟨by simpa using ordered, by simpa using named⟩
        have latest : head.epoch = before.epoch :=
          current.orders head (by rw [waiting]; simp) disconnects
        exact Nat.not_lt.mpr (Nat.le_of_eq latest.symm)
  | @hear beyond taxi next head acts running waiting turned =>
      intro stays leaves letter member
      rw [waiting, Option.mem_some_iff] at member
      subst member
      simp only [Link.leaving, running, Option.any_some] at stays
      simp only [Link.leaving, Link.turned, Option.any_some] at leaves
      have tells := EcDe.stop_of_consume turned stays leaves
      rw [(signs taxi running).named] at tells
      have further : before.committed ≤ before.position := current.position (by simp [running])
      have member : head ∈ before.responses.drop before.committed := by
        have heads : (before.responses.drop before.position)[0]? = some head := by
          simpa using waiting
        exact List.drop_subset_drop_left _ further (List.mem_of_getElem? heads)
      have latest : head.epoch = before.epoch :=
        current.responses head member ⟨by simpa using tells.1, by simpa using tells.2⟩
      rw [latest]
      exact Nat.not_lt.mpr current.since
  | _ => trivial

end LinkStep

/-- In every run in which the taxi is only registered while nothing is on its way to throw it out,
no order which was caused before a registration throws out the program of a later one. -/
theorem reconnected_spared (session : Uuid) (taxiId : TaxiId) (locations : Table LocationRow.id)
    (events : List Link.Event)
    (quietly : ∀ taken ∈ (Link.machine session taxiId).run (.initial locations) events,
      LinkStep.RegistersQuietly taxiId taken) :
    ∀ taken ∈ (Link.machine session taxiId).run (.initial locations) events,
      LinkStep.SparesReconnected taxiId taken := by
  intro taken member
  have initial : (Link.initial locations).Current taxiId ∧
      (Link.initial locations).Signs session taxiId :=
    ⟨⟨by simp [Link.initial], by simp [Link.initial], Nat.le_refl _, fun _ => Nat.le_refl _⟩,
      by simp [Link.Signs, Link.initial]⟩
  have holds := (Machine.run_invariant
    (fun link => link.Current taxiId ∧ link.Signs session taxiId)
    (fun taken stepped quietly ⟨current, signs⟩ =>
      ⟨current.step (Link.stepped_of_step stepped) quietly,
        signs.step (Link.stepped_of_step stepped)⟩)
    initial quietly taken member).1
  exact LinkStep.spares_of_current (Link.stepped_of_step (Machine.run_step member)) holds.1 holds.2

/-! ### A taxi which comes back -/

namespace Link

/-- Central consumes the next request at a time. -/
def consume (now : Timestamp) : Event := .request now [] beyond

/-- Taxi 1 is registered, starts, and is announced. -/
def firstRide : List Event := [.register 0 1 false [], .start, consume 0]

/-- The operator disconnects taxi 1, which leaves and comes back. -/
def leaves : List Event :=
  firstRide ++ [.post { Message.request [] .orderTaxiDisconnect with taxiId := 1 }, consume 1,
    .hear beyond, .commit, .crash, .register 2 1 true [], .start, consume 2]

/-- `checkStrays` orders taxi 1 twice to be disconnected, and the second order is consumed after the
taxi has come back. -/
def thrownOut : List Event :=
  firstRide ++ [.select 10 [], .order, .select 11 [], .order, consume 11, .crash,
    .register 12 1 true [], .start, consume 12]

end Link

/-- A taxi which left when it was told to is not thrown out when it comes back. -/
theorem returned_taxi_spared :
    (((Link.machine Town.session 1).exec (.initial Town.locations) Link.leaves).map (·.since)) =
        some 2 ∧
      ∀ taken ∈ (Link.machine Town.session 1).run (.initial Town.locations) Link.leaves,
        LinkStep.SparesReconnected 1 taken :=
  ⟨by decide +kernel,
    reconnected_spared Town.session 1 Town.locations Link.leaves (by decide +kernel)⟩

/-- The second order throws out the program which was registered after it. -/
theorem returned_taxi_thrown_out :
    ¬ ∀ (session : Uuid) (taxiId : TaxiId) (locations : Table LocationRow.id)
        (events : List Link.Event),
      ∀ taken ∈ (Link.machine session taxiId).run (.initial locations) events,
        LinkStep.SparesReconnected taxiId taken := by
  intro claimed
  have spared := claimed Town.session 1 Town.locations Link.thrownOut
  revert spared
  decide +kernel

end EasyCab
