import EasyCab.De.EcDe

/-!
# The turns of a taxi

One case for each branch of the threads of `EC_DE`: what an event makes of the taxi and what it
does then. What is said of every turn is proved by these cases.
-/

namespace EasyCab

namespace EcDe

/-- What the switch of `listenKafka` makes of the taxi. -/
inductive Obeyed (taxi : EcDe) (message : FullMessage) :
    SubjResponse → EcDe → List Act → Prop where
  /-- The taxi is where it is sent. -/
  | arrived (there : taxi.pos = message.1.coord) :
      Obeyed taxi message .taxiGoTo taxi [.produce
        ⟨{ message.1 with
            subject := .request .taxiDestinationReached
            coord := taxi.pos
            session := taxi.session.1 }, taxi.session.2⟩]
  | sent (away : taxi.pos ≠ message.1.coord) :
      Obeyed taxi message .taxiGoTo { taxi with dest := message.1.coord } []
  | stopped : Obeyed taxi message .taxiStop { taxi with orderedToStop := true } []
  | continued : Obeyed taxi message .taxiContinue { taxi with orderedToStop := false } []
  | returned : Obeyed taxi message .taxiReturnToBase { taxi with dest := ⟨0, 0⟩ } []
  | dismissed : Obeyed taxi message .taxiDisconnect { taxi with stop := true } []
  /-- The other responses are for others. -/
  | ignored {subject : SubjResponse}
      (other : subject ∉ [.taxiGoTo, .taxiStop, .taxiContinue, .taxiReturnToBase, .taxiDisconnect]) :
      Obeyed taxi message subject taxi []

/-- What the two branches of `attend` make of the taxi, and the message which they send. -/
inductive Driven (taxi : EcDe) (message : FullMessage) (waitTime : Int32) :
    EcDe → Option FullMessage → Prop where
  | waits (waiting : 0 < waitTime) :
      Driven taxi message waitTime taxi (some
        ⟨Message.setIntData { message.1 with subject := .request .taxiUpdateWaitTime } (waitTime - 1),
          message.2⟩)
  | moves (rolls : ¬ 0 < waitTime) (apart : taxi.pos ≠ taxi.dest) (allowed : ¬ taxi.orderedToStop)
      (move : Coordinate) :
      Driven taxi message waitTime { taxi with pos := move } (some
        ⟨{ message.1 with
            subject := .request
              (if move ≠ taxi.dest then .taxiMove else .taxiDestinationReached)
            coord := move }, message.2⟩)
  | rests (held : taxi.pos = taxi.dest ∨ taxi.orderedToStop) :
      Driven taxi message waitTime taxi none

/-- What an event makes of the taxi, and what the taxi does then. -/
inductive Turned (taxi : EcDe) : Event → EcDe → List Act → Prop where
  /-- Nothing was consumed, or no order for this taxi. -/
  | unheard {message : Option FullMessage} (unordered : message.bind taxi.order? = none) :
      Turned taxi (.consume message) { taxi with listening := !taxi.stop } []
  | heard {message : FullMessage} {subject : SubjResponse} {after : EcDe} {acts : List Act}
      (ordered : taxi.order? message = some subject)
      (obeyed : taxi.Obeyed message subject after acts) :
      Turned taxi (.consume (some message)) { after with listening := !after.stop } acts
  | ended : Turned taxi .check { taxi with sensor := .ended }
      [.produce (taxi.message .orderTaxiDisconnect)]
  | accepting : Turned taxi .check { taxi with sensor := .accepting } []
  | connected : Turned taxi .connect
      { taxi with
        sensor := .attending ⟨{ Message.new with
          taxiId := taxi.id, session := taxi.session.1 }, taxi.session.2⟩ }
      [.produce (taxi.message .taxiReady)]
  | ticked {message : FullMessage} {waitTime : Int32} {again : Bool} {driven : EcDe}
      {sent : Option FullMessage} (attending : taxi.sensor = .attending message)
      (drove : taxi.Driven message waitTime driven sent) :
      Turned taxi (.tick waitTime again)
        { driven with
          sensor := if again && !driven.stop then .attending (sent.getD message) else .leaving }
        (sent.toList.map .produce ++ [.answer (driven.pos ≠ driven.dest && !driven.orderedToStop)])
  | left : Turned taxi .leave { taxi with sensor := .looping }
      [.produce (taxi.message .taxiNotReady)]
  | pinged : Turned taxi .ping taxi [.produce (taxi.message .taxiPing)]
  | quit : Turned taxi .quit { taxi with stop := true } []

/-- The message which an act puts on `requests`. -/
def Act.request? : Act → Option FullMessage
  | .produce message => some message
  | .answer _ => none

/-- The messages which a taxi puts on `requests` in a run. -/
def sentIn : EcDe → List Event → List FullMessage
  | _, [] => []
  | taxi, event :: events =>
      match taxi.turn event with
      | none => []
      | some (next, acts) => acts.filterMap Act.request? ++ next.sentIn events

/-- The turns of a list of events, none of which is refused: the taxi they leave, and what it
does. -/
def turns : EcDe → List Event → Option (EcDe × List Act)
  | taxi, [] => some (taxi, [])
  | taxi, event :: events => do
      let (next, acts) ← taxi.turn event
      let (last, more) ← next.turns events
      return (last, acts ++ more)

variable {taxi next : EcDe} {acts : List Act} {event : Event} {message : FullMessage}

/-- An order names the taxi which it is for. -/
theorem order?_eq_some_iff {subject : SubjResponse} :
    taxi.order? message = some subject ↔
      message.1.subject = .response subject ∧ message.1.taxiId = taxi.id := by
  unfold order?
  constructor
  · intro ordered
    split at ordered
    · next subject told =>
      split at ordered
      · next same =>
        cases ordered
        exact ⟨told, same⟩
      · cases ordered
    · cases ordered
  · rintro ⟨told, same⟩
    rw [told]
    exact if_pos same

/-- The switch takes one of its cases. -/
theorem obeyed_of_obey {subject : SubjResponse} :
    taxi.Obeyed message subject (taxi.obey message subject).1 (taxi.obey message subject).2 := by
  cases subject with
  | taxiGoTo =>
      by_cases there : taxi.pos = message.1.coord
      · simp only [obey, if_pos there]
        exact .arrived there
      · simp only [obey, if_neg there]
        exact .sent there
  | taxiStop => exact .stopped
  | taxiContinue => exact .continued
  | taxiReturnToBase => exact .returned
  | taxiDisconnect => exact .dismissed
  | _ => exact .ignored (by simp)

/-- `attend` takes one of its branches. -/
theorem driven_of_drive {waitTime : Int32} {sent : Option FullMessage}
    (drove : taxi.drive message waitTime = some (next, sent)) :
    taxi.Driven message waitTime next sent := by
  unfold drive at drove
  split at drove
  · next waiting =>
    cases drove
    exact .waits waiting
  · next rolls =>
    split at drove
    · next apart =>
      obtain ⟨moved, stepped, same⟩ := Option.map_eq_some_iff.mp drove
      cases same
      unfold step at stepped
      rw [if_neg apart.1] at stepped
      obtain ⟨move, _, rfl⟩ := Option.map_eq_some_iff.mp stepped
      exact .moves rolls apart.1 apart.2 move
    · next held =>
      cases drove
      refine .rests (Decidable.byContradiction fun free => held ?_)
      exact ⟨fun there => free (.inl there), fun stopped => free (.inr stopped)⟩

/-- Every turn is one of the listed ones. -/
theorem turned_of_turn (turned : taxi.turn event = some (next, acts)) :
    taxi.Turned event next acts := by
  cases event with
  | consume message =>
      simp only [turn, Option.ite_none_right_eq_some, Option.some.injEq] at turned
      obtain ⟨_, turned⟩ := turned
      cases found : message.bind taxi.order? with
      | none =>
          have unheard : taxi.listenKafka message = ({ taxi with listening := !taxi.stop }, []) := by
            cases message with
            | none => rfl
            | some message =>
                rw [Option.bind_some] at found
                simp [listenKafka, found]
          cases unheard.symm.trans turned
          exact .unheard found
      | some subject =>
          obtain ⟨message, rfl, ordered⟩ := Option.bind_eq_some_iff.mp found
          have heard : taxi.listenKafka (some message) =
              ({ (taxi.obey message subject).1 with
                  listening := !(taxi.obey message subject).1.stop },
                (taxi.obey message subject).2) := by
            simp [listenKafka, ordered]
          cases heard.symm.trans turned
          exact .heard ordered obeyed_of_obey
  | check =>
      simp only [turn] at turned
      split at turned
      · split at turned <;> cases turned
        · exact .ended
        · exact .accepting
      · cases turned
  | connect =>
      simp only [turn] at turned
      split at turned <;> cases turned
      exact .connected
  | tick waitTime again =>
      simp only [turn] at turned
      split at turned
      · next message attending =>
        obtain ⟨⟨driven, sent⟩, drove, same⟩ := Option.map_eq_some_iff.mp turned
        cases same
        exact .ticked attending (driven_of_drive drove)
      · cases turned
  | leave =>
      simp only [turn] at turned
      split at turned <;> cases turned
      exact .left
  | ping =>
      simp only [turn] at turned
      split at turned <;> cases turned
      exact .pinged
  | quit =>
      cases turned
      exact .quit

end EcDe

end EasyCab
