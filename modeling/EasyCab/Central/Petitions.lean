import EasyCab.Central.Columns
import EasyCab.Central.System

/-!
# Petitions of taxis

Any number of `attendPetition` threads run beside the request loop of Central. A
thread checks an identifier under `mtx_db`, releases it, and takes it again to add
the taxi, so other threads and the loop may step in between. `answers` lists what
the threads answered and when `connected` of a taxi became `FALSE`, newest first.
-/

namespace EasyCab

open Library

/-- The stored `connected` of a taxi. -/
def Tables.connectedOf (tables : Tables) (taxi : TaxiId) : Option Bool :=
  (tables.taxis.lookup taxi).map (·.connected)

/-- Where a thread of `attendPetition` is. -/
inductive Petition where
  /-- It waits for a frame. -/
  | idle
  /-- `checkId` let the taxi pass, and `addTaxi` is still to come. -/
  | checked (taxiId : TaxiId) (reconnect : Bool)
deriving DecidableEq

/-- What is answered to a taxi, and when a taxi is disconnected. -/
inductive Answered where
  | ack (taxiId : TaxiId)
  | nack (taxiId : TaxiId)
  | disconnected (taxiId : TaxiId)
deriving DecidableEq

/-- Central with its authentication threads. -/
structure AuthSystem where
  central : System
  petitions : Nat → Petition
  answers : List Answered

namespace AuthSystem

/-- What can happen next. -/
inductive Event where
  /-- A thread reads the identifier of a taxi and runs `checkId`. -/
  | check (now : Timestamp) (petition : Nat) (taxiId : TaxiId) (outages : List Bool)
  /-- A thread runs `addTaxi` and answers. -/
  | add (now : Timestamp) (petition : Nat) (outages : List Bool)
  /-- The request loop consumes a message. -/
  | request (now : Timestamp) (message : Message) (outages : List Bool)

/-- The query of `checkId`. A taxi which does not pass is refused at once. -/
def check (system : AuthSystem) (now : Timestamp) (petition : Nat) (taxiId : TaxiId)
    (outages : List Bool) : AuthSystem :=
  match AuthServer.checkId now taxiId outages system.central.db with
  | none => { system with answers := .nack taxiId :: system.answers }
  | some reconnect =>
      { system with
        petitions := Function.update system.petitions petition (.checked taxiId reconnect) }

/-- The query of `addTaxi` and the answer to the taxi. -/
def add (session : Uuid) (system : AuthSystem) (now : Timestamp) (petition : Nat)
    (taxiId : TaxiId) (reconnect : Bool) (outages : List Bool) : Option AuthSystem :=
  (System.step session system.central (.addTaxi now taxiId reconnect outages)).map fun central =>
    { central := central
      petitions := Function.update system.petitions petition .idle
      answers :=
        match (AuthServer.addTaxi now session taxiId reconnect outages system.central.db).value with
        | none => .nack taxiId :: system.answers
        | some _ => .ack taxiId :: system.answers }

/-- The body of the request loop. -/
def request (session : Uuid) (system : AuthSystem) (now : Timestamp) (message : Message)
    (outages : List Bool) : Option AuthSystem :=
  (System.step session system.central (.request now message outages)).map fun central =>
    { system with
      central := central
      answers :=
        if system.central.db.connectedOf message.taxiId = some true ∧
            central.db.connectedOf message.taxiId = some false then
          .disconnected message.taxiId :: system.answers
        else system.answers }

/-- One atomic step of a thread or of the loop. -/
def step (session : Uuid) (system : AuthSystem) : Event → Option AuthSystem
  | .check now petition taxiId outages =>
      match system.petitions petition with
      | .idle => some (system.check now petition taxiId outages)
      | .checked .. => none
  | .add now petition outages =>
      match system.petitions petition with
      | .idle => none
      | .checked taxiId reconnect => system.add session now petition taxiId reconnect outages
  | .request now message outages => system.request session now message outages

/-- Central and its threads as a machine. -/
def machine (session : Uuid) : Machine AuthSystem Event := ⟨step session⟩

/-- After `Reset_DB`, with every thread idle. -/
def start (locations : Table LocationRow.id) : AuthSystem :=
  ⟨System.start locations, fun _ => .idle, []⟩

/-- How often a taxi was acknowledged. -/
def acksNote (taxi : TaxiId) : Answered → Nat → Nat
  | .ack other, count => if other = taxi then count + 1 else count
  | .nack _, count => count
  | .disconnected other, count => if other = taxi then 0 else count

/-- How often a taxi was acknowledged since its `connected` last became `FALSE`. -/
def acks (taxi : TaxiId) (answers : List Answered) : Nat := observe (acksNote taxi) 0 answers

end AuthSystem

/-! ### `connected` under the statements of Central -/

namespace KafkaServer

variable {request : Message} {subject : SubjRequest}

/-- Since `before`, `connected` of a taxi has not changed, or it became `FALSE` under an order
to disconnect that taxi. -/
def StaysConnected (request : Message) (subject : SubjRequest) (taxi : TaxiId)
    (before after : Option Bool) : Prop :=
  after = before ∨
    subject = .orderTaxiDisconnect ∧ request.taxiId = taxi ∧ before.isSome ∧ after = some false

/-- `UPDATE taxis SET connected = …` writes the row of one taxi. -/
theorem connectedOf_setConnected {tables : Tables} {now : Timestamp} {taxi other : TaxiId}
    {connected : Bool} : (tables.setConnected now taxi connected).connectedOf other =
      if other = taxi then (tables.connectedOf other).map fun _ => connected
      else tables.connectedOf other :=
  Tables.taxiColumn_updateTaxi (fun _ _ => rfl) (fun _ => connected) fun _ => rfl

/-- Only an order to disconnect a taxi changes its `connected`. -/
theorem Issued.staysConnected {statement : Statement} (issued : Issued request subject statement)
    (taxi : TaxiId) (before : Option Bool) :
    statement.Maintains fun db =>
      StaysConnected request subject taxi before (db.connectedOf taxi) := by
  refine @Issued.maintains_column _ TaxiRow.connected (StaysConnected request subject taxi before)
    request subject taxi (fun _ _ => rfl) (fun _ _ _ _ => rfl) (fun update updated same row stays => ?_)
    statement issued
  cases updated with
  | disconnected =>
      rcases stays with unchanged | ⟨_, _, present, fallen⟩
      · subst unchanged
        exact .inr ⟨rfl, same, rfl, rfl⟩
      · exact .inr ⟨rfl, same, present, rfl⟩
  | _ => exact stays

/-- Consuming a message changes `connected` of a taxi only by setting it to `FALSE` under an
order to disconnect that taxi. -/
theorem process_staysConnected {now : Timestamp} {session : Uuid} {server : KafkaServer}
    {outcome : Outcome KafkaServer Act Unit}
    (ran : process now session request server = .ok outcome) (taxi : TaxiId) :
    outcome.state.db.connectedOf taxi = server.db.connectedOf taxi ∨
      request.subject = .request .orderTaxiDisconnect ∧ request.taxiId = taxi ∧
        (server.db.connectedOf taxi).isSome ∧ outcome.state.db.connectedOf taxi = some false := by
  cases accepted : accepted? session request with
  | none =>
      simp only [process, accepted, Effect.pure_eq_ok_iff] at ran
      subst ran
      exact .inl rfl
  | some subject =>
      have stays : StaysConnected request subject taxi (server.db.connectedOf taxi)
          (outcome.state.db.connectedOf taxi) := by
        refine @process_maintains (fun db => StaysConnected request subject taxi
          (server.db.connectedOf taxi) (db.connectedOf taxi)) _ _ _ _ _ ?_ ran (.inl rfl)
        intro found accepts statement issued
        rw [accepted, Option.mem_some_iff] at accepts
        subst accepts
        exact issued.staysConnected taxi _
      rcases stays with unchanged | ⟨rfl, named, present, fallen⟩
      · exact .inl unchanged
      · exact .inr ⟨subject_of_accepted accepted, named, present, fallen⟩

end KafkaServer

/-! ### The two queries of a petition -/

namespace AuthServer

variable {now : Timestamp} {session : Uuid} {taxiId : TaxiId} {outages : List Bool} {db : Db}

/-- A taxi which is to reconnect was found disconnected. -/
theorem connectedOf_of_checkId (passed : checkId now taxiId outages db = some true) :
    db.connectedOf taxiId = some false := by
  unfold checkId at passed
  rw [DbConnectionHandler.query_one] at passed
  by_cases outage : outages.head? = some true
  · simp [outage] at passed
  · cases stored : db.taxis.lookup taxiId with
    | none => simp [outage, Statement.selectConnected, Statement.select, stored] at passed
    | some row =>
        cases connected : row.connected with
        | true => simp [outage, Statement.selectConnected, Statement.select, stored, connected,
            Field.ofBool] at passed
        | false => simp [Tables.connectedOf, stored, connected]

/-- The `INSERT` of `addTaxi` succeeds only for a taxi without a row, which it connects. -/
theorem addTaxi_insert :
    (addTaxi now session taxiId false outages db).value = none ∧
        (∀ other, (addTaxi now session taxiId false outages db).db.connectedOf other =
          db.connectedOf other) ∨
      (∃ told, (addTaxi now session taxiId false outages db).value = some told) ∧
        db.connectedOf taxiId = none ∧
        ∀ other, (addTaxi now session taxiId false outages db).db.connectedOf other =
          if other = taxiId then some true else db.connectedOf other := by
  unfold addTaxi
  rw [DbConnectionHandler.query_one]
  by_cases outage : outages.head? = some true
  · simp [outage]
  · cases ran : addTaxiStatement taxiId false now db with
    | error error => simp [outage]
    | ok result =>
        obtain ⟨next, rows⟩ := result
        have effect : Statement.insert (fun now => Tables.insertTaxi now taxiId) now db =
            .ok (next, rows) := ran
        obtain ⟨inserted, _⟩ := Statement.insert_eq_ok_iff.mp effect
        obtain ⟨taxis, added, same⟩ := Option.map_eq_some_iff.mp inserted
        have free := Table.lookup_of_insert? added
        have stored := Table.lookup_insert? added
        refine .inr ?_
        simp only [outage, if_false, Option.some.injEq, exists_eq', true_and]
        refine ⟨?_, fun other => ?_⟩
        · simpa [Tables.connectedOf, TaxiRow.inserted] using free
        · rw [← same]
          by_cases equal : other = taxiId <;>
            simp [Tables.connectedOf, stored, TaxiRow.inserted, equal]

/-- The `UPDATE` of `addTaxi` connects the taxi, unless it meets an outage. -/
theorem addTaxi_update :
    if outages.head? = some true then
      (addTaxi now session taxiId true outages db).value = none ∧
        (addTaxi now session taxiId true outages db).db = db
    else
      (∃ told, (addTaxi now session taxiId true outages db).value = some told) ∧
        ∀ other, (addTaxi now session taxiId true outages db).db.connectedOf other =
          if other = taxiId then (db.connectedOf other).map fun _ => true
          else db.connectedOf other := by
  unfold addTaxi
  rw [DbConnectionHandler.query_one]
  by_cases outage : outages.head? = some true
  · simp [outage]
  · have keys : (db.setConnected now taxiId true).ForeignKeys :=
      db.foreignKeys.updateTaxi now taxiId _ _ fun _ => ⟨rfl, rfl⟩
    have effect : Statement.update (fun now => Tables.setConnected now taxiId true) now db =
        .ok (⟨db.setConnected now taxiId true, keys⟩, none) :=
      Statement.update_eq_ok_iff.mpr ⟨rfl, rfl⟩
    have ran : addTaxiStatement taxiId true now db =
        .ok (⟨db.setConnected now taxiId true, keys⟩, none) := effect
    simp only [outage, if_false, ran, Option.some.injEq, exists_eq', true_and]
    exact fun other => KafkaServer.connectedOf_setConnected

end AuthServer

namespace AuthSystem

/-! ### Acknowledgements and `connected` -/

/-- A step of Central and its threads. -/
abbrev AuthStep := Transition AuthSystem Event

/-- A connected taxi was acknowledged once since it was disconnected last, every other taxi was
not, and a thread reconnects only a stored taxi. -/
structure Accounted (system : AuthSystem) : Prop where
  acked : ∀ taxi, acks taxi system.answers =
    if system.central.db.connectedOf taxi = some true then 1 else 0
  stored : ∀ petition taxi, system.petitions petition = .checked taxi true →
    (system.central.db.connectedOf taxi).isSome

/-- No taxi was acknowledged twice since its `connected` last became `FALSE`. -/
def AckedOnce (system : AuthSystem) : Prop := ∀ taxi, acks taxi system.answers ≤ 1

/-- A taxi which a thread reconnects is still disconnected, unless its query meets an outage. -/
def ReconnectsDisconnected (taken : AuthStep) : Prop :=
  match taken.event with
  | .add _ petition outages =>
      match taken.before.petitions petition with
      | .checked taxi true =>
          outages.head? = some true ∨ taken.before.central.db.connectedOf taxi = some false
      | _ => True
  | _ => True

instance (taken : AuthStep) : Decidable (ReconnectsDisconnected taken) := by
  unfold ReconnectsDisconnected
  split
  · split <;> infer_instance
  · infer_instance

section Answers

variable {taxi other : TaxiId} {answers : List Answered}

@[simp] theorem acks_ack : acks taxi (.ack other :: answers) =
    if other = taxi then acks taxi answers + 1 else acks taxi answers := rfl

@[simp] theorem acks_nack : acks taxi (.nack other :: answers) = acks taxi answers := rfl

@[simp] theorem acks_disconnected : acks taxi (.disconnected other :: answers) =
    if other = taxi then 0 else acks taxi answers := rfl

end Answers

variable {session : Uuid} {before after : AuthSystem} {now : Timestamp} {petition : Nat}
  {taxiId : TaxiId} {outages : List Bool} {message : Message}

/-- Accounts in which every taxi is acknowledged at most once. -/
theorem Accounted.ackedOnce (accounted : Accounted before) : AckedOnce before := by
  intro taxi
  rw [accounted.acked taxi]
  split <;> omega

/-- A check changes no row and acknowledges nobody. -/
theorem Accounted.check (accounted : Accounted before) :
    Accounted (before.check now petition taxiId outages) := by
  unfold AuthSystem.check
  cases passed : AuthServer.checkId now taxiId outages before.central.db with
  | none => exact ⟨accounted.acked, accounted.stored⟩
  | some reconnect =>
      refine ⟨accounted.acked, fun other taxi waiting => ?_⟩
      by_cases same : other = petition
      · subst same
        simp only [Function.update_self, Petition.checked.injEq] at waiting
        obtain ⟨rfl, rfl⟩ := waiting
        simp [AuthServer.connectedOf_of_checkId passed]
      · simp only [Function.update_of_ne same] at waiting
        exact accounted.stored other taxi waiting

/-- A thread which has answered leaves the others as they were. -/
theorem Accounted.stored_idle (accounted : Accounted before) {db : Db}
    (grows : ∀ taxi, (before.central.db.connectedOf taxi).isSome → (db.connectedOf taxi).isSome)
    (other : Nat) (taxi : TaxiId)
    (waiting : Function.update before.petitions petition .idle other = .checked taxi true) :
    (db.connectedOf taxi).isSome := by
  by_cases same : other = petition
  · simp [same] at waiting
  · rw [Function.update_of_ne same] at waiting
    exact grows taxi (accounted.stored other taxi waiting)

/-- A new taxi is acknowledged only when its row is stored. -/
theorem Accounted.add_new (accounted : Accounted before)
    (added : before.add session now petition taxiId false outages = some after) :
    Accounted after := by
  simp only [add, System.step, Option.map_some, Option.some.injEq] at added
  subst added
  rcases @AuthServer.addTaxi_insert now session taxiId outages before.central.db with
    ⟨refused, kept⟩ | ⟨⟨told, stored⟩, free, kept⟩
  · refine ⟨fun taxi => ?_, accounted.stored_idle fun taxi present => ?_⟩
    · simp only [refused, acks_nack, kept]
      exact accounted.acked taxi
    · rwa [kept]
  · refine ⟨fun taxi => ?_, accounted.stored_idle fun taxi present => ?_⟩
    · have acked := accounted.acked taxi
      simp only [stored, acks_ack, kept]
      by_cases same : taxi = taxiId
      · subst same
        simp [acked, free]
      · simp [acked, same, Ne.symm same]
    · rw [kept]
      split
      · rfl
      · exact present

/-- A taxi whose query meets an outage is not acknowledged. -/
theorem Accounted.add_outage (accounted : Accounted before) (outage : outages.head? = some true)
    (added : before.add session now petition taxiId true outages = some after) :
    Accounted after := by
  simp only [add, System.step, Option.map_some, Option.some.injEq] at added
  subst added
  have updated := @AuthServer.addTaxi_update now session taxiId outages before.central.db
  rw [if_pos outage] at updated
  obtain ⟨refused, kept⟩ := updated
  refine ⟨fun taxi => ?_, accounted.stored_idle fun taxi present => ?_⟩
  · simp only [refused, acks_nack, kept]
    exact accounted.acked taxi
  · rwa [kept]

/-- A disconnected taxi is acknowledged when it reconnects. -/
theorem Accounted.add_disconnected (accounted : Accounted before)
    (clear : outages.head? ≠ some true)
    (disconnected : before.central.db.connectedOf taxiId = some false)
    (added : before.add session now petition taxiId true outages = some after) :
    Accounted after := by
  simp only [add, System.step, Option.map_some, Option.some.injEq] at added
  subst added
  have updated := @AuthServer.addTaxi_update now session taxiId outages before.central.db
  rw [if_neg clear] at updated
  obtain ⟨⟨told, stored⟩, kept⟩ := updated
  refine ⟨fun taxi => ?_, accounted.stored_idle fun taxi present => ?_⟩
  · have acked := accounted.acked taxi
    simp only [stored, acks_ack, kept]
    by_cases same : taxi = taxiId
    · subst same
      simp [acked, disconnected]
    · simp [acked, same, Ne.symm same]
  · rw [kept]
    split
    · simpa using present
    · exact present

/-- A connected taxi which reconnects is acknowledged a second time. -/
theorem Accounted.add_connected (accounted : Accounted before)
    (clear : outages.head? ≠ some true)
    (connected : before.central.db.connectedOf taxiId = some true)
    (added : before.add session now petition taxiId true outages = some after) :
    ¬ AckedOnce after := by
  simp only [add, System.step, Option.map_some, Option.some.injEq] at added
  subst added
  have updated := @AuthServer.addTaxi_update now session taxiId outages before.central.db
  rw [if_neg clear] at updated
  obtain ⟨⟨told, stored⟩, _⟩ := updated
  intro once
  have twice := once taxiId
  simp [stored, accounted.acked taxiId, connected] at twice

/-- A consumed message closes the account of the taxi it disconnects and of no other. -/
theorem Accounted.request (accounted : Accounted before)
    (consumed : before.request session now message outages = some after) : Accounted after := by
  obtain ⟨central, stepped, rfl⟩ := Option.map_eq_some_iff.mp consumed
  cases System.stepped_of_step stepped with
  | consumed ran =>
      have stays := KafkaServer.process_staysConnected ran
      refine ⟨fun taxi => ?_, fun other taxi waiting => ?_⟩
      · have acked := accounted.acked taxi
        rcases stays taxi with unchanged | ⟨_, rfl, present, fallen⟩
        · rw [unchanged]
          by_cases named : message.taxiId = taxi
          · subst named
            cases connected : before.central.db.connectedOf message.taxiId <;>
              simp_all
          · split <;> simpa [named] using acked
        · obtain ⟨connected, found⟩ := Option.isSome_iff_exists.mp present
          cases connected <;> simp_all
      · have present := accounted.stored other taxi waiting
        rcases stays taxi with unchanged | ⟨_, _, _, fallen⟩
        · simpa [unchanged] using present
        · simp [fallen]

/-- Under exact accounts, a step acknowledges no taxi twice exactly when it reconnects only a
disconnected taxi, and it keeps the accounts exact in that case. -/
theorem Accounted.step_exact {taken : AuthStep} (accounted : Accounted taken.before)
    (stepped : (machine session).step taken.before taken.event = some taken.after) :
    (AckedOnce taken.after ↔ ReconnectsDisconnected taken) ∧
      (ReconnectsDisconnected taken → Accounted taken.after) := by
  obtain ⟨before, event, after⟩ := taken
  -- A step which keeps the accounts whatever happens is good, and so is its guard.
  have always (meets : ReconnectsDisconnected ⟨before, event, after⟩) (kept : Accounted after) :
      (AckedOnce after ↔ ReconnectsDisconnected ⟨before, event, after⟩) ∧
        (ReconnectsDisconnected ⟨before, event, after⟩ → Accounted after) :=
    ⟨iff_of_true kept.ackedOnce meets, fun _ => kept⟩
  cases event with
  | check now petition taxiId outages =>
      cases waits : before.petitions petition with
      | idle =>
          simp only [machine, step, waits, Option.some.injEq] at stepped
          subst stepped
          exact always trivial accounted.check
      | checked other reconnect => simp [machine, step, waits] at stepped
  | add now petition outages =>
      cases waits : before.petitions petition with
      | idle => simp [machine, step, waits] at stepped
      | checked taxiId reconnect =>
          simp only [machine, step, waits] at stepped
          cases reconnect with
          | false =>
              refine always ?_ (accounted.add_new stepped)
              simp [ReconnectsDisconnected, waits]
          | true =>
              have guard : ReconnectsDisconnected ⟨before, .add now petition outages, after⟩ ↔
                  outages.head? = some true ∨
                    before.central.db.connectedOf taxiId = some false := by
                simp [ReconnectsDisconnected, waits]
              by_cases outage : outages.head? = some true
              · exact always (guard.mpr (.inl outage)) (accounted.add_outage outage stepped)
              · obtain ⟨connected, found⟩ :=
                  Option.isSome_iff_exists.mp (accounted.stored petition taxiId waits)
                cases connected with
                | false =>
                    exact always (guard.mpr (.inr found))
                      (accounted.add_disconnected outage found stepped)
                | true =>
                    have broken :
                        ¬ ReconnectsDisconnected ⟨before, .add now petition outages, after⟩ := by
                      rw [guard]
                      simp [outage, found]
                    exact ⟨iff_of_false (accounted.add_connected outage found stepped) broken,
                      fun meets => absurd meets broken⟩
  | request now message outages => exact always trivial (accounted.request stepped)

end AuthSystem

/-- In a run of Central and its authentication threads, no taxi is acknowledged twice between
two moments at which its `connected` becomes `FALSE`, exactly when every reconnecting
`UPDATE` finds its taxi still disconnected. -/
theorem acknowledged_once_iff (session : Uuid) (locations : Table LocationRow.id)
    (events : List AuthSystem.Event) :
    (∀ taken ∈ (AuthSystem.machine session).run (AuthSystem.start locations) events,
        AuthSystem.AckedOnce taken.after) ↔
      ∀ taken ∈ (AuthSystem.machine session).run (AuthSystem.start locations) events,
        AuthSystem.ReconnectsDisconnected taken := by
  have initial : AuthSystem.Accounted (AuthSystem.start locations) :=
    ⟨fun taxi => rfl, fun petition taxi waiting => by cases waiting⟩
  refine Machine.run_exact AuthSystem.Accounted
    (fun taken stepped (_ : True) accounted => (accounted.step_exact stepped).1)
    (fun taken stepped _ meets accounted => (accounted.step_exact stepped).2 meets) initial
    fun _ _ => trivial

/-- A taxi joins and is disconnected, and two threads check it before either adds it. -/
def twoPetitions : List AuthSystem.Event :=
  [.check 0 0 1 [], .add 0 0 [],
    .request 0 { Message.request [] .orderTaxiDisconnect with taxiId := 1 } [],
    .check 0 0 1 [], .check 0 1 1 [], .add 0 0 [], .add 0 1 []]

/-- Both of two threads which found a taxi disconnected acknowledge it. -/
theorem reconnected_twice :
    ¬ ∀ (session : Uuid) (locations : Table LocationRow.id) (events : List AuthSystem.Event),
      ∀ taken ∈ (AuthSystem.machine session).run (AuthSystem.start locations) events,
        AuthSystem.AckedOnce taken.after := by
  intro claimed
  have once : ∀ taken ∈ (AuthSystem.machine Town.session).run
      (AuthSystem.start Town.locations) twoPetitions, AuthSystem.acks 1 taken.after.answers ≤ 1 :=
    fun taken member => claimed Town.session Town.locations twoPetitions taken member 1
  revert once
  decide +kernel

end EasyCab
