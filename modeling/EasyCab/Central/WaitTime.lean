import EasyCab.Central.Columns
import EasyCab.Central.Departure

/-!
# What the row of a taxi says of its wait

Central writes `wait_time` and `ready` under three subjects, which only the taxi itself sends.
`process_waiting` says what a consumed message makes of the two columns of a stored taxi: a message
under another subject, or of another taxi, leaves them, whatever queries fail.
-/

namespace EasyCab

open Library

/-- How long a taxi waits and whether it is ready. -/
def TaxiRow.waiting (row : TaxiRow) : Int32 × Bool := (row.waitTime, row.ready)

namespace Message

variable (message : Message) (taxi : TaxiId)

/-- The message says how long the taxi waits or whether it is ready. -/
def settles : Bool :=
  message.taxiId = taxi &&
    (message.subject = .request .taxiReady || message.subject = .request .taxiNotReady ||
      message.subject = .request .taxiUpdateWaitTime)

/-- What such a message makes of the two columns of the taxi. -/
def settle (columns : Int32 × Bool) : Int32 × Bool :=
  if message.taxiId = taxi then
    match message.subject with
    | .request .taxiReady => (columns.1, true)
    | .request .taxiNotReady => (columns.1, false)
    | .request .taxiUpdateWaitTime => (message.intFromData, decide (message.intFromData = 0))
    | _ => columns
  else columns

variable {message taxi}

/-- A message which settles nothing leaves the columns as they are. -/
theorem settle_of_not_settles (other : message.settles taxi = false) (columns : Int32 × Bool) :
    message.settle taxi columns = columns := by
  unfold settle
  split
  · next same =>
    simp only [settles, same, decide_true, Bool.true_and, Bool.or_eq_false_iff,
      decide_eq_false_iff_not] at other
    obtain ⟨⟨ready, notReady⟩, updates⟩ := other
    split
    · next asked => exact absurd asked ready
    · next asked => exact absurd asked notReady
    · next asked => exact absurd asked updates
    · rfl
  · rfl

end Message

/-- What messages make of the two columns of the taxi, one after the other. -/
def Message.settleAll (messages : List Message) (taxi : TaxiId) (columns : Int32 × Bool) :
    Int32 × Bool :=
  messages.foldl (fun columns message => message.settle taxi columns) columns

/-- Messages behind the others come last. -/
theorem Message.settleAll_append {messages later : List Message} {taxi : TaxiId}
    {columns : Int32 × Bool} :
    settleAll (messages ++ later) taxi columns =
      settleAll later taxi (settleAll messages taxi columns) :=
  List.foldl_append

/-- Messages which do not settle the columns leave them. -/
theorem Message.settleAll_of_quiet {messages : List Message} {taxi : TaxiId}
    (quiet : ∀ message ∈ messages, message.settles taxi = false) (columns : Int32 × Bool) :
    settleAll messages taxi columns = columns := by
  induction messages with
  | nil => rfl
  | cons message messages inductionHypothesis =>
      rw [List.forall_mem_cons] at quiet
      rw [settleAll, List.foldl_cons, settle_of_not_settles quiet.1]
      exact inductionHypothesis quiet.2

namespace KafkaServer

variable {now : Timestamp} {session : Uuid} {server : KafkaServer} {request : Message}
  {subject : SubjRequest} {taxi : TaxiId} {outcome : Outcome KafkaServer Act Unit}

/-! ### What leaves the two columns -/

/-- What a request writes to the row of its taxi leaves them, unless the request settles them. -/
theorem Updated.waiting_kept {update : TaxiRow → TaxiRow} (updated : Updated request subject update)
    (asked : request.subject = .request subject) (other : request.settles request.taxiId = false)
    (row : TaxiRow) : (update row).waiting = row.waiting := by
  cases updated with
  | @readied _ ready readies =>
      have settles : request.settles request.taxiId = true := by
        cases subject <;> cases readies <;> simp [Message.settles, asked]
      rw [other] at settles
      cases settles
  | waited => simp [Message.settles, asked] at other
  | _ => rfl

/-- A request which does not settle how long a taxi waits changes neither column of it. -/
theorem Issued.maintains_waiting {columns : Option (Int32 × Bool)} {statement : Statement}
    (issued : Issued request subject statement) (asked : request.subject = .request subject)
    (other : request.settles taxi = false) :
    statement.Maintains fun db => db.taxiColumn TaxiRow.waiting taxi = columns := by
  refine @Issued.maintains_column _ TaxiRow.waiting (· = columns) request subject taxi (fun _ _ => rfl)
    (fun _ _ _ _ => rfl) (fun update updated same row holds => ?_) statement issued
  rw [updated.waiting_kept asked (same ▸ other), holds]

/-! ### Whole messages -/

/-- The columns after an executed update which writes them. -/
theorem waiting_query_updateTaxi {update : TaxiRow → TaxiRow}
    {keeps : ∀ row, (update row).id = row.id} {change : Int32 × Bool → Int32 × Bool}
    (executed : server.outages.head? ≠ some true)
    (kept : ∀ row, (update row).customerId = row.customerId ∧ (update row).service = row.service)
    (changes : ∀ row, (update row).waiting = change row.waiting) :
    (DbConnectionHandler.query now
        [.update fun now tables => tables.updateTaxi now taxi update keeps] server.outages
        server.db).db.taxiColumn TaxiRow.waiting taxi =
      (server.db.taxiColumn TaxiRow.waiting taxi).map change := by
  rw [DbConnectionHandler.query_updateTaxi executed kept,
    Tables.taxiColumn_updateTaxi (fun _ _ => rfl) change changes, if_pos rfl]

/-- A consumed message makes of the two columns of a taxi what it says, where it is admitted and its
`UPDATE` is executed. -/
theorem process_waiting (ran : process now session request server = .ok outcome)
    (executed : request.settles taxi = true →
      request.session = session.1 ∧ server.outages.head? ≠ some true) :
    outcome.state.db.taxiColumn TaxiRow.waiting taxi =
      (server.db.taxiColumn TaxiRow.waiting taxi).map (request.settle taxi) := by
  cases settles : request.settles taxi with
  | false =>
      have unchanged : request.settle taxi = id :=
        funext fun columns => Message.settle_of_not_settles settles columns
      rw [unchanged, Option.map_id_fun, id]
      refine @process_maintains (fun db => db.taxiColumn TaxiRow.waiting taxi =
        server.db.taxiColumn TaxiRow.waiting taxi) now session request server outcome
        (fun subject accepted statement issued => ?_) ran rfl
      exact issued.maintains_waiting (subject_of_accepted accepted) settles
  | true =>
      obtain ⟨admitted, answers⟩ := executed settles
      simp only [Message.settles, Bool.and_eq_true, decide_eq_true_eq, Bool.or_eq_true] at settles
      obtain ⟨rfl, asked⟩ := settles
      have accepted {subject : SubjRequest} (asked : request.subject = .request subject) :
          accepted? session request = some subject := by
        simp [accepted?, asked, Message.checkSession, admitted]
      rcases asked with (ready | notReady) | updates
      · rw [process_run (accepted ready) rfl ran]
        refine waiting_query_updateTaxi answers (fun _ => ⟨rfl, rfl⟩) fun row => ?_
        simp [Message.settle, ready, TaxiRow.waiting]
      · rw [process_run (accepted notReady) rfl ran]
        refine waiting_query_updateTaxi answers (fun _ => ⟨rfl, rfl⟩) fun row => ?_
        simp [Message.settle, notReady, TaxiRow.waiting]
      · rw [process_run (accepted updates) rfl ran]
        refine waiting_query_updateTaxi answers (fun _ => ⟨rfl, rfl⟩) fun row => ?_
        simp [Message.settle, updates, TaxiRow.waiting]

end KafkaServer

end EasyCab
