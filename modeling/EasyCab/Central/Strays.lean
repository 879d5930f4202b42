import EasyCab.Central.KafkaServer

/-!
# Stray taxis and customers

`checkStrays` runs in a process of its own. In each round it looks for the taxis and
the customers which have not been heard of for three seconds and orders them to be
disconnected.
-/

namespace EasyCab

open Library

namespace Statement

/-- `SELECT id FROM taxis WHERE connected = TRUE AND last_update < NOW() - INTERVAL 3 SECOND`. -/
def selectStrayTaxis : Statement := fun now => select (fun tables =>
  (tables.taxis.rows.filter fun row => row.connected && row.lastUpdate + 3 < now).map fun row =>
    [.int row.id.toInt32]) now

/-- `SELECT id FROM customers WHERE last_update < NOW() - INTERVAL 3 SECOND`. -/
def selectStrayCustomers : Statement := fun now => select (fun tables =>
  (tables.customers.rows.filter fun row => row.lastUpdate + 3 < now).map fun row =>
    [.char row.id]) now

end Statement

namespace KafkaServer

/-- The process of `checkStrays`: what it records are the messages it puts on `requests`. -/
abbrev StraysProcess := Effect Unit Fault Message

/-- The order for a row of the first result. -/
def strayTaxi (row : Row) : Except Fault Message := do
  let id ← intColumn row 0
  return { Message.new with taxiId := id.toInt16, subject := .request .orderTaxiDisconnect }

/-- The order for a row of the second result. -/
def strayCustomer (row : Row) : Except Fault Message := do
  let id ← charColumn row 0
  return { Message.new with id := id, subject := .request .orderCustomerDisconnect }

/-- One of the two loops: an order for each row. -/
def sendOrders (order : Row → Except Fault Message) : List Row → StraysProcess Unit
  | [] => return ()
  | row :: rows => do
      let message ← Effect.demand (order row)
      Effect.record message
      sendOrders order rows

/-- One round of `checkStrays`. -/
def checkStrays (now : Timestamp) (outages : List Bool) (db : Db) : StraysProcess Unit :=
  match (DbConnectionHandler.query now [.selectStrayTaxis, .selectStrayCustomers] outages
      db).value with
  | .error _ => return ()
  | .ok results => do
      let (taxiRows, results) := readRows results
      sendOrders strayTaxi taxiRows
      let (customerRows, _) := readRows results.nextResult.2
      sendOrders strayCustomer customerRows

/-! ### What the orders have in common -/

section Orders

variable {Sent : Message → Prop}

/-- A loop sends what its orders are. -/
theorem sendOrders_sent {order : Row → Except Fault Message}
    (sent : ∀ row message, order row = .ok message → Sent message) (rows : List Row) :
    Effect.Maintains (fun _ => True) Sent (sendOrders order rows) := by
  induction rows with
  | nil => exact Effect.maintains_pure
  | cons row rows inductionHypothesis =>
      intro state holds
      refine .demand_bind holds fun message ordered => ?_
      exact .record_bind (sent row message ordered) (inductionHypothesis state holds)

/-- What is true of the orders for taxis and for customers is true of all that `checkStrays`
sends. -/
theorem checkStrays_sent (taxi : ∀ row message, strayTaxi row = .ok message → Sent message)
    (customer : ∀ row message, strayCustomer row = .ok message → Sent message) (now : Timestamp)
    (outages : List Bool) (db : Db) :
    ∀ message ∈ (checkStrays now outages db).acts (), Sent message := by
  have maintains : Effect.Maintains (fun _ => True) Sent (checkStrays now outages db) := by
    unfold checkStrays
    split
    · exact Effect.maintains_pure
    · exact (sendOrders_sent taxi _).bind fun _ => sendOrders_sent customer _
  exact (maintains () trivial).holds.2

end Orders

/-- A message whose session was never set. -/
def Unset (message : Message) : Prop := message.session = []

variable {row : Row} {message : Message}

theorem strayTaxi_eq_ok (ordered : strayTaxi row = .ok message) :
    ∃ id : Int32, message =
      { Message.new with taxiId := id.toInt16, subject := .request .orderTaxiDisconnect } := by
  unfold strayTaxi at ordered
  cases column : intColumn row 0 with
  | error fault => simp [column, bind, Except.bind] at ordered
  | ok id =>
      simp only [column, bind, Except.bind, pure, Except.pure, Except.ok.injEq] at ordered
      exact ⟨id, ordered.symm⟩

theorem strayCustomer_eq_ok (ordered : strayCustomer row = .ok message) :
    ∃ id, message = { Message.new with id := id, subject := .request .orderCustomerDisconnect } := by
  unfold strayCustomer at ordered
  cases column : charColumn row 0 with
  | error fault => simp [column, bind, Except.bind] at ordered
  | ok id =>
      simp only [column, bind, Except.bind, pure, Except.pure, Except.ok.injEq] at ordered
      exact ⟨id, ordered.symm⟩

/-- No order of `checkStrays` has a session. -/
theorem checkStrays_unset (now : Timestamp) (outages : List Bool) (db : Db) :
    ∀ message ∈ (checkStrays now outages db).acts (), Unset message := by
  refine checkStrays_sent (fun row message ordered => ?_) (fun row message ordered => ?_) now outages db
  · obtain ⟨id, rfl⟩ := strayTaxi_eq_ok ordered
    rfl
  · obtain ⟨id, rfl⟩ := strayCustomer_eq_ok ordered
    rfl

/-- `checkStrays` produces orders to disconnect somebody and nothing else. -/
theorem checkStrays_orders (now : Timestamp) (outages : List Bool) (db : Db) :
    ∀ message ∈ (checkStrays now outages db).acts (),
      message.subject = .request .orderTaxiDisconnect ∨
        message.subject = .request .orderCustomerDisconnect := by
  refine checkStrays_sent (fun row message ordered => ?_) (fun row message ordered => ?_) now outages db
  · obtain ⟨id, rfl⟩ := strayTaxi_eq_ok ordered
    exact .inl rfl
  · obtain ⟨id, rfl⟩ := strayCustomer_eq_ok ordered
    exact .inr rfl

end KafkaServer

end EasyCab
