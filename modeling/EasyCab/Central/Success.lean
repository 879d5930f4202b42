import EasyCab.Central.Announcements
import EasyCab.Central.Replies
import EasyCab.Central.Snapshot

/-!
# When every query of a request succeeds

What is known of Central is mostly known of requests whose queries all succeed. Where no outage
comes in between, a statement fails only because of its text or of a foreign key, and `Smooth` says
for each subject when none of its statements does: exactly then Central treats the request to its
end and no query fails.
-/

namespace EasyCab

open Library

/-! ### Statements one after the other -/

namespace DbConnectionHandler

variable {now : Timestamp} {db : Db} {statements : List Statement}

/-- Without outages, no statement of the loop fails where all of them can be run one after the
other. -/
theorem moreResults_failures_nil_iff : (moreResults now statements [] db).failures = [] ↔
    ∃ last results, runAll now statements db = .ok (last, results) := by
  induction statements generalizing db with
  | nil => exact iff_of_true rfl ⟨db, [], rfl⟩
  | cons statement rest inductionHypothesis =>
      have due : ¬ OutAt [] 0 := by simp [OutAt]
      rw [moreResults_failures_iff, and_iff_right due]
      simp only [List.tail_nil, inductionHypothesis, runAll_cons]
      constructor
      · rintro ⟨next, rows, ran, last, results, later⟩
        exact ⟨last, _, next, rows, results, ran, later, rfl⟩
      · rintro ⟨last, _, next, rows, results, ran, later, _⟩
        exact ⟨next, rows, ran, last, results, later⟩

/-- A query without an outage whose statements all run answers their result sets. -/
theorem query_of_runAll {last : Db} {results : List ResultSet}
    (all : runAll now statements db = .ok (last, results)) :
    query now statements [] db = ⟨.ok (.ofResults results), last, [], []⟩ := by
  have clean : (query now statements [] db).failures = [] := by
    rw [query_failures]
    exact moreResults_failures_nil_iff.mpr ⟨last, results, all⟩
  obtain ⟨_, _, same, answered⟩ := query_clean clean
  rw [all] at same
  cases same
  simpa using answered

end DbConnectionHandler

/-- Tables can be stored where their foreign keys hold. -/
theorem Tables.exists_db_iff {tables : Tables} :
    (∃ db : Db, db.toTables = tables) ↔ tables.ForeignKeys := by
  constructor
  · rintro ⟨db, rfl⟩
    exact db.foreignKeys
  · exact fun keys => ⟨⟨tables, keys⟩, rfl⟩

/-- A database is its tables. -/
theorem Db.eq_of_toTables {first second : Db} (same : first.toTables = second.toTables) :
    first = second := by
  cases first
  cases second
  cases same
  rfl

namespace KafkaServer

/-- The computation ends, and no query of it fails. -/
def Succeeds {Value : Type} (handler : Handler Value) (server : KafkaServer) : Prop :=
  ∃ outcome, Yields handler server outcome

section Succeeds

variable {Value Result : Type} {first : Handler Value} {next : Value → Handler Result}
  {server last : KafkaServer} {now : Timestamp} {db : Db} {response : Message}
  {statements : List Statement}

@[simp] theorem succeeds_pure {value : Value} : Succeeds (pure value) server :=
  ⟨_, Effect.yields_pure.mpr rfl⟩

/-- After a first part with a known outcome, a sequence succeeds exactly when its second part
does. -/
theorem succeeds_bind_iff {middle : Outcome KafkaServer Act Value} (ran : Yields first server middle) :
    Succeeds (first >>= next) server ↔ Succeeds (next middle.value) middle.state := by
  constructor
  · rintro ⟨outcome, sequence⟩
    obtain ⟨middle', last, ranFirst, ranNext, _⟩ := Effect.yields_bind.mp sequence
    cases ran.1.symm.trans ranFirst.1
    exact ⟨last, ranNext⟩
  · rintro ⟨last, ranNext⟩
    exact ⟨_, Effect.yields_bind.mpr ⟨middle, last, ran, ranNext, rfl⟩⟩

/-- The first part of a sequence which succeeds does. -/
theorem Succeeds.of_bind (succeeds : Succeeds (first >>= next) server) : Succeeds first server := by
  obtain ⟨outcome, sequence⟩ := succeeds
  obtain ⟨middle, last, ranFirst, _⟩ := Effect.yields_bind.mp sequence
  exact ⟨middle, ranFirst⟩

/-- What only relabels a value succeeds with it. -/
theorem succeeds_bind_pure_iff {relabel : Value → Result} :
    Succeeds (first >>= fun value => pure (relabel value)) server ↔ Succeeds first server := by
  constructor
  · exact Succeeds.of_bind
  · rintro ⟨middle, ran⟩
    exact (succeeds_bind_iff ran).mpr succeeds_pure

/-- A part which reads something fails in nothing. -/
theorem succeeds_read_bind_iff {value : Value} (reads : first server = .ok ⟨value, last, []⟩) :
    Succeeds (first >>= next) server ↔ Succeeds (next value) last :=
  succeeds_bind_iff ⟨reads, by simp⟩

@[simp] theorem succeeds_setResponse_bind_iff {update : Message → Message}
    {rest : Unit → Handler Result} : Succeeds (setResponse update >>= rest) server ↔
      Succeeds (rest ()) { server with response := update server.response } :=
  succeeds_bind_iff (setResponse_yields.mpr rfl)

@[simp] theorem succeeds_produce : Succeeds produce server := ⟨_, produce_yields.mpr rfl⟩

@[simp] theorem succeeds_respond {answer : SubjResponse} : Succeeds (respond answer) server :=
  ⟨_, respond_yields.mpr rfl⟩

@[simp] theorem succeeds_respond_bind_iff {answer : SubjResponse} {rest : Unit → Handler Result} :
    Succeeds (respond answer >>= rest) server ↔ Succeeds (rest ())
      { server with response := { server.response with subject := .response answer } } :=
  succeeds_bind_iff (respond_yields.mpr rfl)

/-- A query succeeds where all of its statements can be run. -/
theorem succeeds_query_bind_iff {rest : Except SqlError DbResults → Handler Result} :
    Succeeds (query now statements >>= rest) ⟨db, [], response⟩ ↔
      ∃ last results, DbConnectionHandler.runAll now statements db = .ok (last, results) ∧
        Succeeds (rest (.ok (.ofResults results))) ⟨last, [], response⟩ := by
  have ran {last : Db} {results : List ResultSet}
      (all : DbConnectionHandler.runAll now statements db = .ok (last, results)) :
      query now statements ⟨db, [], response⟩ =
        .ok ⟨.ok (.ofResults results), ⟨last, [], response⟩, []⟩ := by
    simp only [query, DbConnectionHandler.query_of_runAll all, List.map_nil]
  constructor
  · intro succeeds
    obtain ⟨middle, queried⟩ := succeeds.of_bind
    obtain ⟨last, results, _, all, _⟩ := query_yields queried
    exact ⟨last, results, all, (succeeds_read_bind_iff (ran all)).mp succeeds⟩
  · rintro ⟨last, results, all, succeeds⟩
    exact (succeeds_read_bind_iff (ran all)).mpr succeeds

theorem succeeds_run_bind_iff {rest : Unit → Handler Result} :
    Succeeds (run now statements >>= rest) ⟨db, [], response⟩ ↔
      ∃ last results, DbConnectionHandler.runAll now statements db = .ok (last, results) ∧
        Succeeds (rest ()) ⟨last, [], response⟩ := by
  have queried {last : Db} {results : List ResultSet}
      (all : DbConnectionHandler.runAll now statements db = .ok (last, results)) :
      run now statements ⟨db, [], response⟩ = .ok ⟨(), ⟨last, [], response⟩, []⟩ := by
    refine Effect.bind_eq_ok_iff.mpr ⟨_, _, rfl, rfl, ?_⟩
    simp [DbConnectionHandler.query_of_runAll all]
  constructor
  · intro succeeds
    obtain ⟨middle, ran⟩ := succeeds.of_bind
    obtain ⟨last, results, _, all, _⟩ := run_yields ran
    exact ⟨last, results, all, (succeeds_read_bind_iff (queried all)).mp succeeds⟩
  · rintro ⟨last, results, all, succeeds⟩
    exact (succeeds_read_bind_iff (queried all)).mpr succeeds

/-- A query after which nothing can fail decides whether the whole succeeds. -/
theorem succeeds_run_last_iff {rest : Unit → Handler Result}
    (goes : ∀ server, Succeeds (rest ()) server) :
    Succeeds (run now statements >>= rest) ⟨db, [], response⟩ ↔
      Sent.Succeeds now ⟨statements, [], db⟩ := by
  rw [succeeds_run_bind_iff, Sent.Succeeds, DbConnectionHandler.query_failures,
    DbConnectionHandler.moreResults_failures_nil_iff]
  constructor
  · rintro ⟨last, results, all, _⟩
    exact ⟨last, results, all⟩
  · rintro ⟨last, results, all⟩
    exact ⟨last, results, all, goes _⟩

/-- A query of one statement after which nothing can fail. -/
theorem succeeds_run_one_iff {statement : Statement} {rest : Unit → Handler Result}
    (goes : ∀ server, Succeeds (rest ()) server) :
    Succeeds (run now [statement] >>= rest) ⟨db, [], response⟩ ↔ statement.Runs now db := by
  rw [succeeds_run_last_iff goes, succeeds_one_iff]
  simp [DbConnectionHandler.OutAt]

/-- A case of the switch which is one query succeeds exactly if its statement runs. -/
theorem succeeds_run_return_iff {statement : Statement} {refresh : Bool} :
    Succeeds (do run now [statement]; return refresh) ⟨db, [], response⟩ ↔ statement.Runs now db :=
  succeeds_run_one_iff fun _ => succeeds_pure

end Succeeds

/-! ### Helper functions -/

section Helpers

variable {now : Timestamp} {db : Db} {response request : Message} {taxi : TaxiId} {customer : Id}

/-- `assign` succeeds where it ends. -/
theorem succeeds_assign_iff : Succeeds (assign now taxi customer) ⟨db, [], response⟩ ↔
    Statement.quotable customer = true ∧ db.trips.Assignable taxi customer := by
  constructor
  · rintro ⟨outcome, ran, _⟩
    exact assign_ends_iff.mp ⟨outcome, ran⟩
  · rintro ⟨literal, assignable⟩
    have keys : (db.assignTaxi now taxi customer).ForeignKeys :=
      Decidable.byContradiction fun refused => not_assignable_of_refused refused assignable
    have sent := (dest_assign_iff keys).mpr assignable
    rw [← @Tables.trips_assignTaxi db.toTables now taxi customer] at sent
    obtain ⟨coord, dest⟩ := Option.isSome_iff_exists.mp sent
    have ran := @assign_of_stored now db ⟨_, keys⟩ response taxi customer coord literal rfl dest
    exact ⟨_, ran, by simp⟩

/-- The position of a taxi can be stored if the customer which it carries can be quoted. -/
theorem reportPosition_of_quotable
    (literal : ∀ customer ∈ db.customerIdOf request.taxiId, Statement.quotable customer = true) :
    ∃ moved : Db, moved.toTables = movedTables now request.taxiId request.coord
        (db.customerIdOf request.taxiId) db.toTables ∧
      reportPosition now request ⟨db, [], response⟩ =
        .ok ⟨db.customerIdOf request.taxiId, ⟨moved, [], response⟩, []⟩ := by
  have taxiMoved : (db.moveTaxi now request.taxiId request.coord).ForeignKeys :=
    db.foreignKeys.updateTaxi now request.taxiId _ _ fun _ => ⟨rfl, rfl⟩
  have ran {last : Db} (all : DbConnectionHandler.runAll now
      (.moveTaxi request.taxiId request.coord ::
        ((db.customerIdOf request.taxiId).map fun customer =>
          Statement.moveCustomer customer request.coord).toList) db = .ok (last, [])) :
      reportPosition now request ⟨db, [], response⟩ =
        .ok ⟨db.customerIdOf request.taxiId, ⟨last, [], response⟩, []⟩ := by
    refine Effect.bind_eq_ok_iff.mpr ⟨_, ⟨_, ⟨last, [], response⟩, []⟩, carryingClient_eq, ?_, rfl⟩
    refine Effect.bind_eq_ok_iff.mpr ⟨⟨(), ⟨last, [], response⟩, []⟩, ⟨_, _, []⟩, ?_, rfl, rfl⟩
    refine Effect.bind_eq_ok_iff.mpr ⟨_, _, rfl, rfl, ?_⟩
    simp [DbConnectionHandler.query_of_runAll all]
  cases carried : db.customerIdOf request.taxiId with
  | none =>
      rw [carried] at ran
      exact ⟨⟨_, taxiMoved⟩, rfl, ran (by simp [Statement.moveTaxi])⟩
  | some customer =>
      rw [carried] at ran literal
      have bothMoved : ((db.moveTaxi now request.taxiId request.coord).moveCustomer now customer
          request.coord).ForeignKeys := taxiMoved.updateCustomer fun _ => rfl
      refine ⟨⟨_, bothMoved⟩, rfl, ran ?_⟩
      simp only [Option.map_some, Option.toList_some, DbConnectionHandler.runAll_cons,
        DbConnectionHandler.runAll_nil]
      exact ⟨⟨_, taxiMoved⟩, none, [], Statement.update_eq_ok_iff.mpr ⟨rfl, rfl⟩,
        ⟨_, none, [], Statement.quoting_eq_ok_iff.mpr
          ⟨by simpa using literal, Statement.update_eq_ok_iff.mpr ⟨rfl, rfl⟩⟩, ⟨rfl, rfl⟩, rfl⟩, rfl⟩

/-- The position of a taxi is stored exactly where the customer which it carries can be quoted. -/
theorem succeeds_reportPosition_bind_iff {Result : Type} {rest : Option Id → Handler Result} :
    Succeeds (reportPosition now request >>= rest) ⟨db, [], response⟩ ↔
      (∀ customer ∈ db.customerIdOf request.taxiId, Statement.quotable customer = true) ∧
        ∃ moved : Db, moved.toTables = movedTables now request.taxiId request.coord
          (db.customerIdOf request.taxiId) db.toTables ∧
            Succeeds (rest (db.customerIdOf request.taxiId)) ⟨moved, [], response⟩ := by
  constructor
  · intro succeeds
    have literal : ∀ customer ∈ db.customerIdOf request.taxiId,
        Statement.quotable customer = true := by
      intro customer carried
      rw [Option.mem_def] at carried
      have reports := succeeds.of_bind
      rw [reportPosition, succeeds_read_bind_iff carryingClient_eq, succeeds_run_bind_iff,
        carried] at reports
      obtain ⟨last, results, all, _⟩ := reports
      simp only [Option.map_some, Option.toList_some, DbConnectionHandler.runAll_cons,
        Statement.moveCustomer, Statement.quoting_eq_ok_iff] at all
      obtain ⟨_, _, _, _, ⟨_, _, _, ⟨quoted, _⟩, _⟩, _⟩ := all
      simpa using quoted
    obtain ⟨moved, tables, ran⟩ := @reportPosition_of_quotable now db response request literal
    exact ⟨literal, moved, tables, (succeeds_read_bind_iff ran).mp succeeds⟩
  · rintro ⟨literal, moved, tables, succeeds⟩
    obtain ⟨other, same, ran⟩ := @reportPosition_of_quotable now db response request literal
    rw [Db.eq_of_toTables (tables.trans same.symm)] at succeeds
    exact (succeeds_read_bind_iff ran).mpr succeeds

/-- A customer is written to a stored taxi where it is stored itself. -/
theorem foreignKeys_onboardTables_iff {val : Bool} (taxiStored : (db.taxis.lookup taxi).isSome) :
    (onboardTables now customer taxi val db.toTables).ForeignKeys ↔
      (val = true → (db.customers.lookup customer).isSome) := by
  have flagged : (db.setOnboardFlag now customer val).ForeignKeys :=
    db.foreignKeys.updateCustomer fun _ => rfl
  have stays (other : Id) : (((db.setOnboardFlag now customer val).customers.lookup other).isSome) =
      (db.customers.lookup other).isSome := by
    simp [Tables.setOnboardFlag, Tables.updateCustomer, apply_ite Option.isSome]
  constructor
  · intro keys aboard
    subst aboard
    have standing : (db.trips.taxiAt taxi).isSome := by
      simpa [Tables.trips, Tables.taxiCoord] using taxiStored
    obtain ⟨coord, stands⟩ := Option.isSome_iff_exists.mp standing
    have carried : (onboardTables now customer taxi true db.toTables).trips.carried taxi =
        some customer := by
      rw [trips_onboardTables]
      simp [Trips.setOnboard, Trips.carry, Trips.setOnboardFlag, stands]
    obtain ⟨row, found, names⟩ := Option.bind_eq_some_iff.mp carried
    rw [← stays]
    exact keys.customerId row (Table.mem_of_lookup found) customer names
  · intro present
    change ((db.setOnboardFlag now customer val).setCustomerId now taxi _).ForeignKeys
    unfold Tables.setCustomerId
    refine flagged.updateTaxi_of (fun row _ other carried => ?_) flagged.service
    cases val with
    | false => cases carried
    | true =>
        obtain rfl : customer = other := by simpa using carried
        rw [stays]
        exact present rfl

/-- `setOnboard` takes aboard who is stored, and sets down anybody. -/
theorem succeeds_setOnboard_bind_iff {Result : Type} {val : Bool} {rest : Unit → Handler Result}
    (taxiStored : (db.taxis.lookup taxi).isSome) :
    Succeeds (setOnboard now customer taxi val >>= rest) ⟨db, [], response⟩ ↔
      Statement.quotable customer = true ∧ (val = true → (db.customers.lookup customer).isSome) ∧
        ∃ boarded : Db, boarded.toTables = onboardTables now customer taxi val db.toTables ∧
          Succeeds (rest ()) ⟨boarded, [], response⟩ := by
  rw [setOnboard, succeeds_run_bind_iff, ← @foreignKeys_onboardTables_iff now db taxi customer val taxiStored]
  simp only [Statement.setOnboardFlag, Statement.setCustomerId, DbConnectionHandler.runAll_cons,
    Statement.quoting_eq_ok_iff, Statement.update_eq_ok_iff, DbConnectionHandler.runAll_nil]
  constructor
  · rintro ⟨last, _, ⟨middle, _, _, ⟨literal, flagged, _⟩, ⟨_, _, _, ⟨_, carried, _⟩, ⟨rfl, _⟩, _⟩, _⟩,
      succeeds⟩
    have tables : last.toTables = onboardTables now customer taxi val db.toTables := by
      rw [carried, flagged]
      rfl
    exact ⟨by simpa using literal, tables ▸ last.foreignKeys, last, tables, succeeds⟩
  · rintro ⟨literal, keys, boarded, tables, succeeds⟩
    have flagged : (db.setOnboardFlag now customer val).ForeignKeys :=
      db.foreignKeys.updateCustomer fun _ => rfl
    refine ⟨boarded, [], ⟨⟨_, flagged⟩, none, [], ⟨by simp [literal], rfl, rfl⟩,
      ⟨boarded, none, [], ⟨?_, tables, rfl⟩, ⟨rfl, rfl⟩, rfl⟩, rfl⟩, succeeds⟩
    cases val <;> simp [literal]

/-- The destination of a customer is read where it can be quoted. -/
theorem succeeds_getDestination_bind_iff {Result : Type} {rest : Option Coordinate → Handler Result} :
    Succeeds (getDestination now customer >>= rest) ⟨db, [], response⟩ ↔
      Statement.quotable customer = true ∧
        Succeeds (rest (db.destinationOf customer)) ⟨db, [], response⟩ := by
  have ran (literal : Statement.quotable customer = true) :
      getDestination now customer ⟨db, [], response⟩ =
        .ok ⟨db.destinationOf customer, ⟨db, [], response⟩, []⟩ := by
    have all : DbConnectionHandler.runAll now [.selectDestination customer] db =
        .ok (db, [(db.destinationOf customer).toList.map fun coord =>
          [.int coord.x, .int coord.y]]) := by
      simp [Statement.selectDestination, literal]
    have queried : query now [.selectDestination customer] ⟨db, [], response⟩ =
        .ok ⟨.ok (.ofResults [(db.destinationOf customer).toList.map fun coord =>
          [.int coord.x, .int coord.y]]), ⟨db, [], response⟩, []⟩ := by
      simp only [query, DbConnectionHandler.query_of_runAll all, List.map_nil]
    refine Effect.bind_eq_ok_iff.mpr
      ⟨_, ⟨db.destinationOf customer, ⟨db, [], response⟩, []⟩, queried, ?_, rfl⟩
    cases db.destinationOf customer <;> rfl
  constructor
  · intro succeeds
    have reads := succeeds.of_bind
    rw [getDestination, succeeds_query_bind_iff] at reads
    obtain ⟨_, _, all, _⟩ := reads
    simp only [Statement.selectDestination, DbConnectionHandler.runAll_cons,
      Statement.quoting_eq_ok_iff] at all
    obtain ⟨_, _, _, ⟨quoted, _⟩, _⟩ := all
    have literal : Statement.quotable customer = true := by simpa using quoted
    exact ⟨literal, (succeeds_read_bind_iff (ran literal)).mp succeeds⟩
  · rintro ⟨literal, succeeds⟩
    exact (succeeds_read_bind_iff (ran literal)).mpr succeeds

end Helpers

end KafkaServer

/-! ### The cases of the switch -/

/-- A taxi which has nothing to do can be assigned to whoever waits longest. -/
def Tables.Summonable (tables : Tables) (taxi : TaxiId) : Prop :=
  ∀ next ∈ tables.queueHead,
    Statement.quotable next = true ∧ tables.trips.Assignable taxi next

/-- None of the statements fails by which a request is treated. -/
def Tables.Smooth (tables : Tables) (request : Message) : SubjRequest → Prop
  | .newTaxi | .taxiReconnected => tables.Summonable request.taxiId
  | .newCustomer | .customerPing | .customerUpdateNextRequest | .orderLocationMove
  | .orderCustomerPriority => Statement.quotable request.id = true
  | .orderCustomerDisconnect =>
      Statement.quotable request.id = true ∧
        ∀ row ∈ tables.taxis.rows, row.customerId ≠ some request.id
  | .taxiMove =>
      ∀ customer ∈ tables.customerIdOf request.taxiId, Statement.quotable customer = true
  | .taxiDestinationReached =>
      match tables.customerIdOf request.taxiId with
      | some customer => Statement.quotable customer = true ∧ tables.Summonable request.taxiId
      | none =>
          ∃ customer, tables.serviceOf request.taxiId = some customer ∧
            Statement.quotable customer = true ∧ (tables.customerCoord customer).isSome
  | .customerServiceRequest =>
      match tables.available with
      | some taxi =>
          KafkaServer.Destinable tables request.id request.charFromData ∧
            tables.trips.Assignable taxi request.id
      | none => Statement.quotable request.id = true
  | _ => True

/-- Who is aboard is of no account for who can be assigned. -/
theorem Trips.assignable_setOnboard {trips : Trips} {taxi other : TaxiId} {customer passenger : Id}
    {val : Bool} :
    (trips.setOnboard passenger other val).Assignable taxi customer ↔
      trips.Assignable taxi customer := Iff.rfl

namespace KafkaServer

variable {now : Timestamp} {session : Uuid} {db : Db} {response request : Message}
  {taxi : TaxiId} {customer : Id}

theorem succeeds_onTaxiArrival_iff : Succeeds (onTaxiArrival now request) ⟨db, [], response⟩ ↔
    db.Summonable request.taxiId := by
  unfold onTaxiArrival
  rw [succeeds_read_bind_iff checkQueue_eq, Tables.Summonable]
  cases db.queueHead with
  | none => simp
  | some next => simpa using succeeds_assign_iff

/-- A carried customer is set down, and the next one is called for. -/
theorem succeeds_completeService_iff (taxiStored : (db.taxis.lookup request.taxiId).isSome) :
    Succeeds (completeService now request customer) ⟨db, [], response⟩ ↔
      Statement.quotable customer = true ∧ db.Summonable request.taxiId := by
  unfold completeService
  rw [succeeds_setOnboard_bind_iff taxiStored]
  simp only [succeeds_setResponse_bind_iff, succeeds_respond_bind_iff]
  -- What is left to do is what a taxi does which arrives without a customer.
  have arrives {landed : Db} {told : Message}
      (tables : landed.toTables = onboardTables now customer request.taxiId false db.toTables) :
      Succeeds (onTaxiArrival now request) ⟨landed, [], told⟩ ↔ db.Summonable request.taxiId := by
    have flag : (db.setOnboardFlag now customer false).queueHead = db.queueHead :=
      Tables.queueHead_updateCustomer customer _ _ fun _ => rfl
    have head : landed.queueHead = db.queueHead := by
      rw [tables]
      exact flag
    rw [succeeds_onTaxiArrival_iff, Tables.Summonable, head, tables]
    simp only [trips_onboardTables, Trips.assignable_setOnboard]
    rfl
  have flagged : (onboardTables now customer request.taxiId false db.toTables).ForeignKeys :=
    (foreignKeys_onboardTables_iff taxiStored).mpr (by simp)
  constructor
  · rintro ⟨literal, _, landed, tables, succeeds⟩
    exact ⟨literal, (arrives tables).mp succeeds⟩
  · rintro ⟨literal, summonable⟩
    exact ⟨literal, by simp, ⟨_, flagged⟩, rfl, (arrives rfl).mpr summonable⟩

/-- A served customer is taken aboard. -/
theorem succeeds_pickUp_iff :
    Succeeds (pickUp now request) ⟨db, [], response⟩ ↔
      ∃ customer, db.serviceOf request.taxiId = some customer ∧
        Statement.quotable customer = true ∧ (db.customerCoord customer).isSome := by
  unfold pickUp
  rw [succeeds_read_bind_iff getService_eq]
  cases service : db.serviceOf request.taxiId with
  | none =>
      apply iff_of_false
      · rintro ⟨outcome, sequence⟩
        obtain ⟨_, _, demanded, _⟩ := Effect.yields_bind.mp sequence
        obtain ⟨_, taken, _⟩ := Effect.yields_demand.mp demanded
        cases taken
      · simp
  | some customer =>
      obtain ⟨row, found, _⟩ := Option.bind_eq_some_iff.mp service
      have taxiStored : (db.taxis.lookup request.taxiId).isSome := Option.isSome_iff_exists.mpr ⟨row, found⟩
      have demanded : (Effect.demand (.ok customer) : Handler Id) ⟨db, [], response⟩ =
          .ok ⟨customer, ⟨db, [], response⟩, []⟩ := rfl
      rw [Option.elim_some, succeeds_read_bind_iff demanded, succeeds_getDestination_bind_iff,
        succeeds_setOnboard_bind_iff taxiStored]
      simp only [succeeds_setResponse_bind_iff, Option.some.injEq, exists_eq_left', forall_const,
        Tables.customerCoord, Option.isSome_map]
      constructor
      · rintro ⟨literal, _, stored, _⟩
        exact ⟨literal, stored⟩
      · rintro ⟨literal, stored⟩
        have keys := (@foreignKeys_onboardTables_iff now db request.taxiId customer true
          taxiStored).mpr fun _ => stored
        refine ⟨literal, literal, stored, ⟨_, keys⟩, rfl, ?_⟩
        -- Whether it has a destination or not, nothing else can fail.
        cases db.destinationOf customer <;> simp

theorem succeeds_onDestinationReached_iff :
    Succeeds (onDestinationReached now request) ⟨db, [], response⟩ ↔
      db.Smooth request .taxiDestinationReached := by
  have duties {moved : Db}
      (literal : ∀ customer ∈ db.customerIdOf request.taxiId, Statement.quotable customer = true)
      (tables : moved.toTables = movedTables now request.taxiId request.coord
        (db.customerIdOf request.taxiId) db.toTables) : SameDuties db.toTables moved.toTables := by
    obtain ⟨reached, acts, reported, same⟩ := @reportPosition_duties now db response request
    obtain ⟨other, equal, ran⟩ := @reportPosition_of_quotable now db response request literal
    rw [ran] at reported
    cases reported
    rw [tables, ← equal]
    exact same
  unfold onDestinationReached
  rw [succeeds_reportPosition_bind_iff, Tables.Smooth]
  cases carried : db.customerIdOf request.taxiId with
  | some customer =>
      rw [carried] at duties
      have completes {moved : Db} (same : SameDuties db.toTables moved.toTables) :
          Succeeds (completeService now request customer) ⟨moved, [], response⟩ ↔
            Statement.quotable customer = true ∧ db.Summonable request.taxiId := by
        obtain ⟨row, found, _⟩ := Option.bind_eq_some_iff.mp carried
        have stored : (moved.trips.taxiAt request.taxiId).isSome := by
          rw [same.taxis]
          simp [Tables.trips, Tables.taxiCoord, found]
        rw [succeeds_completeService_iff (by simpa [Tables.trips, Tables.taxiCoord] using stored),
          Tables.Summonable, Tables.Summonable, same.queueHead]
        simp only [same.assignable_iff]
      simp only [Option.mem_some_iff, forall_eq']
      constructor
      · rintro ⟨literal, moved, tables, succeeds⟩
        exact (completes (duties (by simpa using literal) tables)).mp succeeds
      · rintro ⟨literal, summonable⟩
        obtain ⟨moved, tables, _⟩ := @reportPosition_of_quotable now db response request
          (by simpa [carried] using literal)
        rw [carried] at tables
        exact ⟨literal, moved, tables,
          (completes (duties (by simpa using literal) tables)).mpr ⟨literal, summonable⟩⟩
  | none =>
      rw [carried] at duties
      have boards {moved : Db} (same : SameDuties db.toTables moved.toTables) :
          Succeeds (pickUp now request) ⟨moved, [], response⟩ ↔
            ∃ customer, db.serviceOf request.taxiId = some customer ∧
              Statement.quotable customer = true ∧ (db.customerCoord customer).isSome := by
        have service : moved.serviceOf request.taxiId = db.serviceOf request.taxiId :=
          congrFun same.service request.taxiId
        have stored (customer : Id) : (moved.customerCoord customer).isSome =
            (db.customerCoord customer).isSome := same.customers customer
        rw [succeeds_pickUp_iff, service]
        simp only [stored]
      constructor
      · rintro ⟨_, moved, tables, succeeds⟩
        exact (boards (duties (by simp) tables)).mp succeeds
      · intro served
        obtain ⟨moved, tables, _⟩ := @reportPosition_of_quotable now db response request
          (by simp [carried])
        rw [carried] at tables
        exact ⟨by simp, moved, tables, (boards (duties (by simp) tables)).mpr served⟩

theorem succeeds_onServiceRequest_iff :
    Succeeds (onServiceRequest now request) ⟨db, [], response⟩ ↔
      db.Smooth request .customerServiceRequest := by
  unfold onServiceRequest
  rw [succeeds_read_bind_iff checkAvailableTaxis_eq, succeeds_setResponse_bind_iff]
  simp only [Tables.Smooth]
  cases db.available with
  | none =>
      simp only [enqueue]
      rw [succeeds_run_one_iff fun _ => succeeds_respond, enqueue_runs_iff]
  | some taxi =>
      simp only
      by_cases destinable : Destinable db.toTables request.id request.charFromData
      · obtain ⟨next, tables, ran⟩ := @setDestination_of now db { response with id := request.id } _ _
          destinable
        have same : next.trips.Assignable taxi request.id ↔ db.trips.Assignable taxi request.id := by
          rw [tables, Tables.trips_setDestination]
          rfl
        rw [succeeds_read_bind_iff ran]
        simp only [if_true]
        have assigns : Succeeds (assign now taxi request.id >>= fun _ => produce)
            ⟨next, [], { response with id := request.id }⟩ ↔
            Succeeds (assign now taxi request.id) ⟨next, [], { response with id := request.id }⟩ := by
          constructor
          · exact Succeeds.of_bind
          · rintro ⟨middle, assigned⟩
            exact (succeeds_bind_iff assigned).mpr succeeds_produce
        rw [assigns, succeeds_assign_iff, same, and_iff_right destinable.2.1, and_iff_right destinable]
      · obtain ⟨error, ran⟩ := @setDestination_of_not now db { response with id := request.id } _ _
          destinable
        apply iff_of_false
        · intro succeeds
          obtain ⟨outcome, queried, clean⟩ := succeeds.of_bind
          rw [ran] at queried
          cases queried
          exact clean _ List.mem_cons_self (Act.isFailure_failed error)
        · exact fun smooth => destinable smooth.1

theorem succeeds_newCustomer_iff : Succeeds (newCustomer now session request) ⟨db, [], response⟩ ↔
    Statement.quotable request.id = true := by
  unfold newCustomer
  rw [succeeds_setResponse_bind_iff, succeeds_query_bind_iff]
  simp only [Statement.selectCustomerExists, DbConnectionHandler.runAll_cons,
    Statement.quoting_eq_ok_iff, Statement.select_eq_ok_iff, DbConnectionHandler.runAll_nil]
  constructor
  · rintro ⟨_, _, ⟨_, _, _, ⟨quoted, _⟩, _⟩, _⟩
    simpa using quoted
  · intro literal
    refine ⟨db, _, ⟨db, _, [], ⟨by simpa using literal, rfl, rfl⟩, ⟨rfl, rfl⟩, rfl⟩, ?_⟩
    cases found : db.customers.lookup request.id with
    | none =>
        obtain ⟨stored, inserted⟩ := @insertCustomer_stored now db request.id request.coord found literal
        simp only [Option.toList_none, List.map_nil, Option.toList_some, List.append_nil,
          DbResults.getRow_ofResults, List.headD_nil, List.isEmpty_nil, if_true]
        refine succeeds_query_bind_iff.mpr ⟨stored, [], ?_, by simp⟩
        simp only [DbConnectionHandler.runAll_cons, DbConnectionHandler.runAll_nil]
        exact ⟨stored, none, [], inserted, ⟨rfl, rfl⟩, rfl⟩
    | some row => simp

/-! ### Cases of one query -/

theorem moveLocation_runs_iff {location : Id} {coord : Coordinate} :
    (Statement.moveLocation location coord).Runs now db ↔ Statement.quotable location = true := by
  rw [Statement.moveLocation, Statement.runs_quoting_iff, Statement.runs_update_iff]
  have stays (other : Id) : ((db.moveLocation location coord).locations.lookup other).isSome =
      (db.locations.lookup other).isSome := by
    simp [Tables.moveLocation, apply_ite Option.isSome]
  have kept : (db.moveLocation location coord).ForeignKeys := by
    refine ⟨fun row member other wanted => ?_, db.foreignKeys.customerId,
      fun row member other served => ?_⟩
    · rw [stays]
      exact db.foreignKeys.destination row member other wanted
    · rw [stays]
      exact db.foreignKeys.service row member other served
  simp [kept]

theorem pingCustomer_runs_iff : (Statement.pingCustomer customer).Runs now db ↔
    Statement.quotable customer = true := by
  rw [Statement.pingCustomer, Statement.runs_quoting_iff, Statement.runs_update_iff]
  have kept : (db.pingCustomer now customer).ForeignKeys := db.foreignKeys.updateCustomer fun _ => rfl
  simp [kept]

theorem setNextRequest_runs_iff {nextRequest : Int32} :
    (Statement.setNextRequest customer nextRequest).Runs now db ↔
      Statement.quotable customer = true := by
  rw [Statement.setNextRequest, Statement.runs_quoting_iff, Statement.runs_update_iff]
  have kept : (db.setNextRequest now customer nextRequest).ForeignKeys :=
    db.foreignKeys.updateCustomer fun _ => rfl
  simp [kept]

theorem pingTaxi_runs : (Statement.pingTaxi taxi).Runs now db :=
  Statement.runs_updateTaxi fun _ => ⟨rfl, rfl⟩

theorem setReady_runs {ready : Bool} : (Statement.setReady taxi ready).Runs now db :=
  Statement.runs_updateTaxi fun _ => ⟨rfl, rfl⟩

theorem setWaitTime_runs {waitTime : Int32} : (Statement.setWaitTime taxi waitTime).Runs now db :=
  Statement.runs_updateTaxi fun _ => ⟨rfl, rfl⟩

theorem succeeds_updateAndRespond_iff {statement : Statement} {answer : SubjResponse} :
    Succeeds (updateAndRespond now statement taxi answer) ⟨db, [], response⟩ ↔
      statement.Runs now db := by
  unfold updateAndRespond
  exact succeeds_run_one_iff fun _ => by simp

theorem succeeds_onTaxiGoTo : Succeeds (onTaxiGoTo now request) ⟨db, [], response⟩ := by
  unfold onTaxiGoTo
  rw [succeeds_run_last_iff fun _ => by simp, redirecting_succeeds_iff]
  simp [DbConnectionHandler.OutAt]

/-! ### The switch -/

/-- The switch treats a request to its end, with no query failing, exactly where none of its
statements fails. -/
theorem succeeds_handle_iff {subject : SubjRequest} :
    Succeeds (handle now session subject request) ⟨db, [], response⟩ ↔
      db.Smooth request subject := by
  cases subject with
  | newTaxi => exact succeeds_bind_pure_iff.trans succeeds_onTaxiArrival_iff
  | taxiReconnected => exact succeeds_bind_pure_iff.trans succeeds_onTaxiArrival_iff
  | orderCustomerDisconnect =>
      refine succeeds_bind_pure_iff.trans ?_
      unfold onCustomerDisconnect
      rw [succeeds_run_one_iff fun _ => by simp, deleteCustomer_runs_iff]
      rfl
  | orderCustomerPriority =>
      refine succeeds_bind_pure_iff.trans ?_
      unfold onCustomerPriority
      rw [succeeds_run_one_iff fun _ => by simp, clearInQueue_runs_iff]
      rfl
  | newCustomer => exact succeeds_bind_pure_iff.trans succeeds_newCustomer_iff
  | taxiDestinationReached => exact succeeds_bind_pure_iff.trans succeeds_onDestinationReached_iff
  | taxiMove =>
      refine succeeds_bind_pure_iff.trans ?_
      unfold onTaxiMove
      rw [succeeds_reportPosition_bind_iff]
      constructor
      · exact fun succeeds => succeeds.1
      · intro literal
        obtain ⟨moved, tables, _⟩ := @reportPosition_of_quotable now db response request literal
        exact ⟨literal, moved, tables, succeeds_pure⟩
  | customerServiceRequest => exact succeeds_bind_pure_iff.trans succeeds_onServiceRequest_iff
  | orderTaxiDisconnect =>
      exact succeeds_bind_pure_iff.trans (succeeds_updateAndRespond_iff.trans
        (iff_of_true setConnected_runs trivial))
  | orderTaxiStop =>
      exact succeeds_bind_pure_iff.trans (succeeds_updateAndRespond_iff.trans
        (iff_of_true setStopped_runs trivial))
  | orderTaxiContinue =>
      exact succeeds_bind_pure_iff.trans (succeeds_updateAndRespond_iff.trans
        (iff_of_true setStopped_runs trivial))
  | orderTaxiGoTo => exact succeeds_bind_pure_iff.trans (iff_of_true succeeds_onTaxiGoTo trivial)
  | orderTaxiReturnToBase =>
      exact succeeds_bind_pure_iff.trans (iff_of_true succeeds_onTaxiGoTo trivial)
  | taxiPing =>
      exact succeeds_run_return_iff.trans (iff_of_true pingTaxi_runs trivial)
  | taxiReady =>
      exact succeeds_run_return_iff.trans (iff_of_true setReady_runs trivial)
  | taxiNotReady =>
      exact succeeds_run_return_iff.trans (iff_of_true setReady_runs trivial)
  | taxiUpdateWaitTime =>
      exact succeeds_run_return_iff.trans (iff_of_true setWaitTime_runs trivial)
  | customerPing => exact succeeds_run_return_iff.trans pingCustomer_runs_iff
  | customerUpdateNextRequest =>
      exact succeeds_run_return_iff.trans setNextRequest_runs_iff
  | orderLocationMove =>
      exact succeeds_run_return_iff.trans moveLocation_runs_iff
  | unlisted code undeclared => exact iff_of_true succeeds_pure trivial

/-! ### The loop -/

/-- Where no outage is to come, none comes up. -/
abbrev Untroubled {Value : Type} (handler : Handler Value) : Prop :=
  Effect.Maintains (fun server : KafkaServer => server.outages = []) (fun _ => True) handler

theorem query_untroubled {statements : List Statement} : Untroubled (query now statements) := by
  rintro ⟨db, outages, response⟩ rfl
  exact ⟨DbConnectionHandler.query_outages_nil now statements db, fun _ _ => trivial⟩

theorem run_untroubled {statements : List Statement} : Untroubled (run now statements) :=
  query_untroubled.bind fun _ => Effect.maintains_pure

theorem setResponse_untroubled {update : Message → Message} : Untroubled (setResponse update) :=
  Effect.maintains_modify fun _ holds => holds

theorem produce_untroubled : Untroubled produce := fun _ holds => ⟨holds, fun _ _ => trivial⟩

theorem respond_untroubled {answer : SubjResponse} : Untroubled (respond answer) :=
  setResponse_untroubled.bind fun _ => produce_untroubled

theorem checkAvailableTaxis_untroubled : Untroubled (checkAvailableTaxis now) := by
  refine query_untroubled.bind fun answer => ?_
  cases answer with
  | error error => exact Effect.maintains_pure
  | ok results =>
      simp only
      split
      · exact Effect.maintains_pure
      · exact Effect.maintains_demand.bind fun _ => Effect.maintains_pure

theorem checkQueue_untroubled : Untroubled (checkQueue now) := by
  refine query_untroubled.bind fun answer => ?_
  cases answer with
  | error error => exact Effect.maintains_pure
  | ok results =>
      simp only
      split
      · exact Effect.maintains_pure
      · exact Effect.maintains_demand.bind fun _ => Effect.maintains_pure

theorem firstChar_untroubled {statement : Statement} : Untroubled (firstChar now statement) := by
  refine query_untroubled.bind fun answer => ?_
  cases answer with
  | error error => exact Effect.maintains_pure
  | ok results =>
      simp only
      split <;> exact Effect.maintains_pure

theorem getDestination_untroubled : Untroubled (getDestination now customer) := by
  refine query_untroubled.bind fun answer => ?_
  cases answer with
  | error error => exact Effect.maintains_pure
  | ok results =>
      simp only
      split
      · split
        · exact Effect.maintains_pure
        · exact Effect.maintains_demand.bind fun _ => Effect.maintains_demand.bind fun _ =>
            Effect.maintains_pure
      · exact Effect.maintains_pure

theorem setDestination_untroubled {location : Id} :
    Untroubled (setDestination now customer location) := by
  refine query_untroubled.bind fun answer => ?_
  cases answer <;> exact Effect.maintains_pure

theorem assign_untroubled : Untroubled (assign now taxi customer) := by
  refine (Effect.maintains_record trivial).bind fun _ => query_untroubled.bind fun _ => ?_
  refine Effect.maintains_demand.bind fun _ => Effect.maintains_demand.bind fun _ => ?_
  refine Effect.maintains_demand.bind fun _ => setResponse_untroubled.bind fun _ => ?_
  exact respond_untroubled.bind fun _ => respond_untroubled

theorem onTaxiArrival_untroubled : Untroubled (onTaxiArrival now request) := by
  refine checkQueue_untroubled.bind fun head => ?_
  cases head with
  | none => exact Effect.maintains_pure
  | some customer => exact assign_untroubled

theorem reportPosition_untroubled : Untroubled (reportPosition now request) :=
  firstChar_untroubled.bind fun _ => run_untroubled.bind fun _ => Effect.maintains_pure

theorem completeService_untroubled : Untroubled (completeService now request customer) :=
  run_untroubled.bind fun _ => setResponse_untroubled.bind fun _ =>
    respond_untroubled.bind fun _ => onTaxiArrival_untroubled

theorem pickUp_untroubled : Untroubled (pickUp now request) := by
  refine firstChar_untroubled.bind fun _ => Effect.maintains_demand.bind fun _ => ?_
  refine getDestination_untroubled.bind fun coord => run_untroubled.bind fun _ => ?_
  refine setResponse_untroubled.bind fun _ => ?_
  cases coord with
  | none => exact respond_untroubled
  | some coord =>
      exact respond_untroubled.bind fun _ => setResponse_untroubled.bind fun _ =>
        setResponse_untroubled.bind fun _ => respond_untroubled

theorem onDestinationReached_untroubled : Untroubled (onDestinationReached now request) := by
  refine reportPosition_untroubled.bind fun carried => ?_
  cases carried with
  | none => exact pickUp_untroubled
  | some customer => exact completeService_untroubled

theorem onServiceRequest_untroubled : Untroubled (onServiceRequest now request) := by
  refine checkAvailableTaxis_untroubled.bind fun found => setResponse_untroubled.bind fun _ => ?_
  cases found with
  | none => exact run_untroubled.bind fun _ => respond_untroubled
  | some taxi =>
      refine setDestination_untroubled.bind fun stored => ?_
      cases stored with
      | true => exact assign_untroubled.bind fun _ => produce_untroubled
      | false => exact respond_untroubled

theorem newCustomer_untroubled : Untroubled (newCustomer now session request) := by
  refine setResponse_untroubled.bind fun _ => query_untroubled.bind fun answer => ?_
  cases answer with
  | error error => exact Effect.maintains_pure
  | ok results =>
      simp only
      split
      · refine query_untroubled.bind fun inserted => ?_
        cases inserted with
        | error error => exact Effect.maintains_pure
        | ok _ => exact setResponse_untroubled.bind fun _ => produce_untroubled
      · exact respond_untroubled

/-- A query, a change of the response and an answer bring no outage where none is to come. -/
theorem runAndRespond_untroubled {statements : List Statement} {update : Message → Message}
    {answer : SubjResponse} : Untroubled (do
      run now statements
      setResponse update
      respond answer) :=
  run_untroubled.bind fun _ => setResponse_untroubled.bind fun _ => respond_untroubled

theorem handle_untroubled {subject : SubjRequest} : Untroubled (handle now session subject request) := by
  have returns {handler : Handler Unit} {refresh : Bool} (untroubled : Untroubled handler) :
      Untroubled (do handler; return refresh) := untroubled.bind fun _ => Effect.maintains_pure
  cases subject with
  | newTaxi => exact returns onTaxiArrival_untroubled
  | taxiReconnected => exact returns onTaxiArrival_untroubled
  | newCustomer => exact returns newCustomer_untroubled
  | taxiDestinationReached => exact returns onDestinationReached_untroubled
  | taxiMove => exact returns (reportPosition_untroubled.bind fun _ => Effect.maintains_pure)
  | customerServiceRequest => exact returns onServiceRequest_untroubled
  | orderCustomerDisconnect => exact returns runAndRespond_untroubled
  | orderCustomerPriority => exact returns runAndRespond_untroubled
  | orderTaxiDisconnect => exact returns runAndRespond_untroubled
  | orderTaxiStop => exact returns runAndRespond_untroubled
  | orderTaxiContinue => exact returns runAndRespond_untroubled
  | orderTaxiGoTo => exact returns runAndRespond_untroubled
  | orderTaxiReturnToBase => exact returns runAndRespond_untroubled
  | unlisted code undeclared => exact Effect.maintains_pure
  | _ => exact returns run_untroubled

/-- Without outages the map is published. -/
theorem succeeds_refreshMap : Succeeds (refreshMap now) ⟨db, [], response⟩ := by
  have selected : Sent.Succeeds now
      ⟨[.selectLocations, .selectCustomers, .selectTaxis], [], db⟩ := by
    rw [Sent.Succeeds, DbConnectionHandler.query_failures,
      DbConnectionHandler.moreResults_failures_nil_iff]
    exact ⟨db, _, rfl⟩
  exact ⟨_, refreshMap_snapshot selected, by simp⟩

/-- The loop treats a request to its end exactly where the switch does. -/
theorem succeeds_process_iff {subject : SubjRequest}
    (accepted : accepted? session request = some subject) :
    Succeeds (process now session request) ⟨db, [], response⟩ ↔ db.Smooth request subject := by
  have recorded : Yields (Effect.record (.handled request) : Handler Unit) ⟨db, [], response⟩
      ⟨(), ⟨db, [], response⟩, [.handled request]⟩ := ⟨rfl, by simp⟩
  rw [← @succeeds_handle_iff now session db response]
  simp only [process, accepted]
  rw [succeeds_bind_iff recorded]
  constructor
  · exact Succeeds.of_bind
  · rintro ⟨⟨refresh, ⟨last, outages, told⟩, acts⟩, ran⟩
    have untroubled : outages = [] := by
      have stays := @handle_untroubled now session request subject ⟨db, [], response⟩ rfl
      rw [Effect.Stays, ran.1] at stays
      exact stays.1
    subst untroubled
    rw [succeeds_bind_iff ran]
    cases refresh with
    | true => exact succeeds_refreshMap
    | false => exact succeeds_pure

end KafkaServer

/-- Without outages, the loop of Central treats a consumed message to its end with no query failing
exactly if it drops the message or none of the statements of its case fails. -/
theorem request_succeeds_iff (now : Timestamp) (session : Uuid) (request response : Message)
    (db : Db) : KafkaServer.Succeeds (KafkaServer.process now session request) ⟨db, [], response⟩ ↔
      ∀ subject ∈ KafkaServer.accepted? session request, db.Smooth request subject := by
  cases accepted : KafkaServer.accepted? session request with
  | none =>
      simp only [KafkaServer.process, accepted]
      simp
  | some subject => simpa using KafkaServer.succeeds_process_iff accepted

end EasyCab
