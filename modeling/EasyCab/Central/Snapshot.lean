import EasyCab.Central.PublishedMap
import EasyCab.Common.MapCodec
import EasyCab.Library.Numerals

/-!
# The published map is a snapshot

The rows of the three tables as the map shows them. The rows come as texts: a `NULL` and a
character which ends its text are empty strings, and an integer is its decimal text. Reading
the texts gives what reading the fields gives, and a new consumer decodes the same map from the
bytes, since no table has as many rows as a `size_t` can count.
-/

namespace EasyCab

open Library

/-! ### Rows as they are shown -/

/-- A location on the map. -/
def LocationRow.shown (row : LocationRow) : Location := ⟨row.id, row.coord⟩

/-- A customer on the map. Nobody's destination is the null character. -/
def CustomerRow.shown (row : CustomerRow) : Customer where
  id := row.id
  coord := row.coord
  destination := row.destination.getD 0
  onboard := row.onboard
  inQueue := row.inQueue.isSome
  nextRequest := row.nextRequest

/-- A taxi on the map: `-1` where it has no destination, a dash where it carries nobody. -/
def TaxiRow.shown (row : TaxiRow) : Taxi where
  id := row.id
  coord := row.coord
  customer := row.customerId.getD 45
  dest := ⟨row.destX.getD (-1), row.destY.getD (-1)⟩
  connected := row.connected
  ready := row.ready
  stopped := row.stopped
  waitTime := row.waitTime

/-- Every row of the three tables, in the order in which they are read. -/
def Tables.snapshot (tables : Tables) : Map where
  locations := tables.locations.rows.map LocationRow.shown
  customers := tables.customers.rows.map CustomerRow.shown
  taxis := tables.taxis.rows.map TaxiRow.shown

/-- The sizes of the lists of a snapshot fit a `size_t`: there are few keys. -/
theorem Tables.snapshot_fits (tables : Tables) : tables.snapshot.Fits := by
  have places : tables.locations.rows.length ≤ 2 ^ 8 :=
    tables.locations.length_le (fun _ _ => UInt8.toNat_inj.mp) UInt8.toNat_lt
  have people : tables.customers.rows.length ≤ 2 ^ 8 :=
    tables.customers.length_le (fun _ _ => UInt8.toNat_inj.mp) UInt8.toNat_lt
  have distinct : Function.Injective fun id : TaxiId => id.toBitVec.toNat := by
    intro id other same
    exact Int16.toBitVec.inj (BitVec.eq_of_toNat_eq same)
  have cabs : tables.taxis.rows.length ≤ 2 ^ 16 :=
    tables.taxis.length_le distinct fun id => id.toBitVec.isLt
  have room : 2 ^ 16 < sizeLimit := by decide
  refine ⟨?_, ?_, ?_⟩ <;> simp only [snapshot, List.length_map] <;> omega

/-! ### Rows as texts -/

/-- How the server prints a `TIMESTAMP`. It prints something. -/
structure Clock where
  print : Timestamp → Chars
  printed : ∀ time, print time ≠ []

/-- The string of a column. The null character ends the text which stands before it. -/
def Field.text (clock : Clock) : Field → Chars
  | .null => []
  | .int value => decimal value.toInt
  | .char value => if value = 0 then [] else [Char.ofNat value.toNat]
  | .time value => clock.print value

/-- Every identifier of a location or of a customer is one byte long. -/
def Tables.OneByteIds (clock : Clock) (tables : Tables) : Prop :=
  (∀ row ∈ tables.locations.rows, ((Field.char row.id).text clock).length = 1) ∧
    ∀ row ∈ tables.customers.rows, ((Field.char row.id).text clock).length = 1

/-- The strings of a row. -/
abbrev TextRow := List Chars

namespace TextRow

/-- `row[index]`. -/
def column (row : TextRow) (index : Nat) : Option Chars := row[index]?

/-- `text[0]`, which is the null character on an empty string. -/
def front (text : Chars) : Id := UInt8.ofNat (text.headD (Char.ofNat 0)).toNat

/-- `stoi(text)`, which throws where there is no number or where it is no `int`. -/
def stoi (text : Chars) : Option Int32 :=
  (strtol text).bind fun value =>
    if -2147483648 ≤ value ∧ value ≤ 2147483647 then some (Int32.ofInt value) else none

/-- `text == "1"`. -/
def isOne (text : Chars) : Bool := text = [Char.ofNat 49]

/-- `text.empty() ? -1 : stoi(text)`. -/
def stoiOr (text : Chars) : Option Int32 := if text.isEmpty then some (-1) else stoi text

/-- The body of the loop over the locations. -/
def readLocation (row : TextRow) : Option Location := do
  return {
    id := front (← row.column 0)
    coord := ⟨← stoi (← row.column 1), ← stoi (← row.column 2)⟩ }

/-- The body of the loop over the customers. -/
def readCustomer (row : TextRow) : Option Customer := do
  return {
    id := front (← row.column 0)
    coord := ⟨← stoi (← row.column 1), ← stoi (← row.column 2)⟩
    destination := front (← row.column 3)
    nextRequest := ← stoi (← row.column 4)
    onboard := isOne (← row.column 5)
    inQueue := !(← row.column 6).isEmpty }

/-- The body of the loop over the taxis. -/
def readTaxi (row : TextRow) : Option Taxi := do
  let customer ← row.column 5
  return {
    id := (← stoi (← row.column 0)).toInt16
    coord := ⟨← stoi (← row.column 1), ← stoi (← row.column 2)⟩
    dest := ⟨← stoiOr (← row.column 3), ← stoiOr (← row.column 4)⟩
    customer := if customer.isEmpty then 45 else front customer
    connected := isOne (← row.column 6)
    ready := isOne (← row.column 7)
    stopped := isOne (← row.column 8)
    waitTime := ← stoi (← row.column 9) }

end TextRow

/-- A row of fields as `query` stores it. -/
def Row.texts (clock : Clock) (row : Row) : TextRow := row.map (Field.text clock)

/-- The map of the three result sets of `refreshMap`, read from the texts of their rows. -/
def KafkaServer.readMapTexts (clock : Clock) (results : DbResults) : Option Map := do
  let (locationRows, results) := readRows results
  let locations ← locationRows.mapM fun row => (row.texts clock).readLocation
  let (customerRows, results) := readRows results.nextResult.2
  let customers ← customerRows.mapM fun row => (row.texts clock).readCustomer
  let (taxiRows, _) := readRows results.nextResult.2
  let taxis ← taxiRows.mapM fun row => (row.texts clock).readTaxi
  return ⟨locations, customers, taxis⟩

/-! ### What the texts say -/

section Texts

variable (clock : Clock)

@[simp] theorem TextRow.stoi_text (value : Int32) :
    TextRow.stoi ((Field.int value).text clock) = some value := by
  have least := value.le_toInt
  have greatest := value.toInt_lt
  simp only [Field.text, TextRow.stoi, strtol_decimal, Option.bind_some]
  rw [if_pos (by omega), Int32.ofInt_toInt]

@[simp] theorem TextRow.stoiOr_text (value : Option Int32) :
    TextRow.stoiOr ((Field.ofInt? value).text clock) = some (value.getD (-1)) := by
  cases value with
  | none => rfl
  | some value =>
      have filled : ((Field.int value).text clock).isEmpty = false := by
        simp [Field.text, decimal_ne_nil]
      simp [Field.ofInt?, TextRow.stoiOr, filled]

@[simp] theorem TextRow.isOne_text (value : Bool) :
    TextRow.isOne ((Field.ofBool value).text clock) = value := by
  have zero : decimal 0 ≠ [Char.ofNat 49] := by decide
  have one : decimal 1 = [Char.ofNat 49] := by decide
  cases value with
  | false => simp [Field.text, Field.ofBool, TextRow.isOne, zero]
  | true => simp [Field.text, Field.ofBool, TextRow.isOne, one]

@[simp] theorem TextRow.front_text (id : Id) :
    TextRow.front ((Field.char id).text clock) = id := by
  by_cases ended : id = 0
  · simp [Field.text, TextRow.front, ended]
  · have valid : id.toNat.isValidChar := .inl (by have := id.toNat_lt; omega)
    have same : (Char.ofNat id.toNat).toNat = id.toNat := by
      rw [Char.ofNat, dif_pos valid]
      rfl
    simp [Field.text, TextRow.front, ended, same]

@[simp] theorem TextRow.front_text_ofChar? (id : Option Id) :
    TextRow.front ((Field.ofChar? id).text clock) = id.getD 0 := by
  cases id with
  | none => rfl
  | some id => simp [Field.ofChar?]

/-- A column which may be `NULL` is told from its text, unless it holds the null character. -/
theorem TextRow.getD_text (id : Option Id) (filled : 0 ∉ id) (other : Id) :
    (if (Field.ofChar? id).text clock = [] then other else id.getD 0) = id.getD other := by
  cases id with
  | none => rfl
  | some id =>
      have visible : id ≠ 0 := by simpa [eq_comm] using filled
      have shown : (Field.char id).text clock ≠ [] := by simp [Field.text, visible]
      simp [Field.ofChar?, shown]

@[simp] theorem TextRow.isEmpty_text_time (time : Option Timestamp) :
    ((time.elim Field.null Field.time).text clock).isEmpty = !time.isSome := by
  cases time with
  | none => rfl
  | some time => simp [Field.text, clock.printed]

end Texts

/-! ### What the loops read -/

namespace KafkaServer

/-- A loop over the rows of a table reads each of them as it is shown. -/
theorem mapM_shown {Reading : Type → Type} [Monad Reading] [LawfulMonad Reading]
    {Stored Item : Type} {read : Row → Reading Item} {fields : Stored → Row}
    {shown : Stored → Item} {rows : List Stored}
    (each : ∀ row ∈ rows, read (fields row) = pure (shown row)) :
    (rows.map fields).mapM read = pure (rows.map shown) := by
  induction rows with
  | nil => simp
  | cons row rows inductionHypothesis =>
      rw [List.forall_mem_cons] at each
      rw [List.map_cons, List.mapM_cons, each.1, inductionHypothesis each.2]
      simp

theorem readLocation_shown (row : LocationRow) :
    readLocation [.char row.id, .int row.x, .int row.y] = .ok row.shown := rfl

theorem readCustomer_shown (row : CustomerRow) :
    readCustomer [.char row.id, .int row.x, .int row.y, .ofChar? row.destination,
      .int row.nextRequest, .ofBool row.onboard, row.inQueue.elim .null .time] = .ok row.shown := by
  obtain ⟨id, x, y, destination, nextRequest, onboard, inQueue, lastUpdate⟩ := row
  cases destination <;> cases onboard <;> cases inQueue <;> rfl

/-- A coordinate which may be `NULL` is read as `-1` in its place. -/
theorem intColumnOr_ofInt? {row : Row} {index : Nat} {value : Option Int32}
    (stands : row[index]? = some (.ofInt? value)) :
    intColumnOr row index = .ok (value.getD (-1)) := by
  have field : column row index = .ok (.ofInt? value) := by rw [column, stands]
  rw [intColumnOr, field]
  cases value <;> rfl

theorem readTaxi_shown (row : TaxiRow) :
    readTaxi [.int row.id.toInt32, .int row.x, .int row.y, .ofInt? row.destX, .ofInt? row.destY,
      .ofChar? row.customerId, .ofBool row.connected, .ofBool row.ready, .ofBool row.stopped,
      .int row.waitTime] = .ok row.shown := by
  obtain ⟨id, x, y, destX, destY, customerId, service, connected, ready, stopped, waitTime,
    lastUpdate⟩ := row
  have back : id.toInt32.toInt16 = id := Int16.toInt16_toInt32 id
  rw [readTaxi, intColumnOr_ofInt? rfl, intColumnOr_ofInt? rfl]
  calc
    _ = Except.ok (Taxi.mk id.toInt32.toInt16 ⟨x, y⟩ (customerId.getD 45)
        ⟨destX.getD (-1), destY.getD (-1)⟩ connected ready stopped waitTime) := by
      cases customerId <;> cases connected <;> cases ready <;> cases stopped <;> rfl
    _ = _ := by rw [back]; rfl

/-- The three result sets of `refreshMap` are read as the snapshot. -/
theorem readMap_snapshot (tables : Tables) :
    readMap (.ofResults [locationRows tables, customerRows tables, taxiRows tables]) =
      .ok tables.snapshot := by
  apply readMap_all
  · exact fun row member => (legible_locationRows tables row member).1
  · exact fun row member => (legible_customerRows tables row member).1
  · exact fun row member => (legible_taxiRows tables row member).1
  · exact mapM_shown fun row _ => readLocation_shown row
  · exact mapM_shown fun row _ => readCustomer_shown row
  · exact mapM_shown fun row _ => readTaxi_shown row

/-- The texts of the three result sets are read as the snapshot. -/
theorem readMapTexts_snapshot (clock : Clock) (db : Db) (oneByte : db.OneByteIds clock) :
    readMapTexts clock (.ofResults [locationRows db.toTables, customerRows db.toTables,
      taxiRows db.toTables]) = some db.snapshot := by
  obtain ⟨first, second, third⟩ := readRows_all
    (fun row member => (legible_locationRows db.toTables row member).1)
    (fun row member => (legible_customerRows db.toTables row member).1)
    (fun row member => (legible_taxiRows db.toTables row member).1)
  have places : (locationRows db.toTables).mapM (fun row => (row.texts clock).readLocation) =
      some (db.locations.rows.map LocationRow.shown) := by
    apply mapM_shown
    intro row _
    simp [Row.texts, TextRow.readLocation, TextRow.column, LocationRow.shown, LocationRow.coord]
  have people : (customerRows db.toTables).mapM (fun row => (row.texts clock).readCustomer) =
      some (db.customers.rows.map CustomerRow.shown) := by
    apply mapM_shown
    intro row _
    simp [Row.texts, TextRow.readCustomer, TextRow.column, CustomerRow.shown, CustomerRow.coord]
  have cabs : (taxiRows db.toTables).mapM (fun row => (row.texts clock).readTaxi) =
      some (db.taxis.rows.map TaxiRow.shown) := by
    apply mapM_shown
    intro row member
    -- A carried customer is stored, so its identifier is not the empty text.
    have filled : 0 ∉ row.customerId := by
      intro carried
      obtain ⟨customer, found⟩ := Option.isSome_iff_exists.mp
        (db.foreignKeys.customerId row member 0 carried)
      have long := oneByte.2 customer (Table.mem_of_lookup found)
      rw [Table.key_of_lookup found] at long
      cases long
    simp [Row.texts, TextRow.readTaxi, TextRow.column, TaxiRow.shown, TaxiRow.coord,
      TextRow.getD_text clock row.customerId filled]
  simp only [readMapTexts, first, second, third, places, people, cabs]
  rfl

/-- What the three queries of `refreshMap` answer when they succeed. -/
theorem query_tables {now : Timestamp} {outages : List Bool} {db : Db}
    (succeed : (DbConnectionHandler.query now [.selectLocations, .selectCustomers, .selectTaxis]
      outages db).failures = []) :
    DbConnectionHandler.query now [.selectLocations, .selectCustomers, .selectTaxis] outages db =
      ⟨.ok (.ofResults [locationRows db.toTables, customerRows db.toTables, taxiRows db.toTables]),
        db, outages.drop 3, []⟩ := by
  obtain ⟨last, results, ran, answered⟩ := DbConnectionHandler.query_clean succeed
  have selected : DbConnectionHandler.runAll now
      [.selectLocations, .selectCustomers, .selectTaxis] db =
      .ok (db, [locationRows db.toTables, customerRows db.toTables, taxiRows db.toTables]) := rfl
  rw [selected] at ran
  cases ran
  exact answered

/-- `refreshMap` publishes the snapshot when its queries succeed, and nothing else. -/
theorem refreshMap_snapshot {now : Timestamp} {server : KafkaServer}
    (succeed : (DbConnectionHandler.query now [.selectLocations, .selectCustomers, .selectTaxis]
      server.outages server.db).failures = []) :
    refreshMap now server = .ok ⟨(), { server with outages := server.outages.drop 3 },
      [.publishMap server.db.snapshot]⟩ := by
  have queried : query now [.selectLocations, .selectCustomers, .selectTaxis] server =
      .ok ⟨.ok (.ofResults [locationRows server.db.toTables, customerRows server.db.toTables,
        taxiRows server.db.toTables]), { server with outages := server.outages.drop 3 }, []⟩ := by
    simp only [query, query_tables succeed, List.map_nil]
  refine Effect.bind_eq_ok_iff.mpr
    ⟨_, ⟨(), _, [.publishMap server.db.snapshot]⟩, queried, ?_, rfl⟩
  simp [Effect.bind_eq_ok_iff, readMap_snapshot]

end KafkaServer

/-- When its queries succeed, `refreshMap` publishes one map: every row of the three tables once
and in order, as a reading of the texts of the rows has it, and a new consumer decodes it to
itself. -/
theorem published_map_faithful (now : Timestamp) (clock : Clock) (server : KafkaServer)
    (padding : MapPadding) (oneByte : server.db.OneByteIds clock)
    (succeed : (DbConnectionHandler.query now [.selectLocations, .selectCustomers, .selectTaxis]
      server.outages server.db).failures = []) :
    KafkaServer.refreshMap now server = .ok ⟨(), { server with outages := server.outages.drop 3 },
        [.publishMap server.db.snapshot]⟩ ∧
      (∃ results, (DbConnectionHandler.query now
          [.selectLocations, .selectCustomers, .selectTaxis] server.outages server.db).value =
            .ok results ∧ KafkaServer.readMapTexts clock results = some server.db.snapshot) ∧
      Map.new.deserialize (server.db.snapshot.serialize padding) =
        some (server.db.snapshot, []) := by
  have answered := KafkaServer.query_tables succeed
  refine ⟨KafkaServer.refreshMap_snapshot succeed, ⟨_, congrArg Answer.value answered, ?_⟩, ?_⟩
  · exact KafkaServer.readMapTexts_snapshot clock server.db oneByte
  · exact Map.deserialize_serialize (Tables.snapshot_fits _) padding Map.new

/-- A clock which prints the seconds. -/
def secondsClock : Clock where
  print := fun time => decimal time
  printed := fun time => decimal_ne_nil time

/-- A location, a customer in the queue and one on board, and the taxis of both. -/
def shownTables : Tables where
  locations := ⟨[⟨65, 3, 4⟩], by decide⟩
  customers := ⟨[⟨97, 1, 2, none, 0, false, some 9, 0⟩, ⟨98, 5, 6, some 65, 7, true, none, 0⟩],
    by decide⟩
  taxis := ⟨[⟨-2, 7, 8, none, none, none, none, true, false, true, 2, 0⟩,
    ⟨300, 5, 6, some 3, some 4, some 98, some 65, true, true, false, 0, 0⟩], by decide⟩

/-- The database of these tables. -/
def shownDb : Db where
  toTables := shownTables
  foreignKeys := by decide

theorem published_map_faithful_shown :
    KafkaServer.refreshMap 5 ⟨shownDb, [], .new⟩ = .ok ⟨(), ⟨shownDb, [], .new⟩, [.publishMap {
        locations := [⟨65, ⟨3, 4⟩⟩]
        customers := [⟨97, ⟨1, 2⟩, 0, false, true, 0⟩, ⟨98, ⟨5, 6⟩, 65, true, false, 7⟩]
        taxis := [⟨-2, ⟨7, 8⟩, 45, ⟨-1, -1⟩, true, false, true, 2⟩,
          ⟨300, ⟨5, 6⟩, 98, ⟨3, 4⟩, true, true, false, 0⟩] }]⟩ ∧
      (∃ results, (DbConnectionHandler.query 5
          [.selectLocations, .selectCustomers, .selectTaxis] [] shownDb).value = .ok results ∧
        KafkaServer.readMapTexts secondsClock results = some shownDb.snapshot) ∧
      Map.new.deserialize (shownDb.snapshot.serialize filledPadding) =
        some (shownDb.snapshot, []) :=
  published_map_faithful 5 secondsClock ⟨shownDb, [], .new⟩ filledPadding
    ⟨by decide, by decide⟩ rfl

end EasyCab
