import EasyCab.MySQL.Schema

/-!
# Queries through a connection

`DbConnectionHandler::query` sends a text of one or more statements. The first
failure among the statements is reported only when it is the first statement; a
later statement that fails ends the loop over the results in silence and keeps
what came before it. `Answer.failures` lists every statement that failed, also
those which the caller is not told about.

Besides a constraint, anything outside the tables may make a statement fail (a
lost connection, say). `outages` says so for the coming statements, one entry
each; when the list is used up there are no more outages.
-/

namespace EasyCab

open Library

/-! ### Result sets -/

/-- The text of one column of a result row, by what it prints. -/
inductive Field where
  /-- `NULL`, which the connection handler turns into an empty string. -/
  | null
  | int (value : Int32)
  | char (value : Id)
  | time (value : Timestamp)
deriving DecidableEq

namespace Field

/-- The field of a nullable `CHAR` column. -/
def ofChar? : Option Id → Field
  | none => .null
  | some value => .char value

/-- The field of a nullable `INT` column. -/
def ofInt? : Option Int32 → Field
  | none => .null
  | some value => .int value

/-- The field of a `BOOLEAN` column. -/
def ofBool (value : Bool) : Field := .int (if value then 1 else 0)

/-- `field.empty()`. -/
def empty (field : Field) : Bool := field = .null

/-- `field[0]`, which is the null character on an empty string. It is read on `CHAR`
columns only. -/
def front : Field → Id
  | .char value => value
  | _ => 0

end Field

/-- A row of a result set. -/
abbrev Row := List Field

/-- The rows of one statement. -/
abbrev ResultSet := List Row

/-- `DbResults`: the result sets of a query and the cursor over them. -/
structure DbResults where
  results : List ResultSet
  currentResult : Nat
  currentRow : Nat

namespace DbResults

/-- The results of a query, read from their start. -/
def ofResults (results : List ResultSet) : DbResults := ⟨results, 0, 0⟩

/-- `nextResult()`: move to the next result set, if there is one. -/
def nextResult (results : DbResults) : Bool × DbResults :=
  if results.currentResult + 1 ≥ results.results.length then (false, results)
  else
    (true, { results with currentResult := results.currentResult + 1, currentRow := 0 })

/-- `getRow()`: the next row of the current result set, or an empty row after the last. -/
def getRow (results : DbResults) : Row × DbResults :=
  match results.results[results.currentResult]? with
  | none => ([], results)
  | some rows =>
      match rows[results.currentRow]? with
      | none => ([], results)
      | some row => (row, { results with currentRow := results.currentRow + 1 })

/-- The first row of the first result set. -/
@[simp] theorem getRow_ofResults (rows : ResultSet) (more : List ResultSet) :
    (ofResults (rows :: more)).getRow.1 = rows.headD [] := by
  cases rows <;> simp [ofResults, getRow]

end DbResults

/-! ### Statements -/

/-- A statement at a time: its effect on the database and its rows, if it returns rows. -/
abbrev Statement := Timestamp → Db → Except SqlError (Db × Option ResultSet)

namespace Statement

/-- A statement which rewrites the tables and is stored when no constraint is violated. -/
def update (effect : Timestamp → Tables → Tables) : Statement := fun now db =>
  match (effect now db.toTables).commit with
  | .error error => .error error
  | .ok stored => .ok (stored, none)

/-- A statement which may meet a taken primary key before it is stored. -/
def insert (effect : Timestamp → Tables → Option Tables) : Statement := fun now db =>
  match effect now db.toTables with
  | none => .error .duplicateKey
  | some tables =>
      match tables.commit with
      | .error error => .error error
      | .ok stored => .ok (stored, none)

/-- A `SELECT`. -/
def select (rows : Tables → ResultSet) : Statement := fun _ db => .ok (db, some (rows db.toTables))

/-- Whether `'{}'` with this character is a string literal of the connection: the quote
and the backslash change where the literal ends, the null character ends the text,
and a byte from 128 up is not a character. -/
def quotable (char : Id) : Bool := char ≠ 0 ∧ char ≠ 39 ∧ char ≠ 92 ∧ char < 128

/-- A statement whose text has these characters between quotes. -/
def quoting (chars : List Id) (statement : Statement) : Statement := fun now db =>
  if chars.all quotable then statement now db else .error .malformed

/-- A statement, where it succeeds, keeps an invariant of the database. -/
def Maintains (Inv : Db → Prop) (statement : Statement) : Prop :=
  ∀ ⦃now db next rows⦄, statement now db = .ok (next, rows) → Inv db → Inv next

/-- The statement succeeds on this database, unless an outage keeps it from being executed. -/
def Runs (statement : Statement) (now : Timestamp) (db : Db) : Prop :=
  ∃ next rows, statement now db = .ok (next, rows)

@[simp] theorem update_eq_ok_iff {effect : Timestamp → Tables → Tables} {now : Timestamp}
    {db next : Db} {rows : Option ResultSet} :
    update effect now db = .ok (next, rows) ↔
      next.toTables = effect now db.toTables ∧ rows = none := by
  unfold update
  cases stored : (effect now db.toTables).commit with
  | error error =>
      have refused := (Tables.commit_eq_error_iff.mp stored).2
      simp only [reduceCtorEq, false_iff, not_and]
      rintro same
      exact absurd (same ▸ next.foreignKeys) refused
  | ok other =>
      have same := Tables.commit_eq_ok_iff.mp stored
      constructor
      · intro ran
        cases ran
        exact ⟨same, rfl⟩
      · rintro ⟨wanted, rfl⟩
        have equal : Except.ok next = Except.ok (ε := SqlError) other := by
          rw [← stored, Tables.commit_eq_ok_iff.mpr wanted]
        cases equal
        rfl

@[simp] theorem insert_eq_ok_iff {effect : Timestamp → Tables → Option Tables}
    {now : Timestamp} {db next : Db} {rows : Option ResultSet} :
    insert effect now db = .ok (next, rows) ↔
      effect now db.toTables = some next.toTables ∧ rows = none := by
  unfold insert
  cases effected : effect now db.toTables with
  | none => simp
  | some tables =>
      have asUpdate : update (fun _ _ => tables) now db = .ok (next, rows) ↔
          next.toTables = tables ∧ rows = none := update_eq_ok_iff
      unfold update at asUpdate
      simp only [Option.some.injEq, eq_comm (a := tables)]
      exact asUpdate

@[simp] theorem select_eq_ok_iff {rows : Tables → ResultSet} {now : Timestamp} {db next : Db}
    {answered : Option ResultSet} :
    select rows now db = .ok (next, answered) ↔ next = db ∧ answered = some (rows db.toTables) := by
  simp [select, eq_comm]

@[simp] theorem quoting_eq_ok_iff {chars : List Id} {statement : Statement} {now : Timestamp}
    {db next : Db} {rows : Option ResultSet} :
    quoting chars statement now db = .ok (next, rows) ↔
      chars.all quotable = true ∧ statement now db = .ok (next, rows) := by
  unfold quoting
  by_cases literal : chars.all quotable = true <;> simp [literal]

section Runs

variable {now : Timestamp} {db : Db}

/-- An update is stored exactly if it violates no foreign key. -/
@[simp] theorem runs_update_iff {effect : Timestamp → Tables → Tables} :
    (update effect).Runs now db ↔ (effect now db.toTables).ForeignKeys := by
  simp only [Runs, update_eq_ok_iff]
  constructor
  · rintro ⟨next, _, stored, _⟩
    exact stored ▸ next.foreignKeys
  · exact fun keys => ⟨⟨_, keys⟩, none, rfl, rfl⟩

/-- An update of a taxi which leaves its references alone can always be stored. -/
theorem runs_updateTaxi {taxi : TaxiId} {change : TaxiRow → TaxiRow}
    {keeps : ∀ row, (change row).id = row.id}
    (kept : ∀ row, (change row).customerId = row.customerId ∧ (change row).service = row.service) :
    (update fun now tables => tables.updateTaxi now taxi change keeps).Runs now db :=
  runs_update_iff.mpr (db.foreignKeys.updateTaxi now taxi change keeps kept)

@[simp] theorem runs_select {rows : Tables → ResultSet} : (select rows).Runs now db :=
  ⟨db, _, rfl⟩

@[simp] theorem runs_quoting_iff {chars : List Id} {statement : Statement} :
    (quoting chars statement).Runs now db ↔ chars.all quotable = true ∧ statement.Runs now db := by
  simp only [Runs, quoting_eq_ok_iff]
  constructor
  · rintro ⟨next, rows, literal, ran⟩
    exact ⟨literal, next, rows, ran⟩
  · rintro ⟨literal, next, rows, ran⟩
    exact ⟨next, rows, literal, ran⟩

end Runs

section Maintains

variable {Inv : Db → Prop}

theorem maintains_select (rows : Tables → ResultSet) : (select rows).Maintains Inv := by
  intro now db next answered ran holds
  obtain ⟨rfl, _⟩ := select_eq_ok_iff.mp ran
  exact holds

theorem maintains_update {effect : Timestamp → Tables → Tables}
    (kept : ∀ (now : Timestamp) (db next : Db), next.toTables = effect now db.toTables →
      Inv db → Inv next) : (update effect).Maintains Inv := by
  intro now db next rows ran holds
  exact kept now db next (update_eq_ok_iff.mp ran).1 holds

theorem maintains_insert {effect : Timestamp → Tables → Option Tables}
    (kept : ∀ (now : Timestamp) (db next : Db), effect now db.toTables = some next.toTables →
      Inv db → Inv next) : (insert effect).Maintains Inv := by
  intro now db next rows ran holds
  exact kept now db next (insert_eq_ok_iff.mp ran).1 holds

theorem maintains_quoting {chars : List Id} {statement : Statement}
    (kept : chars.all quotable = true → statement.Maintains Inv) :
    (quoting chars statement).Maintains Inv := by
  intro now db next rows ran holds
  obtain ⟨literal, ran⟩ := quoting_eq_ok_iff.mp ran
  exact kept literal ran holds

end Maintains

end Statement

/-! ### Queries -/

/-- What a query leaves: its value, the database, the outages still to come, and the
failures of its statements. -/
structure Answer (Value : Type) where
  value : Value
  db : Db
  outages : List Bool
  failures : List SqlError

namespace DbConnectionHandler

/-- Execute one statement, unless an outage is due. -/
def runStatement (now : Timestamp) (statement : Statement) (outages : List Bool) (db : Db) :
    Answer (Except SqlError (Option ResultSet)) :=
  match outages with
  | true :: outages => ⟨.error .unavailable, db, outages, [.unavailable]⟩
  | outages =>
      match statement now db with
      | .error error => ⟨.error error, db, outages.tail, [error]⟩
      | .ok (next, rows) => ⟨.ok rows, next, outages.tail, []⟩

/-- The loop over `mysql_next_result`: the result sets of the statements up to the first
one that fails. -/
def moreResults (now : Timestamp) : List Statement → List Bool → Db → Answer (List ResultSet)
  | [], outages, db => ⟨[], db, outages, []⟩
  | statement :: rest, outages, db =>
      let first := runStatement now statement outages db
      match first.value with
      | .error _ => ⟨[], first.db, first.outages, first.failures⟩
      | .ok rows =>
          let later := moreResults now rest first.outages first.db
          ⟨rows.toList ++ later.value, later.db, later.outages, later.failures⟩

/-- `query(text)`: an error exactly when the first statement fails. -/
def query (now : Timestamp) (statements : List Statement) (outages : List Bool) (db : Db) :
    Answer (Except SqlError DbResults) :=
  match statements with
  | [] => ⟨.ok (.ofResults []), db, outages, []⟩
  | statement :: rest =>
      let first := runStatement now statement outages db
      match first.value with
      | .error error => ⟨.error error, first.db, first.outages, first.failures⟩
      | .ok rows =>
          let later := moreResults now rest first.outages first.db
          ⟨.ok (.ofResults (rows.toList ++ later.value)), later.db, later.outages,
            later.failures⟩

/-- The statement in this place of those to come meets an outage. -/
def OutAt (outages : List Bool) (place : Nat) : Prop := outages[place]? = some true

instance (outages : List Bool) (place : Nat) : Decidable (OutAt outages place) := by
  unfold OutAt
  infer_instance

@[simp] theorem outAt_tail {outages : List Bool} {place : Nat} :
    OutAt outages.tail place ↔ OutAt outages (place + 1) := by
  rw [OutAt, List.getElem?_tail, OutAt]

@[simp] theorem outAt_drop {outages : List Bool} {count place : Nat} :
    OutAt (outages.drop count) place ↔ OutAt outages (count + place) := by
  rw [OutAt, List.getElem?_drop, OutAt]

/-- A statement which reports no failure ran, and consumed one entry of the outages. -/
theorem runStatement_clean {now : Timestamp} {statement : Statement} {outages : List Bool}
    {db : Db} (clean : (runStatement now statement outages db).failures = []) :
    ∃ next rows, statement now db = .ok (next, rows) ∧
      runStatement now statement outages db = ⟨.ok rows, next, outages.tail, []⟩ := by
  unfold runStatement at clean ⊢
  split at clean
  · cases clean
  · cases ran : statement now db with
    | error error => simp [ran] at clean
    | ok result => exact ⟨result.1, result.2, rfl, rfl⟩

/-- A statement which answers reported no failure. -/
theorem runStatement_failures_of_ok {now : Timestamp} {statement : Statement}
    {outages : List Bool} {db : Db} {rows : Option ResultSet}
    (answered : (runStatement now statement outages db).value = .ok rows) :
    (runStatement now statement outages db).failures = [] := by
  unfold runStatement at answered ⊢
  split at answered
  · cases answered
  · cases ran : statement now db with
    | error error => simp [ran] at answered
    | ok result => rfl

/-- The statements one after the other, as if the first failure of any of them were
reported: the database and the result sets they leave when all succeed. -/
def runAll (now : Timestamp) : List Statement → Db → Except SqlError (Db × List ResultSet)
  | [], db => .ok (db, [])
  | statement :: rest, db =>
      match statement now db with
      | .error error => .error error
      | .ok (next, rows) =>
          match runAll now rest next with
          | .error error => .error error
          | .ok (last, more) => .ok (last, rows.toList ++ more)

@[simp] theorem runAll_nil {now : Timestamp} {db last : Db} {results : List ResultSet} :
    runAll now [] db = .ok (last, results) ↔ last = db ∧ results = [] := by
  simp [runAll, eq_comm]

/-- All statements succeed exactly when the first does and the others do after it. -/
@[simp] theorem runAll_cons {now : Timestamp} {statement : Statement} {rest : List Statement}
    {db last : Db} {results : List ResultSet} :
    runAll now (statement :: rest) db = .ok (last, results) ↔
      ∃ next rows more, statement now db = .ok (next, rows) ∧
        runAll now rest next = .ok (last, more) ∧ results = rows.toList ++ more := by
  rw [runAll]
  cases ran : statement now db with
  | error error => simp
  | ok result =>
      obtain ⟨next, rows⟩ := result
      cases continued : runAll now rest next with
      | error error =>
          simp only [continued, reduceCtorEq, Except.ok.injEq, Prod.mk.injEq, false_iff]
          rintro ⟨_, _, more, ⟨rfl, rfl⟩, later, _⟩
          simp [continued] at later
      | ok final =>
          simp only [continued, Except.ok.injEq, Prod.mk.injEq]
          constructor
          · rintro ⟨rfl, rfl⟩
            exact ⟨next, rows, final.2, ⟨rfl, rfl⟩, continued, rfl⟩
          · rintro ⟨_, _, more, ⟨rfl, rfl⟩, later, rfl⟩
            rw [continued] at later
            cases later
            exact ⟨rfl, rfl⟩

/-- Where no statement of the loop fails, the loop is all of its statements. -/
theorem moreResults_clean {now : Timestamp} {statements : List Statement}
    {outages : List Bool} {db : Db}
    (clean : (moreResults now statements outages db).failures = []) :
    ∃ last results, runAll now statements db = .ok (last, results) ∧
      moreResults now statements outages db =
        ⟨results, last, outages.drop statements.length, []⟩ := by
  induction statements generalizing outages db with
  | nil => exact ⟨db, [], rfl, rfl⟩
  | cons statement rest inductionHypothesis =>
      have first : (runStatement now statement outages db).failures = [] := by
        cases ran : (runStatement now statement outages db).value with
        | error error => simpa [moreResults, ran] using clean
        | ok rows => exact runStatement_failures_of_ok ran
      obtain ⟨next, rows, ran, equal⟩ := runStatement_clean first
      simp only [moreResults, equal] at clean ⊢
      obtain ⟨last, more, later, sameLater⟩ := inductionHypothesis clean
      refine ⟨last, rows.toList ++ more, ?_, ?_⟩
      · exact runAll_cons.mpr ⟨next, rows, more, ran, later, rfl⟩
      · simp [sameLater, List.drop_tail, Nat.add_comm]

/-- A query fails where the loop over all of its statements does. -/
theorem query_failures (now : Timestamp) (statements : List Statement) (outages : List Bool)
    (db : Db) : (query now statements outages db).failures =
      (moreResults now statements outages db).failures := by
  cases statements with
  | nil => rfl
  | cons statement rest =>
      cases ran : (runStatement now statement outages db).value <;>
        simp only [query, moreResults, ran]

/-- A query in which no statement fails answers the result sets of all its statements. -/
theorem query_clean {now : Timestamp} {statements : List Statement} {outages : List Bool}
    {db : Db} (clean : (query now statements outages db).failures = []) :
    ∃ last results, runAll now statements db = .ok (last, results) ∧
      query now statements outages db =
        ⟨.ok (.ofResults results), last, outages.drop statements.length, []⟩ := by
  cases statements with
  | nil => exact ⟨db, [], rfl, rfl⟩
  | cons statement rest =>
      have loop := query_failures now (statement :: rest) outages db
      rw [clean] at loop
      have loop := loop.symm
      obtain ⟨last, results, all, equal⟩ := moreResults_clean loop
      refine ⟨last, results, all, ?_⟩
      cases ran : (runStatement now statement outages db).value with
      | error error =>
          have silent : (runStatement now statement outages db).failures = [] := by
            simpa [moreResults, ran] using loop
          obtain ⟨_, _, _, ranOk⟩ := runStatement_clean silent
          simp [ranOk] at ran
      | ok rows =>
          simp only [moreResults, ran, Answer.mk.injEq] at equal
          simp [query, ran, equal]

/-- A statement succeeds exactly if no outage is due and it runs. -/
theorem runStatement_failures_iff {now : Timestamp} {statement : Statement} {outages : List Bool}
    {db : Db} : (runStatement now statement outages db).failures = [] ↔
      ¬ OutAt outages 0 ∧ statement.Runs now db := by
  constructor
  · intro clean
    obtain ⟨next, rows, ran, _⟩ := runStatement_clean clean
    refine ⟨?_, next, rows, ran⟩
    rcases outages with _ | ⟨_ | _, outages⟩
    case cons.true => cases clean
    all_goals simp [OutAt]
  · rintro ⟨executed, next, rows, ran⟩
    rcases outages with _ | ⟨_ | _, outages⟩
    case cons.true => exact absurd rfl executed
    all_goals simp [runStatement, ran]

/-- The loop meets no failure exactly if its first statement succeeds and the others do after
it. -/
theorem moreResults_failures_iff {now : Timestamp} {statement : Statement} {rest : List Statement}
    {outages : List Bool} {db : Db} :
    (moreResults now (statement :: rest) outages db).failures = [] ↔
      ¬ OutAt outages 0 ∧ ∃ next rows, statement now db = .ok (next, rows) ∧
        (moreResults now rest outages.tail next).failures = [] := by
  by_cases first : (runStatement now statement outages db).failures = []
  · obtain ⟨next, rows, ran, equal⟩ := runStatement_clean first
    have executed := (runStatement_failures_iff.mp first).1
    simp [moreResults, equal, ran, executed]
  · have refused : ¬ (¬ OutAt outages 0 ∧ ∃ next rows, statement now db = .ok (next, rows) ∧
        (moreResults now rest outages.tail next).failures = []) := by
      rintro ⟨executed, next, rows, ran, _⟩
      exact first (runStatement_failures_iff.mpr ⟨executed, next, rows, ran⟩)
    refine iff_of_false ?_ refused
    cases ran : (runStatement now statement outages db).value with
    | error error => simpa [moreResults, ran] using first
    | ok rows => exact absurd (runStatement_failures_of_ok ran) first

/-- A query of one statement succeeds exactly if the statement does. -/
theorem query_one_failures_iff {now : Timestamp} {statement : Statement} {outages : List Bool}
    {db : Db} : (query now [statement] outages db).failures = [] ↔
      ¬ OutAt outages 0 ∧ statement.Runs now db := by
  rw [query_failures, moreResults_failures_iff]
  simp [moreResults, Statement.Runs]

/-- A query of two statements succeeds exactly if the first does and the second does after it. -/
theorem query_two_failures_iff {now : Timestamp} {first second : Statement} {outages : List Bool}
    {db : Db} : (query now [first, second] outages db).failures = [] ↔
      ¬ OutAt outages 0 ∧ ¬ OutAt outages 1 ∧
        ∃ next rows, first now db = .ok (next, rows) ∧ second.Runs now next := by
  rw [query_failures, moreResults_failures_iff]
  have last (next : Db) : (moreResults now [second] outages.tail next).failures = [] ↔
      ¬ OutAt outages 1 ∧ second.Runs now next := by
    rw [moreResults_failures_iff, outAt_tail]
    simp [moreResults, Statement.Runs]
  simp only [last]
  constructor
  · rintro ⟨executed, next, rows, ran, executedToo, later⟩
    exact ⟨executed, executedToo, next, rows, ran, later⟩
  · rintro ⟨executed, executedToo, next, rows, ran, later⟩
    exact ⟨executed, next, rows, ran, executedToo, later⟩

/-- What a query of one statement comes to is what its statement comes to. -/
theorem query_one (now : Timestamp) (statement : Statement) (outages : List Bool) (db : Db) :
    query now [statement] outages db =
      if outages.head? = some true then
        ⟨.error .unavailable, db, outages.tail, [.unavailable]⟩
      else
        match statement now db with
        | .error error => ⟨.error error, db, outages.tail, [error]⟩
        | .ok (next, rows) => ⟨.ok (.ofResults rows.toList), next, outages.tail, []⟩ := by
  rcases outages with _ | ⟨_ | _, outages⟩
  case cons.true => rfl
  all_goals
    cases ran : statement now db with
    | error error => simp [query, runStatement, ran]
    | ok result => simp [query, runStatement, moreResults, ran]

/-- A statement takes one place of the outages. -/
theorem runStatement_outages (now : Timestamp) (statement : Statement) (outages : List Bool)
    (db : Db) : (runStatement now statement outages db).outages = outages.tail := by
  unfold runStatement
  split
  · rfl
  · split <;> rfl

/-- A query of one statement takes one place of the outages. -/
theorem query_one_outages (now : Timestamp) (statement : Statement) (outages : List Bool) (db : Db) :
    (query now [statement] outages db).outages = outages.tail := by
  rw [← runStatement_outages now statement outages db]
  cases ran : (runStatement now statement outages db).value <;> simp [query, moreResults, ran]

/-- After a first statement which runs, a second one takes the next place unless there was an
outage. -/
theorem query_two_outages {now : Timestamp} {first second : Statement} {outages : List Bool} {db : Db}
    (runs : first.Runs now db) : (query now [first, second] outages db).outages =
      outages.drop (if OutAt outages 0 then 1 else 2) := by
  have later (outages : List Bool) (db : Db) :
      (moreResults now [second] outages db).outages = outages.tail := by
    rw [← runStatement_outages now second outages db]
    cases ran : (runStatement now second outages db).value <;> simp [moreResults, ran]
  obtain ⟨next, rows, ran⟩ := runs
  rcases outages with _ | ⟨_ | _, outages⟩
  case cons.true => rfl
  all_goals simp [query, runStatement, ran, later, OutAt]

/-- A query of one `SELECT` answers its rows, or nothing where it meets an outage. -/
theorem query_select (now : Timestamp) (rows : Tables → ResultSet) (outages : List Bool) (db : Db) :
    query now [.select rows] outages db =
      if OutAt outages 0 then ⟨.error .unavailable, db, outages.tail, [.unavailable]⟩
      else ⟨.ok (.ofResults [rows db.toTables]), db, outages.tail, []⟩ := by
  rw [query_one, List.head?_eq_getElem?]
  rfl

/-! ### Queries in which statements may fail -/

section Maintains

variable {Inv : Db → Prop} {now : Timestamp} {statements : List Statement} {outages : List Bool}
  {db : Db}

/-- A statement which fails leaves the database alone. -/
theorem runStatement_maintains {statement : Statement} (keeps : statement.Maintains Inv)
    (holds : Inv db) : Inv (runStatement now statement outages db).db := by
  unfold runStatement
  split
  · exact holds
  · cases ran : statement now db with
    | error error => exact holds
    | ok result => exact keeps ran holds

theorem moreResults_maintains (keeps : ∀ statement ∈ statements, statement.Maintains Inv)
    (holds : Inv db) : Inv (moreResults now statements outages db).db := by
  induction statements generalizing outages db with
  | nil => exact holds
  | cons statement rest inductionHypothesis =>
      rw [List.forall_mem_cons] at keeps
      have first : Inv (runStatement now statement outages db).db :=
        runStatement_maintains keeps.1 holds
      unfold moreResults
      cases ran : (runStatement now statement outages db).value with
      | error error => simpa only [ran] using first
      | ok rows => simpa only [ran] using inductionHypothesis keeps.2 first

/-- A query keeps an invariant which each of its statements keeps, whichever of them fail. -/
theorem query_maintains (keeps : ∀ statement ∈ statements, statement.Maintains Inv)
    (holds : Inv db) : Inv (query now statements outages db).db := by
  cases statements with
  | nil => exact holds
  | cons statement rest =>
      rw [List.forall_mem_cons] at keeps
      have first : Inv (runStatement now statement outages db).db :=
        runStatement_maintains keeps.1 holds
      unfold query
      cases ran : (runStatement now statement outages db).value with
      | error error => simpa only [ran] using first
      | ok rows => simpa only [ran] using moreResults_maintains keeps.2 first

end Maintains

/-- Without outages a statement does what it says. -/
theorem runStatement_nil (now : Timestamp) (statement : Statement) (db : Db) :
    runStatement now statement [] db =
      match statement now db with
      | .error error => ⟨.error error, db, [], [error]⟩
      | .ok (next, rows) => ⟨.ok rows, next, [], []⟩ := rfl

theorem runStatement_outages_nil (now : Timestamp) (statement : Statement) (db : Db) :
    (runStatement now statement [] db).outages = [] := by
  rw [runStatement_nil]
  split <;> rfl

theorem moreResults_outages_nil (now : Timestamp) (statements : List Statement) (db : Db) :
    (moreResults now statements [] db).outages = [] := by
  induction statements generalizing db with
  | nil => rfl
  | cons statement rest inductionHypothesis =>
      have none : (runStatement now statement [] db).outages = [] :=
        runStatement_outages_nil now statement db
      cases ran : (runStatement now statement [] db).value with
      | error error => simpa only [moreResults, ran] using none
      | ok rows => simpa only [moreResults, ran, none] using inductionHypothesis _

/-- Without outages to come there are none to come after a query. -/
theorem query_outages_nil (now : Timestamp) (statements : List Statement) (db : Db) :
    (query now statements [] db).outages = [] := by
  cases statements with
  | nil => rfl
  | cons statement rest =>
      have none : (runStatement now statement [] db).outages = [] :=
        runStatement_outages_nil now statement db
      cases ran : (runStatement now statement [] db).value with
      | error error => simpa only [query, ran] using none
      | ok rows => simpa only [query, ran, none] using moreResults_outages_nil now rest _

/-- The loop over `SELECT`s answers the result sets of the first few of them. -/
theorem moreResults_selects (now : Timestamp) (selected : List (Tables → ResultSet))
    (outages : List Bool) (db : Db) :
    ∃ count, (moreResults now (selected.map .select) outages db).value =
      (selected.map fun rows => rows db.toTables).take count := by
  induction selected generalizing outages with
  | nil => exact ⟨0, rfl⟩
  | cons rows rest inductionHypothesis =>
      rcases outages with _ | ⟨outage, outages⟩
      · obtain ⟨count, later⟩ := inductionHypothesis []
        exact ⟨count + 1, by simpa [moreResults, runStatement, Statement.select] using later⟩
      · cases outage with
        | true => exact ⟨0, rfl⟩
        | false =>
            obtain ⟨count, later⟩ := inductionHypothesis outages
            exact ⟨count + 1, by simpa [moreResults, runStatement, Statement.select] using later⟩

/-- A query of `SELECT`s fails, or answers the result sets of the first few of them. -/
theorem query_selects (now : Timestamp) (first : Tables → ResultSet)
    (rest : List (Tables → ResultSet)) (outages : List Bool) (db : Db) :
    (∃ error, (query now (.select first :: rest.map .select) outages db).value = .error error) ∨
      ∃ count, (query now (.select first :: rest.map .select) outages db).value =
        .ok (.ofResults (first db.toTables :: (rest.map fun rows => rows db.toTables).take count)) := by
  rcases outages with _ | ⟨outage, outages⟩
  · obtain ⟨count, later⟩ := moreResults_selects now rest [] db
    exact .inr ⟨count, by simp [query, runStatement, Statement.select, later]⟩
  · cases outage with
    | true => exact .inl ⟨.unavailable, rfl⟩
    | false =>
        obtain ⟨count, later⟩ := moreResults_selects now rest outages db
        exact .inr ⟨count, by simp [query, runStatement, Statement.select, later]⟩

/-- A `SELECT` leaves the database alone and answers its rows, unless it fails. -/
theorem runStatement_select (now : Timestamp) (rows : Tables → ResultSet) (outages : List Bool)
    (db : Db) : (runStatement now (.select rows) outages db).db = db ∧
      ((runStatement now (.select rows) outages db).value = .error .unavailable ∨
        (runStatement now (.select rows) outages db).value = .ok (some (rows db.toTables))) := by
  rcases outages with _ | ⟨_ | _, outages⟩ <;> simp [runStatement, Statement.select]

/-- A statement which answers ran. -/
theorem runStatement_value_eq_ok {now : Timestamp} {statement : Statement} {outages : List Bool}
    {db : Db} {rows : Option ResultSet}
    (answered : (runStatement now statement outages db).value = .ok rows) :
    ∃ next, statement now db = .ok (next, rows) := by
  obtain ⟨next, ran, stored, equal⟩ := runStatement_clean (runStatement_failures_of_ok answered)
  rw [equal] at answered
  cases answered
  exact ⟨next, stored⟩

/-- A query of an update and a `SELECT` fails, answers nothing, or answers what it selects. -/
theorem query_update_select {now : Timestamp} {statement : Statement} {rows : Tables → ResultSet}
    {outages : List Bool} {db : Db}
    (silent : ∀ {next rows}, statement now db = .ok (next, rows) → rows = none) :
    (∃ error, (query now [statement, .select rows] outages db).value = .error error) ∨
      (query now [statement, .select rows] outages db).value = .ok (.ofResults []) ∨
      (query now [statement, .select rows] outages db).value =
        .ok (.ofResults [rows (query now [statement, .select rows] outages db).db.toTables]) := by
  cases first : (runStatement now statement outages db).value with
  | error error => exact .inl ⟨error, by simp [query, first]⟩
  | ok answered =>
      obtain ⟨next, ran⟩ := runStatement_value_eq_ok first
      obtain rfl := silent ran
      obtain ⟨same, failed | read⟩ := runStatement_select now rows
        (runStatement now statement outages db).outages (runStatement now statement outages db).db
      · exact .inr (.inl (by simp [query, moreResults, first, failed]))
      · exact .inr (.inr (by simp [query, moreResults, first, read, same]))

/-- Where a query of an update and a `SELECT` answers a row, both of them succeeded. -/
theorem query_update_select_failures {now : Timestamp} {statement : Statement}
    {rows : Tables → ResultSet} {outages : List Bool} {db : Db} {results : DbResults}
    (silent : ∀ {next rows}, statement now db = .ok (next, rows) → rows = none)
    (answered : (query now [statement, .select rows] outages db).value = .ok results)
    (found : results.getRow.1 ≠ []) : (query now [statement, .select rows] outages db).failures = [] := by
  cases first : (runStatement now statement outages db).value with
  | error error => simp [query, first] at answered
  | ok stored =>
      have clean := runStatement_failures_of_ok first
      obtain ⟨next, written, ran, equal⟩ := runStatement_clean clean
      obtain rfl := silent ran
      rw [query_two_failures_iff]
      refine ⟨(runStatement_failures_iff.mp clean).1, fun outage => ?_, next, none, ran,
        Statement.runs_select⟩
      -- Without its second statement the query answers no row.
      rw [← outAt_tail] at outage
      obtain ⟨left, due⟩ : ∃ left, outages.tail = true :: left := by
        rcases taken : outages.tail with _ | ⟨_ | _, left⟩
        case cons.true => exact ⟨left, rfl⟩
        all_goals simp [taken, OutAt] at outage
      simp only [query, equal, due, moreResults] at answered
      cases answered
      exact found rfl

/-- An executed update of a taxi which leaves its references alone is stored. -/
theorem query_updateTaxi {now : Timestamp} {taxi : TaxiId} {outages : List Bool}
    {db : Db} {update : TaxiRow → TaxiRow} {keeps : ∀ row, (update row).id = row.id}
    (executed : outages.head? ≠ some true)
    (kept : ∀ row, (update row).customerId = row.customerId ∧ (update row).service = row.service) :
    (query now [.update fun now tables => tables.updateTaxi now taxi update keeps] outages
      db).db.toTables = db.toTables.updateTaxi now taxi update keeps := by
  have keys := db.foreignKeys.updateTaxi now taxi update keeps kept
  have stored : Statement.update (fun now tables => tables.updateTaxi now taxi update keeps) now db =
      .ok (⟨_, keys⟩, none) := Statement.update_eq_ok_iff.mpr ⟨rfl, rfl⟩
  rw [query_one, if_neg executed]
  simp only [stored]

/-- A first statement which is executed leaves the database to the other ones. -/
theorem query_executed {now : Timestamp} {statement : Statement} {rest : List Statement}
    {outages : List Bool} {db next : Db} {rows : Option ResultSet}
    (executed : outages.head? ≠ some true) (ran : statement now db = .ok (next, rows)) :
    (query now (statement :: rest) outages db).db = (moreResults now rest outages.tail next).db := by
  rcases outages with _ | ⟨_ | _, outages⟩
  case cons.true => exact absurd rfl executed
  all_goals simp [query, runStatement, ran]

end DbConnectionHandler

end EasyCab
