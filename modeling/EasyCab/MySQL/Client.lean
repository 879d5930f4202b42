import EasyCab.MySQL.Query

/-!
# The client library and the loop over its results

`DbConnectionHandler::query` at the level of the C client: the calls of the library over a
connection, and the loop which collects the results. The library reports the failure of the
first statement by `mysql_query`, and that of a later one by a positive code of
`mysql_next_result`. The loop ends at any code but zero, so it takes a failure for the end:
`query_reports_iff`. `query_refines` says that `DbConnectionHandler.query`, by which Central
is modelled, is this loop over what its statements come to.

A column of a row is a `Field`; `Field.null` is the null pointer, which the loop turns into the
empty string.
-/

namespace EasyCab

/-! ### The library -/

/-- What became of one statement. -/
inductive Reply where
  /-- The statement failed. -/
  | failed (error : SqlError)
  /-- The statement succeeded and returns no rows. -/
  | done
  /-- The statement succeeded and returns rows. -/
  | returned (rows : ResultSet)
deriving DecidableEq

namespace Reply

/-- The statement succeeded. -/
def Succeeds (reply : Reply) : Prop := ∀ error, reply ≠ .failed error

/-- The rows which the statement returns, if it is one which returns rows. -/
def rows? : Reply → Option ResultSet
  | .returned rows => some rows
  | _ => none

/-- The result sets of several statements are those of the first and those of the rest. -/
theorem filterMap_cons (reply : Reply) (rest : List Reply) :
    (reply :: rest).filterMap rows? = reply.rows?.toList ++ rest.filterMap rows? := by
  cases found : reply.rows? <;> simp [found]

@[simp] theorem not_succeeds_failed (error : SqlError) : ¬ (failed error).Succeeds :=
  fun succeeds => succeeds error rfl

@[simp] theorem succeeds_done : done.Succeeds := fun _ same => by cases same

@[simp] theorem succeeds_returned (rows : ResultSet) : (returned rows).Succeeds :=
  fun _ same => by cases same

end Reply

/-- A connection after `mysql_query`: the statement whose result comes next, and what became of
the statements after it. The server stops at the first failure, so nothing behind it is read. -/
structure Mysql where
  current : Reply
  pending : List Reply

namespace Mysql

/-- `mysql_query` with a text of at least one statement: its code, and the connection. -/
def query (first : Reply) (rest : List Reply) : Int × Mysql :=
  (match first with | .failed _ => 1 | _ => 0, ⟨first, rest⟩)

/-- `mysql_error`. -/
def error (connection : Mysql) : SqlError :=
  match connection.current with
  | .failed error => error
  | _ => .unavailable

/-- `mysql_store_result`: null when the statement returns no rows. -/
def storeResult (connection : Mysql) : Option ResultSet := connection.current.rows?

/-- `mysql_next_result`: 0 when the next statement succeeded, -1 at the end, and positive when
the next statement failed. -/
def nextResult (connection : Mysql) : Int × Mysql :=
  match connection.pending with
  | [] => (-1, connection)
  | .failed error :: rest => (1, ⟨.failed error, rest⟩)
  | next :: rest => (0, ⟨next, rest⟩)

/-- Only what has not come yet can come. -/
theorem pending_nextResult {connection : Mysql} (advanced : connection.nextResult.1 = 0) :
    connection.nextResult.2.pending.length < connection.pending.length := by
  obtain ⟨current, pending⟩ := connection
  match pending with
  | [] => cases advanced
  | .failed error :: rest => cases advanced
  | .done :: rest => exact Nat.lt_succ_self _
  | .returned rows :: rest => exact Nat.lt_succ_self _

end Mysql

/-! ### The loop -/

namespace DbResults

/-- `newResult`. -/
def newResult (results : DbResults) : DbResults :=
  { results with results := results.results ++ [[]] }

/-- `addRow`: to the result set which was added last. -/
def addRow (results : DbResults) (row : Row) : DbResults :=
  { results with
    results := results.results.dropLast ++ [results.results.getLast?.getD [] ++ [row]] }

/-- The rows of a result set are added one by one, each once. -/
theorem foldl_addRow_newResult (results : DbResults) (rows : ResultSet) :
    rows.foldl addRow results.newResult = { results with results := results.results ++ [rows] } := by
  induction rows using List.reverseRecOn with
  | nil => rfl
  | append_singleton rows row inductionHypothesis =>
      rw [List.foldl_append, inductionHypothesis]
      simp [addRow]

end DbResults

namespace DbConnectionHandler

/-- The body of the loop up to its condition: the rows of the current statement are collected. -/
def collect (connection : Mysql) (results : DbResults) : DbResults :=
  match connection.storeResult with
  | none => results
  | some rows => rows.foldl .addRow results.newResult

/-- The loop, which goes on while `mysql_next_result` is 0. -/
def readResults (connection : Mysql) (results : DbResults) : DbResults :=
  if connection.nextResult.1 = 0 then
    readResults connection.nextResult.2 (collect connection results)
  else collect connection results
termination_by connection.pending.length
decreasing_by exact Mysql.pending_nextResult ‹_›

/-- `query`, by what becomes of its statements. -/
def queryReplies (first : Reply) (rest : List Reply) : Except SqlError DbResults :=
  let (code, connection) := Mysql.query first rest
  if code ≠ 0 then .error connection.error else .ok (readResults connection (.ofResults []))

/-! ### What the loop reads -/

/-- The replies before the first failure. -/
def untilFailure : List Reply → List Reply
  | [] => []
  | .failed _ :: _ => []
  | .done :: rest => .done :: untilFailure rest
  | .returned rows :: rest => .returned rows :: untilFailure rest

/-- What is collected is the result set of the current statement, if it has one. -/
theorem collect_eq (connection : Mysql) (results : DbResults) :
    collect connection results =
      { results with results := results.results ++ connection.current.rows?.toList } := by
  unfold collect Mysql.storeResult
  cases connection.current.rows? with
  | none => simp
  | some rows => exact DbResults.foldl_addRow_newResult results rows

/-- The loop collects the rows of the current statement and of those before the next failure. -/
theorem readResults_eq (connection : Mysql) (results : DbResults) :
    readResults connection results =
      { results with
        results := results.results ++
          (connection.current :: untilFailure connection.pending).filterMap Reply.rows? } := by
  obtain ⟨current, pending⟩ := connection
  rw [Reply.filterMap_cons]
  induction pending generalizing current results with
  | nil =>
      rw [readResults, if_neg (by simp [Mysql.nextResult]), collect_eq]
      simp [untilFailure]
  | cons next rest inductionHypothesis =>
      have goesOn (advanced : Mysql.nextResult ⟨current, next :: rest⟩ = (0, ⟨next, rest⟩))
          (passes : untilFailure (next :: rest) = next :: untilFailure rest) :
          readResults ⟨current, next :: rest⟩ results =
            { results with
              results := results.results ++ (current.rows?.toList ++
                (untilFailure (next :: rest)).filterMap Reply.rows?) } := by
        rw [readResults, advanced, if_pos rfl, inductionHypothesis, collect_eq, passes,
          Reply.filterMap_cons]
        simp
      cases next with
      | failed error =>
          rw [readResults, if_neg (by simp [Mysql.nextResult]), collect_eq]
          simp [untilFailure]
      | done => exact goesOn rfl rfl
      | returned rows => exact goesOn rfl rfl

/-- Where every statement succeeds the replies before the first failure are all of them. -/
theorem untilFailure_of_succeed {replies : List Reply}
    (succeed : ∀ reply ∈ replies, reply.Succeeds) : untilFailure replies = replies := by
  induction replies with
  | nil => rfl
  | cons reply rest inductionHypothesis =>
      rw [List.forall_mem_cons] at succeed
      cases reply with
      | failed error => exact absurd succeed.1 (Reply.not_succeeds_failed error)
      | done => rw [untilFailure, inductionHypothesis succeed.2]
      | returned rows => rw [untilFailure, inductionHypothesis succeed.2]

/-- The query is answered with an error exactly when its first statement fails. -/
theorem queryReplies_eq_of_succeeds {first : Reply} (rest : List Reply) (succeeds : first.Succeeds) :
    queryReplies first rest =
      .ok (.ofResults ((first :: untilFailure rest).filterMap Reply.rows?)) := by
  have read := readResults_eq ⟨first, rest⟩ (.ofResults [])
  cases first with
  | failed error => exact absurd succeeds (Reply.not_succeeds_failed error)
  | done => simpa [queryReplies, Mysql.query, DbResults.ofResults] using read
  | returned rows => simpa [queryReplies, Mysql.query, DbResults.ofResults] using read

/-! ### Errors are reported -/

/-- The answer is a value exactly when every statement succeeded, and the value holds the result
sets of the statements which return rows, in order and with all of their rows. -/
structure Reports (replies : List Reply) (answer : Except SqlError DbResults) : Prop where
  value : (∃ results, answer = .ok results) ↔ ∀ reply ∈ replies, reply.Succeeds
  results : ∀ results, answer = .ok results →
    results = .ofResults (replies.filterMap Reply.rows?)

theorem reports_iff (first : Reply) (rest : List Reply) :
    Reports (first :: rest) (queryReplies first rest) ↔
      ¬ first.Succeeds ∨ ∀ reply ∈ first :: rest, reply.Succeeds := by
  by_cases succeeds : first.Succeeds
  · rw [queryReplies_eq_of_succeeds rest succeeds]
    simp only [succeeds, not_true_eq_false, false_or]
    constructor
    · exact fun reports => reports.value.mp ⟨_, rfl⟩
    · intro all
      refine ⟨iff_of_true ⟨_, rfl⟩ all, fun results same => ?_⟩
      cases same
      rw [untilFailure_of_succeed (List.forall_mem_cons.mp all).2]
  · refine iff_of_true ?_ (.inl succeeds)
    obtain ⟨error, rfl⟩ : ∃ error, first = .failed error := by
      simpa [Reply.Succeeds] using succeeds
    have failed : queryReplies (.failed error) rest = .error error := rfl
    rw [failed]
    refine ⟨iff_of_false (by simp) fun all => ?_, fun results same => by cases same⟩
    exact succeeds (all _ List.mem_cons_self)

/-! ### The statements of Central -/

/-- What becomes of statements which the server runs one after the other, up to a failure. -/
def replies (now : Timestamp) : List Statement → List Bool → Db → List Reply
  | [], _, _ => []
  | statement :: rest, outages, db =>
      let ran := runStatement now statement outages db
      match ran.value with
      | .error error => [.failed error]
      | .ok none => .done :: replies now rest ran.outages ran.db
      | .ok (some rows) => .returned rows :: replies now rest ran.outages ran.db

/-- The result sets of the loop of `query` are those before the first failure. -/
theorem moreResults_replies (now : Timestamp) (statements : List Statement) (outages : List Bool)
    (db : Db) : (moreResults now statements outages db).value =
      (untilFailure (replies now statements outages db)).filterMap Reply.rows? := by
  induction statements generalizing outages db with
  | nil => rfl
  | cons statement rest inductionHypothesis =>
      cases ran : (runStatement now statement outages db).value with
      | error error => simp [moreResults, replies, ran, untilFailure]
      | ok rows =>
          cases rows <;> simp only [moreResults, replies, ran, untilFailure, inductionHypothesis,
            Reply.filterMap_cons, Reply.rows?]

/-- The query by which Central is modelled is the loop over what becomes of its statements. -/
theorem query_refines {now : Timestamp} {statement : Statement} {rest : List Statement}
    {outages : List Bool} {db : Db} {first : Reply} {later : List Reply}
    (became : replies now (statement :: rest) outages db = first :: later) :
    (query now (statement :: rest) outages db).value = queryReplies first later := by
  cases ran : (runStatement now statement outages db).value with
  | error error =>
      simp only [replies, ran, List.cons.injEq] at became
      obtain ⟨rfl, rfl⟩ := became
      simp only [query, ran]
      rfl
  | ok rows =>
      cases rows with
      | none =>
          simp only [replies, ran, List.cons.injEq] at became
          obtain ⟨rfl, rfl⟩ := became
          rw [queryReplies_eq_of_succeeds _ Reply.succeeds_done, Reply.filterMap_cons]
          simp [query, ran, moreResults_replies, Reply.rows?]
      | some rows =>
          simp only [replies, ran, List.cons.injEq] at became
          obtain ⟨rfl, rfl⟩ := became
          rw [queryReplies_eq_of_succeeds _ (Reply.succeeds_returned rows), Reply.filterMap_cons]
          simp [query, ran, moreResults_replies, Reply.rows?]

end DbConnectionHandler

/-- A query of any number of statements reports its errors exactly when the first statement fails
or all of them succeed. -/
theorem query_reports_iff (first : Reply) (rest : List Reply) :
    DbConnectionHandler.Reports (first :: rest) (DbConnectionHandler.queryReplies first rest) ↔
      ¬ first.Succeeds ∨ ∀ reply ∈ first :: rest, reply.Succeeds :=
  DbConnectionHandler.reports_iff first rest

/-- The failure of a second statement, as of the second `UPDATE` of `setOnboard`, is not
reported. -/
theorem second_failure_silent :
    ¬ ∀ (first : Reply) (rest : List Reply),
      DbConnectionHandler.Reports (first :: rest) (DbConnectionHandler.queryReplies first rest) := by
  intro claimed
  have reports := claimed .done [.failed .foreignKey]
  rcases (DbConnectionHandler.reports_iff _ _).mp reports with fails | succeed
  · exact fails Reply.succeeds_done
  · exact Reply.not_succeeds_failed .foreignKey (succeed _ (by simp))

end EasyCab
