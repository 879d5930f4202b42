import EasyCab.Central.AuthServer
import EasyCab.Central.Handled
import EasyCab.Library.Machine

/-!
# Runs of Central

The state of Central between two requests is its database, its `response` object
and the trace of everything it was seen to do, newest first. A run interleaves
the registrations of the authentication server with consumed requests. A request
on which the process dies ends the run.

Properties of runs speak of the trace through observers: `busyWith`, `lastGoTo`
and the others are folds over it.
-/

namespace EasyCab

open Library

/-- Central between two steps. -/
structure System where
  db : Db
  response : Message
  trace : List Act

namespace System

/-- What can happen to Central. -/
inductive Event where
  /-- The authentication server runs the query of `addTaxi`. -/
  | addTaxi (now : Timestamp) (taxiId : TaxiId) (reconnect : Bool) (outages : List Bool)
  /-- A message is consumed from `requests`. -/
  | request (now : Timestamp) (message : Message) (outages : List Bool)

/-- One step of Central with its session. -/
def step (session : Uuid) (system : System) : Event → Option System
  | .addTaxi now taxiId reconnect outages =>
      let answer := AuthServer.addTaxi now session taxiId reconnect outages system.db
      some {
        db := answer.db
        response := system.response
        trace := answer.value.toList.map .announce ++ answer.failures.map .failed ++ system.trace }
  | .request now message outages =>
      match KafkaServer.process now session message ⟨system.db, outages, system.response⟩ with
      | .error _ => none
      | .ok outcome =>
          some {
            db := outcome.state.db
            response := outcome.state.response
            trace := outcome.acts.reverse ++ system.trace }

/-- Central as a machine. -/
def machine (session : Uuid) : Machine System Event := ⟨step session⟩

/-- Central after `Reset_DB` with these locations. -/
def start (locations : Table LocationRow.id) : System := ⟨.initial locations, .new, []⟩

/-- What a step makes of Central. -/
inductive Stepped (session : Uuid) (system : System) : Event → System → Prop where
  | added (now : Timestamp) (taxiId : TaxiId) (reconnect : Bool) (outages : List Bool) :
      Stepped session system (.addTaxi now taxiId reconnect outages)
        { db := (AuthServer.addTaxi now session taxiId reconnect outages system.db).db
          response := system.response
          trace :=
            (AuthServer.addTaxi now session taxiId reconnect outages system.db).value.toList.map
                .announce ++
              (AuthServer.addTaxi now session taxiId reconnect outages system.db).failures.map
                .failed ++ system.trace }
  | consumed {now : Timestamp} {message : Message} {outages : List Bool}
      {outcome : Outcome KafkaServer Act Unit}
      (ran : KafkaServer.process now session message ⟨system.db, outages, system.response⟩ =
        .ok outcome) :
      Stepped session system (.request now message outages)
        { db := outcome.state.db
          response := outcome.state.response
          trace := outcome.acts.reverse ++ system.trace }

/-- A message on which the process dies makes no step. -/
theorem stepped_of_step {session : Uuid} {system next : System} {event : Event}
    (stepped : step session system event = some next) : Stepped session system event next := by
  cases event with
  | addTaxi now taxiId reconnect outages =>
      cases stepped
      exact .added now taxiId reconnect outages
  | request now message outages =>
      simp only [step] at stepped
      split at stepped
      · cases stepped
      · next outcome ran =>
        cases stepped
        exact .consumed ran

end System

/-! ### A small town

The session and the locations `A` and `J` of the concrete runs below. -/

namespace Town

/-- A session. -/
def session : Uuid := Sized.fill 36 48

/-- `A` at (3, 4) and `J` at (7, 7). -/
def locations : Table LocationRow.id := ⟨[⟨65, 3, 4⟩, ⟨74, 7, 7⟩], by decide⟩

/-- A consumed request without outages. -/
def consume (message : Message) : System.Event := .request 0 message []

/-- A customer registers at a place. -/
def register (customer : Id) (coord : Coordinate) : System.Event :=
  consume { Message.request session.1 .newCustomer with id := customer, coord := coord }

/-- A customer asks to be taken to a location. -/
def ask (customer location : Id) : System.Event :=
  consume ({ Message.request session.1 .customerServiceRequest with
    id := customer }.setCharData location)

/-- A taxi reports its arrival. -/
def arrive (taxi : TaxiId) (coord : Coordinate) : System.Event :=
  consume { Message.request session.1 .taxiDestinationReached with taxiId := taxi, coord := coord }

/-- A new taxi is added and its announcement is consumed. -/
def join (taxi : TaxiId) : List System.Event :=
  [.addTaxi 0 taxi false [], consume (AuthServer.announcement session taxi false)]

/-- The run of a list of events in this town. -/
def run (events : List System.Event) : List (Transition System System.Event) :=
  (System.machine session).run (System.start locations) events

end Town

/-! ### Steps in which every query succeeds -/

/-- A step of Central. -/
abbrev CentralStep := Transition System System.Event

namespace CentralStep

/-- What a step added to the trace. -/
def recorded (taken : CentralStep) : List Act :=
  taken.after.trace.take (taken.after.trace.length - taken.before.trace.length)

/-- Every query of the step succeeds. -/
def Succeeds (taken : CentralStep) : Prop := ∀ act ∈ taken.recorded, ¬ act.IsFailure

instance (taken : CentralStep) : Decidable taken.Succeeds := by
  unfold Succeeds
  infer_instance

/-- The request the step consumes, if the loop lets it through to the switch. -/
def request? (session : Uuid) (taken : CentralStep) : Option (Message × SubjRequest) :=
  match taken.event with
  | .addTaxi .. => none
  | .request _ message _ =>
      (KafkaServer.accepted? session message).map fun subject => (message, subject)

/-- The taxi which the step adds or reconnects, and whether it reconnects. -/
def added? (taken : CentralStep) : Option (TaxiId × Bool) :=
  match taken.event with
  | .addTaxi _ taxiId reconnect _ => some (taxiId, reconnect)
  | .request .. => none

/-- A step which treats a request adds no taxi. -/
theorem added?_of_asked {session : Uuid} {taken : CentralStep} {asked : Message × SubjRequest}
    (found : taken.request? session = some asked) : taken.added? = none := by
  unfold request? at found
  unfold added?
  split at found
  · cases found
  · rfl

/-- The consumed request carries the subject it is treated under. -/
theorem subject_of_asked {session : Uuid} {taken : CentralStep} {message : Message}
    {subject : SubjRequest} (asked : taken.request? session = some (message, subject)) :
    message.subject = .request subject := by
  unfold request? at asked
  split at asked
  · cases asked
  · obtain ⟨found, accepted, same⟩ := Option.map_eq_some_iff.mp asked
    cases same
    exact KafkaServer.subject_of_accepted accepted

/-- The ways in which a step goes when all of its queries succeed. -/
inductive Taken (session : Uuid) (taken : CentralStep) : Prop where
  /-- A taxi is added or reconnected, and announced. -/
  | added (now : Timestamp) (taxiId : TaxiId) (reconnect : Bool)
      (unasked : taken.request? session = none)
      (tables : AuthServer.addedTables now taxiId reconnect taken.before.db.toTables =
        some taken.after.db.toTables)
      (response : taken.after.response = taken.before.response)
      (trace : taken.after.trace =
        .announce (AuthServer.announcement session taxiId reconnect) :: taken.before.trace)
      (event : taken.added? = some (taxiId, reconnect))
  /-- A message is dropped. -/
  | dropped (unasked : taken.request? session = none) (unchanged : taken.after = taken.before)
      (event : taken.added? = none)
  /-- A request is treated by the switch. -/
  | treated (now : Timestamp) (message : Message) (subject : SubjRequest) (outages : List Bool)
      (handled : KafkaServer) (acts : List Act) (maps : List Map)
      (asked : taken.request? session = some (message, subject))
      (treats : KafkaServer.Handled now session ⟨taken.before.db, outages, taken.before.response⟩
        message subject handled acts)
      (db : taken.after.db = handled.db) (response : taken.after.response = handled.response)
      (trace : taken.after.trace = maps.reverse.map .publishMap ++
        (acts.reverse ++ .handled message :: taken.before.trace))

variable {session : Uuid} {taken : CentralStep}

/-- What a step records is what its trace has more than the one before. -/
theorem recorded_append {added : List Act}
    (grows : taken.after.trace = added ++ taken.before.trace) : taken.recorded = added := by
  simp [recorded, grows]

/-- A step of the machine in which every query succeeds goes one of the listed ways. -/
theorem taken_of_step
    (stepped : (System.machine session).step taken.before taken.event = some taken.after)
    (succeeds : taken.Succeeds) : Taken session taken := by
  obtain ⟨before, event, after⟩ := taken
  change System.step session before event = some after at stepped
  cases System.stepped_of_step stepped with
  | added now taxiId reconnect outages =>
      have clean : (AuthServer.addTaxi now session taxiId reconnect outages before.db).failures
          = [] := by
        apply List.eq_nil_iff_forall_not_mem.mpr
        intro error member
        refine succeeds (.failed error) ?_ (Act.isFailure_failed error)
        rw [recorded_append rfl]
        exact List.mem_append_right _ (List.mem_map.mpr ⟨error, member, rfl⟩)
      obtain ⟨stored, announced⟩ := AuthServer.addTaxi_clean clean
      refine .added now taxiId reconnect rfl stored rfl ?_ rfl
      simp [announced, clean]
  | @consumed now message outages outcome ran =>
      cases accepted : KafkaServer.accepted? session message with
      | none =>
          refine .dropped (by simp [request?, accepted]) ?_ rfl
          rw [KafkaServer.process_dropped accepted ran]
          rfl
      | some subject =>
          have allowed : ∀ act ∈ outcome.acts, ¬ act.IsFailure := by
            intro act member
            apply succeeds act
            rw [recorded_append rfl]
            exact List.mem_reverse.mpr member
          obtain ⟨handled, acts, maps, outages', treats, rfl⟩ :=
            KafkaServer.process_yields accepted ⟨ran, allowed⟩
          refine .treated now message subject outages handled acts maps
            (by simp [request?, accepted]) treats rfl rfl ?_
          simp

end CentralStep

end EasyCab
