import EasyCab.De.LatestOrder
import EasyCab.De.Reaches

/-!
# Shortest paths

`step` compares moves by `calculateDistance`, which counts the moves along the axes, while a
taxi may move along both axes at once. The best move lowers both gaps by one, as far as there
is one, so a tick lowers the larger of the two gaps by one: the way to a destination takes as
many moves as the larger gap, and no taxi gets there in fewer.
-/

namespace EasyCab

open Library

/-- How many moves there are between two squares. -/
def Coordinate.kingDistance (a b : Coordinate) : Nat := max (gap a.x b.x) (gap a.y b.y)

theorem kingDistance_eq_zero_iff {a b : Coordinate} (fromA : a.InGrid) (fromB : b.InGrid) :
    a.kingDistance b = 0 ↔ a = b := by
  rw [← distance_eq_zero_iff fromA fromB]
  unfold Coordinate.kingDistance Coordinate.distance
  omega

/-! ### The best move -/

/-- A move by at most one along an axis changes the gap by at most one. -/
theorem gap_wrapped {value dest direction result : Int32} (onAxis : OnAxis value)
    (destOnAxis : OnAxis dest) (unit : direction ∈ ([-1, 0, 1] : List Int32))
    (moved : wrapped value direction = some result) : gap value dest ≤ gap result dest + 1 := by
  have all : ∀ value ∈ axis, ∀ dest ∈ axis, ∀ direction ∈ ([-1, 0, 1] : List Int32),
      (wrapped value direction).all fun result => gap value dest ≤ gap result dest + 1 := by
    decide +kernel
  have within := all value (mem_axis onAxis) dest (mem_axis destOnAxis) direction unit
  simpa [moved] using within

variable {pos dest : Coordinate}

/-- No neighbour is nearer by more than one along an axis. -/
theorem gap_neighbour {direction move : Coordinate} (inGrid : pos.InGrid) (destInGrid : dest.InGrid)
    (member : direction ∈ directions) (moved : neighbour pos direction = some move) :
    gap pos.x dest.x ≤ gap move.x dest.x + 1 ∧ gap pos.y dest.y ≤ gap move.y dest.y + 1 := by
  obtain ⟨unitX, unitY⟩ := unit_of_mem_directions member
  simp only [neighbour, Option.bind_eq_bind, Option.bind_eq_some_iff, Option.pure_def,
    Option.some.injEq] at moved
  obtain ⟨x, movedX, y, movedY, rfl⟩ := moved
  exact ⟨gap_wrapped inGrid.1 destInGrid.1 unitX movedX,
    gap_wrapped inGrid.2 destInGrid.2 unitY movedY⟩

/-- Some neighbour is nearer by one along each axis on which there is a gap. -/
theorem neighbour_both_nearer (inGrid : pos.InGrid) (destInGrid : dest.InGrid)
    (apart : pos ≠ dest) : ∃ direction ∈ directions, ∃ move, neighbour pos direction = some move ∧
      move.distance dest = gap pos.x dest.x - 1 + (gap pos.y dest.y - 1) := by
  obtain ⟨directionX, unitX, x, movedX, gapX, turnsX⟩ := wrapped_nearer inGrid.1 destInGrid.1
  obtain ⟨directionY, unitY, y, movedY, gapY, turnsY⟩ := wrapped_nearer inGrid.2 destInGrid.2
  have turns : pos.x ≠ dest.x ∨ pos.y ≠ dest.y := by
    obtain ⟨posX, posY⟩ := pos
    obtain ⟨destX, destY⟩ := dest
    rwa [ne_eq, Coordinate.mk.injEq, Decidable.not_and_iff_not_or_not] at apart
  refine ⟨⟨directionX, directionY⟩, (mem_directions_iff unitX unitY).mpr (turns.imp turnsX turnsY),
    ⟨x, y⟩, by simp [neighbour, movedX, movedY], ?_⟩
  simp only [Coordinate.distance, gapX, gapY]

/-- What the loop over `directions` holds is what it started with or a neighbour. -/
theorem betterMove_neighbour {direction : Coordinate} {best next : Coordinate × Int32}
    (tried : betterMove pos dest best direction = some next) :
    next = best ∨ neighbour pos direction = some next.1 := by
  simp only [betterMove, Option.bind_eq_bind, Option.bind_eq_some_iff, Option.pure_def,
    Option.some.injEq] at tried
  obtain ⟨x, movedX, y, movedY, distance, _, rfl⟩ := tried
  split
  · exact .inr (by simp [neighbour, movedX, movedY])
  · exact .inl rfl

theorem foldlM_betterMove_neighbour (tried : List Coordinate) {best last : Coordinate × Int32}
    (looped : tried.foldlM (betterMove pos dest) best = some last) :
    last = best ∨ ∃ direction ∈ tried, neighbour pos direction = some last.1 := by
  induction tried generalizing best with
  | nil =>
      cases looped
      exact .inl rfl
  | cons direction rest inductionHypothesis =>
      obtain ⟨next, passed, later⟩ := Option.bind_eq_some_iff.mp looped
      rcases inductionHypothesis later with rfl | ⟨other, member, found⟩
      · rcases betterMove_neighbour passed with rfl | found
        · exact .inl rfl
        · exact .inr ⟨direction, List.mem_cons_self, found⟩
      · exact .inr ⟨other, List.mem_cons_of_mem _ member, found⟩

/-- The best move of `step` is nearer by one along each axis on which there is a gap. -/
theorem bestMove_both_nearer (inGrid : pos.InGrid) (destInGrid : dest.InGrid) (apart : pos ≠ dest) :
    ∃ move, bestMove pos dest = some move ∧ move.InGrid ∧
      gap move.x dest.x = gap pos.x dest.x - 1 ∧ gap move.y dest.y = gap pos.y dest.y - 1 := by
  obtain ⟨direction, member, near, moved, nearest⟩ := neighbour_both_nearer inGrid destInGrid apart
  have unseen : Held dest (⟨0, 0⟩, Int32.maxValue) := .inl rfl
  obtain ⟨last, looped, held, _, smallest⟩ :=
    foldlM_betterMove inGrid destInGrid directions (fun _ member => member) unseen
  have small : last.2.toInt ≤ near.distance dest := smallest direction member near moved
  have bounded : near.distance dest ≤ 20 := distance_le near dest
  rcases held with largest | ⟨lastInGrid, asNat⟩
  · have maximum : last.2.toInt = 2147483647 := by
      rw [largest]
      rfl
    omega
  · refine ⟨last.1, by simp [bestMove, looped], lastInGrid, ?_⟩
    rcases foldlM_betterMove_neighbour directions looped with rfl | ⟨other, tried, found⟩
    · -- The value with which the loop starts is no distance.
      have maximum : Int32.maxValue.toInt = 2147483647 := rfl
      have origin : Coordinate.distance ⟨0, 0⟩ dest ≤ 20 := distance_le _ _
      change Int32.maxValue.toInt = (Coordinate.distance ⟨0, 0⟩ dest : Int) at asNat
      omega
    · obtain ⟨boundX, boundY⟩ := gap_neighbour inGrid destInGrid tried found
      have sum : last.1.distance dest = gap last.1.x dest.x + gap last.1.y dest.y := rfl
      omega

/-! ### Ticks and orders -/

namespace EcDe

/-- How many of the events are ticks without waiting time while the taxi is not ordered to
stop. -/
def rolls : EcDe → List Event → Nat
  | _, [] => 0
  | taxi, event :: events =>
      (if taxi.Rolls event then 1 else 0) + ((taxi.turn event).elim 0 fun next => next.1.rolls events)

/-- How many requests with a subject are among the acts. -/
def requested (subject : SubjRequest) (acts : List Act) : Nat :=
  (acts.filterMap Act.request?).countP fun message => message.1.subject = .request subject

@[simp] theorem requested_append (subject : SubjRequest) (first second : List Act) :
    requested subject (first ++ second) = requested subject first + requested subject second := by
  simp [requested, List.filterMap_append, List.countP_append]

/-- The event gives the taxi no new destination. -/
def Undirected (taxi : EcDe) : Event → Prop
  | .consume message => ∀ subject ∈ message.bind taxi.order?,
      subject ≠ .taxiGoTo ∧ subject ≠ .taxiReturnToBase
  | _ => True

/-- The taxi is in the map, and so is its destination. -/
structure InMap (taxi : EcDe) : Prop where
  inGrid : taxi.pos.InGrid
  destInGrid : taxi.dest.InGrid

/-- How far the taxi has to go. -/
def toGo (taxi : EcDe) : Nat := taxi.pos.kingDistance taxi.dest

/-- What an event does: where the taxi rolls it makes one move, if there is one to make, and
reports it. -/
structure Advances (taxi : EcDe) (rolled : Bool) (next : EcDe) (acts : List Act) : Prop where
  inMap : next.InMap
  id : next.id = taxi.id
  dest : next.dest = taxi.dest
  toGo : next.toGo = if rolled then taxi.toGo - 1 else taxi.toGo
  moves : requested .taxiMove acts = if rolled ∧ 2 ≤ taxi.toGo then 1 else 0
  arrivals : requested .taxiDestinationReached acts = if rolled ∧ taxi.toGo = 1 then 1 else 0

variable {taxi next : EcDe} {event : Event} {acts : List Act}

theorem toGo_eq_zero_iff (inMap : taxi.InMap) : taxi.toGo = 0 ↔ taxi.pos = taxi.dest :=
  kingDistance_eq_zero_iff inMap.inGrid inMap.destInGrid

/-- The taxi is where it was, and reports nothing: it was there already, or it does not roll. -/
theorem advances_of_stayed {rolled : Bool} (inMap : taxi.InMap)
    (still : rolled = true → taxi.toGo = 0) (id : next.id = taxi.id) (pos : next.pos = taxi.pos)
    (dest : next.dest = taxi.dest) (moves : requested .taxiMove acts = 0)
    (arrivals : requested .taxiDestinationReached acts = 0) : Advances taxi rolled next acts := by
  have same : next.toGo = taxi.toGo := by simp [toGo, pos, dest]
  refine ⟨⟨?_, ?_⟩, id, dest, ?_, ?_, ?_⟩
  · rw [pos]
    exact inMap.inGrid
  · rw [dest]
    exact inMap.destInGrid
  · rw [same]
    cases rolled with
    | true => simp [still rfl]
    | false => rfl
  · rw [moves]
    cases rolled with
    | true => simp [still rfl]
    | false => rfl
  · rw [arrivals]
    cases rolled with
    | true => simp [still rfl]
    | false => rfl

/-- A tick without waiting time moves a taxi which is not there. -/
theorem drive_moves {message : FullMessage} {waitTime : Int32} (inMap : taxi.InMap)
    (goes : ¬ 0 < waitTime) (apart : taxi.pos ≠ taxi.dest) (allowed : ¬ taxi.orderedToStop = true) :
    ∃ move sent, taxi.drive message waitTime = some ({ taxi with pos := move }, some sent) ∧
      move.InGrid ∧ move.kingDistance taxi.dest = taxi.toGo - 1 ∧
      sent.1.subject =
        .request (if taxi.toGo = 1 then .taxiDestinationReached else .taxiMove) := by
  obtain ⟨move, best, moveInGrid, gapX, gapY⟩ :=
    bestMove_both_nearer inMap.inGrid inMap.destInGrid apart
  have closer : move.kingDistance taxi.dest = taxi.toGo - 1 := by
    unfold toGo Coordinate.kingDistance
    rw [gapX, gapY]
    omega
  have far : taxi.toGo ≠ 0 := fun none => apart ((toGo_eq_zero_iff inMap).mp none)
  have there : move = taxi.dest ↔ taxi.toGo = 1 := by
    rw [← kingDistance_eq_zero_iff moveInGrid inMap.destInGrid, closer]
    omega
  let sent : FullMessage :=
    ⟨{ message.1 with
        subject := .request (if move ≠ taxi.dest then .taxiMove else .taxiDestinationReached),
        coord := move }, message.2⟩
  refine ⟨move, sent, by simp [drive, goes, apart, allowed, step, best, sent], moveInGrid,
    closer, ?_⟩
  by_cases last : taxi.toGo = 1 <;> simp [sent, there, last]

/-- One tick makes a move unless there is time to wait or the taxi is ordered to stop. -/
theorem drive_advances {message : FullMessage} {waitTime : Int32} {sent : Option FullMessage}
    (inMap : taxi.InMap) (drove : taxi.drive message waitTime = some (next, sent)) :
    Advances taxi (decide (¬ 0 < waitTime ∧ ¬ taxi.orderedToStop = true)) next
      (sent.toList.map .produce) := by
  by_cases waiting : 0 < waitTime
  · rw [drive, if_pos waiting] at drove
    cases drove
    refine advances_of_stayed inMap (by simp [waiting]) rfl rfl rfl ?_ ?_ <;>
      simp [requested, Act.request?, Message.setIntData]
  · by_cases held : taxi.pos ≠ taxi.dest ∧ ¬ taxi.orderedToStop = true
    · obtain ⟨move, letter, moved, moveInGrid, closer, subject⟩ :=
        @drive_moves taxi message waitTime inMap waiting held.1 held.2
      cases moved.symm.trans drove
      have far : taxi.toGo ≠ 0 := fun none => held.1 ((toGo_eq_zero_iff inMap).mp none)
      have rolls : decide (¬ 0 < waitTime ∧ ¬ taxi.orderedToStop = true) = true :=
        decide_eq_true ⟨waiting, held.2⟩
      rw [rolls]
      refine ⟨⟨moveInGrid, inMap.destInGrid⟩, rfl, rfl, closer, ?_, ?_⟩
      · by_cases last : taxi.toGo = 1
        · simp [requested, Act.request?, subject, last]
        · have more : 2 ≤ taxi.toGo := by omega
          simp [requested, Act.request?, subject, last, more]
      · by_cases last : taxi.toGo = 1 <;> simp [requested, Act.request?, subject, last]
    · rw [drive, if_neg waiting, if_neg held] at drove
      cases drove
      refine advances_of_stayed inMap (fun rolled => ?_) rfl rfl rfl rfl rfl
      have goes := of_decide_eq_true rolled
      exact (toGo_eq_zero_iff inMap).mpr (Decidable.byContradiction fun apart => held ⟨apart, goes.2⟩)

/-- What an event does which gives the taxi no new destination. -/
theorem turn_advances (inMap : taxi.InMap) (undirected : taxi.Undirected event)
    (turned : taxi.turn event = some (next, acts)) :
    Advances taxi (decide (taxi.Rolls event)) next acts := by
  have still {event : Event} (rests : ¬ taxi.Rolls event) :
      decide (taxi.Rolls event) = true → taxi.toGo = 0 :=
    fun rolls => absurd (of_decide_eq_true rolls) rests
  by_cases ticks : ∃ waitTime again, event = .tick waitTime again
  · obtain ⟨waitTime, again, rfl⟩ := ticks
    simp only [turn] at turned
    split at turned
    · next message attending =>
      obtain ⟨⟨driven, sent⟩, drove, same⟩ := Option.map_eq_some_iff.mp turned
      cases same
      obtain ⟨inMapNext, id, dest, toGo, moves, arrivals⟩ := drive_advances inMap drove
      refine ⟨⟨inMapNext.inGrid, inMapNext.destInGrid⟩, id, dest, toGo, ?_, ?_⟩
      · rw [requested_append]
        exact moves
      · rw [requested_append]
        exact arrivals
    · cases turned
  · cases turned_of_turn turned with
    | ticked attending drove => exact absurd ⟨_, _, rfl⟩ ticks
    | unheard unordered => exact advances_of_stayed inMap (still fun rolls => rolls) rfl rfl rfl rfl rfl
    | heard ordered obeyed =>
        have other := undirected _ ordered
        cases obeyed with
        | arrived there | sent away => exact absurd rfl other.1
        | returned => exact absurd rfl other.2
        | stopped | continued | dismissed =>
            exact advances_of_stayed inMap (still fun rolls => rolls) rfl rfl rfl rfl rfl
        | ignored others => exact advances_of_stayed inMap (still fun rolls => rolls) rfl rfl rfl rfl rfl
    | ended | accepting | connected | left | pinged | quit =>
        exact advances_of_stayed inMap (still fun rolls => rolls) rfl rfl rfl rfl rfl

/-! ### The way to the destination -/

/-- The event is a tick after which the sensor goes on, or a response which neither gives the taxi
a new destination nor dismisses it. -/
def Steady (taxi : EcDe) : Event → Prop
  | .tick _ again => again = true
  | .consume message => ∀ subject ∈ message.bind taxi.order?,
      subject ∉ [.taxiGoTo, .taxiReturnToBase, .taxiDisconnect]
  | _ => False

/-- A sensor is attended, responses are listened to, and the taxi is in the map. -/
structure Underway (taxi : EcDe) : Prop where
  attends : ∃ message, taxi.sensor = .attending message
  listens : taxi.listening = true
  running : taxi.stop = false
  inMap : taxi.InMap

/-- Whether an event gives the taxi a new destination depends on the identifier of the taxi. -/
theorem undirected_of_id (id : next.id = taxi.id) (undirected : taxi.Undirected event) :
    next.Undirected event := by
  cases event with
  | consume message =>
      have same : next.order? = taxi.order? := by
        funext message
        simp [order?, id]
      unfold Undirected
      rw [same]
      exact undirected
  | _ => exact trivial

theorem steady_of_id (id : next.id = taxi.id) (steady : taxi.Steady event) : next.Steady event := by
  cases event with
  | consume message =>
      have same : next.order? = taxi.order? := by
        funext message
        simp [order?, id]
      unfold Steady
      rw [same]
      exact steady
  | tick => exact steady
  | _ => exact steady.elim

theorem undirected_of_steady (steady : taxi.Steady event) : taxi.Undirected event := by
  cases event with
  | consume message =>
      intro subject ordered
      have others := steady subject ordered
      simp only [List.mem_cons, List.not_mem_nil, or_false, not_or] at others
      exact ⟨others.1, others.2.1⟩
  | _ => exact trivial

/-- A tick is taken by a taxi in the map: no `int` overflows. -/
theorem drive_taken {message : FullMessage} {waitTime : Int32} (inMap : taxi.InMap) :
    (taxi.drive message waitTime).isSome := by
  unfold drive
  split
  · rfl
  · split
    · obtain ⟨move, stepped, _⟩ := step_nearer inMap.inGrid inMap.destInGrid
      simp [stepped]
    · rfl

/-- A taxi which is underway takes every steady event. -/
theorem turn_taken (underway : taxi.Underway) (steady : taxi.Steady event) :
    (taxi.turn event).isSome := by
  obtain ⟨⟨message, attends⟩, listens, running, inMap⟩ := underway
  cases event with
  | tick waitTime again => simp [turn, attends, attend, drive_taken inMap]
  | consume message => simp [turn, listens]
  | _ => exact steady.elim

/-- A taxi which is underway is so after every steady event. -/
theorem underway_of_turn (underway : taxi.Underway) (steady : taxi.Steady event)
    (turned : taxi.turn event = some (next, acts)) : next.Underway := by
  obtain ⟨attends, listens, running, inMap⟩ := underway
  have inMapNext := (turn_advances inMap (undirected_of_steady steady) turned).inMap
  cases turned_of_turn turned with
  | @ticked message waitTime again driven sent attending drove =>
      have goesOn : again = true := steady
      have same : driven.stop = taxi.stop ∧ driven.listening = taxi.listening := by
        cases drove with
        | waits | moves | rests => exact ⟨rfl, rfl⟩
      have runs : driven.stop = false := same.1.trans running
      exact ⟨⟨sent.getD message, by simp [goesOn, runs]⟩, same.2.trans listens, runs, inMapNext⟩
  | unheard => exact ⟨attends, by simp [running], running, inMapNext⟩
  | heard ordered obeyed =>
      have others := steady _ ordered
      cases obeyed with
      | arrived | sent | returned | dismissed => simp at others
      | stopped | continued | ignored => exact ⟨attends, by simp [running], running, inMapNext⟩
  | ended | accepting | connected | left | pinged | quit => exact steady.elim

/-- What a run does in which the taxi rolls `rolled` times: it makes one move each time, as long as
it is not there, and reports each of them. -/
structure Travels (taxi : EcDe) (rolled : Nat) (last : EcDe) (acts : List Act) : Prop where
  inMap : last.InMap
  dest : last.dest = taxi.dest
  moves : requested .taxiMove acts = min rolled (taxi.toGo - 1)
  arrivals : requested .taxiDestinationReached acts =
    if 0 < taxi.toGo ∧ taxi.toGo ≤ rolled then 1 else 0
  toGo : last.toGo = taxi.toGo - min rolled taxi.toGo

/-- The turns of events which give the taxi no new destination. -/
theorem turns_travel {events : List Event} {last : EcDe} (inMap : taxi.InMap)
    (undirected : ∀ event ∈ events, taxi.Undirected event)
    (turned : taxi.turns events = some (last, acts)) :
    Travels taxi (taxi.rolls events) last acts := by
  induction events generalizing taxi acts with
  | nil =>
      cases turned
      refine ⟨inMap, rfl, ?_, ?_, ?_⟩
      · simp [rolls, requested]
      · simp only [rolls, requested, List.filterMap_nil, List.countP_nil]
        exact (if_neg (by omega)).symm
      · simp [rolls]
  | cons event events inductionHypothesis =>
      rw [List.forall_mem_cons] at undirected
      simp only [turns, Option.bind_eq_bind, Option.bind_eq_some_iff, Option.pure_def,
        Option.some.injEq, Prod.exists, Prod.mk.injEq] at turned
      obtain ⟨next, first, now, last, more, later, rfl, rfl⟩ := turned
      obtain ⟨inMapNext, id, dest, toGo, moves, arrivals⟩ :=
        turn_advances inMap undirected.1 now
      have undirectedNext : ∀ event ∈ events, next.Undirected event :=
        fun event member => undirected_of_id id (undirected.2 event member)
      obtain ⟨inMapLast, destLast, movesLater, arrivalsLater, toGoLast⟩ :=
        inductionHypothesis inMapNext undirectedNext later
      have rolled : taxi.rolls (event :: events) =
          (if taxi.Rolls event then 1 else 0) + next.rolls events := by
        rw [rolls, now]
        rfl
      refine ⟨inMapLast, destLast.trans dest, ?_, ?_, ?_⟩
      · rw [requested_append, moves, movesLater, toGo, rolled]
        grind
      · rw [requested_append, arrivals, arrivalsLater, toGo, rolled]
        grind
      · rw [toGoLast, toGo, rolled]
        grind

/-- Steady events are taken, one after the other. -/
theorem turns_steady {events : List Event} (underway : taxi.Underway)
    (steady : ∀ event ∈ events, taxi.Steady event) : (taxi.turns events).isSome := by
  induction events generalizing taxi with
  | nil => rfl
  | cons event events inductionHypothesis =>
      rw [List.forall_mem_cons] at steady
      obtain ⟨⟨next, acts⟩, turned⟩ := Option.isSome_iff_exists.mp (turn_taken underway steady.1)
      have underwayNext := underway_of_turn underway steady.1 turned
      have id : next.id = taxi.id :=
        (turn_advances underway.inMap (undirected_of_steady steady.1) turned).id
      have taken := inductionHypothesis underwayNext
        fun event member => steady_of_id id (steady.2 event member)
      obtain ⟨⟨last, more⟩, later⟩ := Option.isSome_iff_exists.mp taken
      simp [turns, turned, later]

end EcDe

/-- A taxi which is not at its destination, both in the map, gets there in as many moves as the
larger gap between them, whatever waiting times the sensor announces and however often it is ordered
to stop and to continue. It reports each move, and its arrival once. -/
theorem shortest_path_taken {taxi : EcDe} {events : List EcDe.Event} (inGrid : taxi.pos.InGrid)
    (destInGrid : taxi.dest.InGrid) (apart : taxi.pos ≠ taxi.dest)
    (undirected : ∀ event ∈ events, taxi.Undirected event) :
    (taxi.Underway → (∀ event ∈ events, taxi.Steady event) → (taxi.turns events).isSome) ∧
      ∀ last acts, taxi.turns events = some (last, acts) →
        last.pos.InGrid ∧ last.dest = taxi.dest ∧
          EcDe.requested .taxiMove acts =
            min (taxi.rolls events) (taxi.pos.kingDistance taxi.dest - 1) ∧
          EcDe.requested .taxiDestinationReached acts =
            (if taxi.pos.kingDistance taxi.dest ≤ taxi.rolls events then 1 else 0) ∧
          last.pos.kingDistance last.dest = taxi.pos.kingDistance taxi.dest -
            min (taxi.rolls events) (taxi.pos.kingDistance taxi.dest) := by
  refine ⟨EcDe.turns_steady, fun last acts turned => ?_⟩
  have inMap : taxi.InMap := ⟨inGrid, destInGrid⟩
  have far : 0 < taxi.toGo :=
    Nat.pos_of_ne_zero fun none => apart ((EcDe.toGo_eq_zero_iff inMap).mp none)
  obtain ⟨inMapLast, dest, moves, arrivals, toGo⟩ := EcDe.turns_travel inMap undirected turned
  refine ⟨inMapLast.inGrid, dest, moves, ?_, toGo⟩
  simp only [far, true_and] at arrivals
  exact arrivals

/-- A taxi which goes from the right upper corner round the edge. -/
def crossing : EcDe :=
  { EcDe.start 1 Journey.session with
    pos := ⟨19, 3⟩
    dest := ⟨1, 4⟩
    sensor := .attending ((EcDe.start 1 Journey.session).message .taxiUpdateWaitTime) }

theorem shortest_path_taken_crossing :
    let events : List EcDe.Event := [.tick 0 true, .tick 5 true, .tick 0 true, .tick 0 true]
    (crossing.turns events).isSome ∧
      ∀ last acts, crossing.turns events = some (last, acts) →
        EcDe.requested .taxiMove acts = 1 ∧ EcDe.requested .taxiDestinationReached acts = 1 ∧
          last.pos.kingDistance last.dest = 0 := by
  intro events
  have undirected : ∀ event ∈ events, crossing.Undirected event := by
    simp [events, EcDe.Undirected]
  have steady : ∀ event ∈ events, crossing.Steady event := by simp [events, EcDe.Steady]
  have inGrid : crossing.pos.InGrid := by decide
  have destInGrid : crossing.dest.InGrid := by decide
  have taken := @shortest_path_taken crossing events inGrid destInGrid (by decide) undirected
  refine ⟨taken.1 ⟨⟨_, rfl⟩, rfl, rfl, inGrid, destInGrid⟩ steady, fun last acts turned => ?_⟩
  obtain ⟨_, _, moves, arrivals, toGo⟩ := taken.2 last acts turned
  have rolled : crossing.rolls events = 3 := by decide +kernel
  have far : crossing.pos.kingDistance crossing.dest = 2 := by decide +kernel
  rw [rolled, far] at moves arrivals toGo
  exact ⟨moves, arrivals, toGo⟩

end EasyCab
