import EasyCab.De.EcDe
import EasyCab.Library.Machine

/-!
# Reaching a destination

The map is a torus of 20 by 20 squares. In it the distance of `calculateDistance` is what its name
says and no `int` overflows, and `step` finds a square which is nearer to the destination. A
taxi in the map, on its way to a square of the map, is there after as many ticks as the two
are apart.
-/

namespace EasyCab

open Library

/-! ### The torus -/

/-- One coordinate of a square of the map. -/
def OnAxis (value : Int32) : Prop := 0 ≤ value ∧ value ≤ 19

instance (value : Int32) : Decidable (OnAxis value) := by
  unfold OnAxis
  infer_instance

/-- The coordinates of the squares, in order. -/
def axis : List Int32 := (List.range 20).map .ofNat

/-- How far apart two squares are along one axis. -/
def gap (a b : Int32) : Nat := min (a.toInt - b.toInt).natAbs (20 - (a.toInt - b.toInt).natAbs)

/-- A square of the map. -/
def Coordinate.InGrid (coord : Coordinate) : Prop := OnAxis coord.x ∧ OnAxis coord.y

instance (coord : Coordinate) : Decidable coord.InGrid := by
  unfold Coordinate.InGrid
  infer_instance

/-- How many moves along the axes there are between two squares. -/
def Coordinate.distance (a b : Coordinate) : Nat := gap a.x b.x + gap a.y b.y

/-- A square next to another in a direction. -/
def neighbour (pos direction : Coordinate) : Option Coordinate := do
  let x ← wrapped pos.x direction.x
  let y ← wrapped pos.y direction.y
  return ⟨x, y⟩

theorem toInt_of_onAxis {value : Int32} (onAxis : OnAxis value) :
    0 ≤ value.toInt ∧ value.toInt ≤ 19 := by
  obtain ⟨low, high⟩ := onAxis
  exact ⟨Int32.le_iff_toInt_le.mp low, Int32.le_iff_toInt_le.mp high⟩

theorem mem_axis {value : Int32} (onAxis : OnAxis value) : value ∈ axis := by
  obtain ⟨low, high⟩ := toInt_of_onAxis onAxis
  refine List.mem_map.mpr ⟨value.toInt.toNat, List.mem_range.mpr (by omega), ?_⟩
  rw [← Int32.toInt_inj, Int32.toInt_ofNat_of_lt (by omega)]
  omega

/-- A result of an operation on `int`s is the number it stands for. -/
theorem cint_eq_some_iff {value : Int} {result : Int32} :
    cint value = some result ↔ result.toInt = value := by
  unfold cint
  constructor
  · intro some
    split at some
    · next fits =>
      cases some
      have largest : Int32.maxValue.toInt = 2147483647 := rfl
      exact Int32.toInt_ofInt_of_le fits.1 (by omega)
    · cases some
  · rintro rfl
    rw [if_pos ⟨Int32.minValue_le_toInt result, Int32.toInt_le result⟩, Int32.ofInt_toInt]

theorem gap_le {a b : Int32} : gap a b ≤ 10 := by
  unfold gap
  omega

theorem gap_eq_zero_iff {a b : Int32} (fromA : OnAxis a) (fromB : OnAxis b) :
    gap a b = 0 ↔ a = b := by
  have := toInt_of_onAxis fromA
  have := toInt_of_onAxis fromB
  rw [← Int32.toInt_inj]
  unfold gap
  omega

/-! ### Distances in the grid -/

/-- Along one axis the smaller of the difference and its mirror is the gap. -/
theorem min_mirror_onAxis {a b : Int32} (fromA : OnAxis a) (fromB : OnAxis b) :
    ∃ dist mirrored, absoluteDifference a b = some dist ∧ mirror dist 10 = some mirrored ∧
      min dist.toInt mirrored.toInt = gap a b := by
  have all : ∀ a ∈ axis, ∀ b ∈ axis, (absoluteDifference a b).any fun dist =>
      (mirror dist 10).any fun mirrored => min dist.toInt mirrored.toInt = gap a b := by
    decide +kernel
  have defined := all a (mem_axis fromA) b (mem_axis fromB)
  simp only [Option.any_eq_true, decide_eq_true_eq] at defined
  obtain ⟨dist, found, mirrored, mirrors, smaller⟩ := defined
  exact ⟨dist, mirrored, found, mirrors, smaller⟩

/-- In the map `calculateDistance` has a result, the distance. -/
theorem calculateDistance_inGrid {a b : Coordinate} (fromA : a.InGrid) (fromB : b.InGrid) :
    ∃ result, calculateDistance a b = some result ∧ result.toInt = a.distance b := by
  obtain ⟨distX, mirrorX, foundX, mirroredX, gapX⟩ := min_mirror_onAxis fromA.1 fromB.1
  obtain ⟨distY, mirrorY, foundY, mirroredY, gapY⟩ := min_mirror_onAxis fromA.2 fromB.2
  have small : (Int32.ofInt (a.distance b)).toInt = a.distance b := by
    have first : gap a.x b.x ≤ 10 := gap_le
    have second : gap a.y b.y ≤ 10 := gap_le
    exact Int32.toInt_ofInt_of_le (by unfold Coordinate.distance; omega)
      (by unfold Coordinate.distance; omega)
  refine ⟨.ofInt (a.distance b), ?_, small⟩
  simp only [calculateDistance, foundX, foundY, mirroredX, mirroredY, Option.bind_eq_bind,
    Option.bind_some, gapX, gapY]
  exact cint_eq_some_iff.mpr small

theorem distance_le (a b : Coordinate) : a.distance b ≤ 20 := by
  have first : gap a.x b.x ≤ 10 := gap_le
  have second : gap a.y b.y ≤ 10 := gap_le
  unfold Coordinate.distance
  omega

theorem distance_eq_zero_iff {a b : Coordinate} (fromA : a.InGrid) (fromB : b.InGrid) :
    a.distance b = 0 ↔ a = b := by
  obtain ⟨ax, ay⟩ := a
  obtain ⟨bx, byy⟩ := b
  simp only [Coordinate.distance, Nat.add_eq_zero_iff, gap_eq_zero_iff fromA.1 fromB.1,
    gap_eq_zero_iff fromA.2 fromB.2, Coordinate.mk.injEq]

/-! ### Moves -/

/-- A move along an axis stays on the torus. -/
theorem wrapped_onAxis {value direction : Int32} (onAxis : OnAxis value)
    (unit : direction ∈ ([-1, 0, 1] : List Int32)) :
    ∃ result, wrapped value direction = some result ∧ OnAxis result := by
  have all : ∀ value ∈ axis, ∀ direction ∈ ([-1, 0, 1] : List Int32),
      (wrapped value direction).any fun result => OnAxis result := by decide +kernel
  have defined := all value (mem_axis onAxis) direction unit
  rw [Option.any_eq_true] at defined
  simpa using defined

/-- On each axis some move goes one square nearer, unless there is nowhere to go. -/
theorem wrapped_nearer {value dest : Int32} (onAxis : OnAxis value) (destOnAxis : OnAxis dest) :
    ∃ direction ∈ ([-1, 0, 1] : List Int32), ∃ result, wrapped value direction = some result ∧
      gap result dest = gap value dest - 1 ∧ (value ≠ dest → direction ≠ 0) := by
  have all : ∀ value ∈ axis, ∀ dest ∈ axis, ∃ direction ∈ ([-1, 0, 1] : List Int32),
      ((wrapped value direction).any fun result => gap result dest = gap value dest - 1) ∧
        (value ≠ dest → direction ≠ 0) := by decide +kernel
  obtain ⟨direction, unit, moved, turns⟩ := all value (mem_axis onAxis) dest (mem_axis destOnAxis)
  rw [Option.any_eq_true] at moved
  obtain ⟨result, found, nearer⟩ := moved
  exact ⟨direction, unit, result, found, by simpa using nearer, turns⟩

/-- The directions of `step` are the moves by at most one on each axis, but for standing still. -/
theorem mem_directions_iff {x y : Int32} (unitX : x ∈ ([-1, 0, 1] : List Int32))
    (unitY : y ∈ ([-1, 0, 1] : List Int32)) : ⟨x, y⟩ ∈ directions ↔ x ≠ 0 ∨ y ≠ 0 := by
  have all : ∀ x ∈ ([-1, 0, 1] : List Int32), ∀ y ∈ ([-1, 0, 1] : List Int32),
      ((⟨x, y⟩ : Coordinate) ∈ directions ↔ x ≠ 0 ∨ y ≠ 0) := by decide
  exact all x unitX y unitY

theorem unit_of_mem_directions {direction : Coordinate} (member : direction ∈ directions) :
    direction.x ∈ ([-1, 0, 1] : List Int32) ∧ direction.y ∈ ([-1, 0, 1] : List Int32) := by
  have all : ∀ direction ∈ directions,
      direction.x ∈ ([-1, 0, 1] : List Int32) ∧ direction.y ∈ ([-1, 0, 1] : List Int32) := by decide
  exact all direction member

variable {pos dest : Coordinate}

/-- Every neighbour of a square of the map is one. -/
theorem neighbour_inGrid {direction : Coordinate} (inGrid : pos.InGrid)
    (member : direction ∈ directions) :
    ∃ move, neighbour pos direction = some move ∧ move.InGrid := by
  obtain ⟨unitX, unitY⟩ := unit_of_mem_directions member
  obtain ⟨x, movedX, onX⟩ := wrapped_onAxis inGrid.1 unitX
  obtain ⟨y, movedY, onY⟩ := wrapped_onAxis inGrid.2 unitY
  exact ⟨⟨x, y⟩, by simp [neighbour, movedX, movedY], onX, onY⟩

/-- One of the neighbours is nearer to the destination. -/
theorem neighbour_nearer (inGrid : pos.InGrid) (destInGrid : dest.InGrid) (apart : pos ≠ dest) :
    ∃ direction ∈ directions, ∃ move, neighbour pos direction = some move ∧
      move.distance dest < pos.distance dest := by
  obtain ⟨directionX, unitX, x, movedX, gapX, turnsX⟩ := wrapped_nearer inGrid.1 destInGrid.1
  obtain ⟨directionY, unitY, y, movedY, gapY, turnsY⟩ := wrapped_nearer inGrid.2 destInGrid.2
  have turns : pos.x ≠ dest.x ∨ pos.y ≠ dest.y := by
    obtain ⟨posX, posY⟩ := pos
    obtain ⟨destX, destY⟩ := dest
    rwa [ne_eq, Coordinate.mk.injEq, Decidable.not_and_iff_not_or_not] at apart
  refine ⟨⟨directionX, directionY⟩, (mem_directions_iff unitX unitY).mpr (turns.imp turnsX turnsY),
    ⟨x, y⟩, by simp [neighbour, movedX, movedY], ?_⟩
  have positive : 0 < pos.distance dest :=
    Nat.pos_of_ne_zero fun none => apart ((distance_eq_zero_iff inGrid destInGrid).mp none)
  simp only [Coordinate.distance, gapX, gapY] at positive ⊢
  omega

/-- What the loop over `directions` holds, once it has seen a square. -/
def Held (dest : Coordinate) (best : Coordinate × Int32) : Prop :=
  best.2 = Int32.maxValue ∨ best.1.InGrid ∧ best.2.toInt = best.1.distance dest

/-- One pass of the loop keeps the nearer of two squares. -/
theorem betterMove_spec {direction : Coordinate} {best : Coordinate × Int32} (inGrid : pos.InGrid)
    (destInGrid : dest.InGrid) (member : direction ∈ directions) (held : Held dest best) :
    ∃ next, betterMove pos dest best direction = some next ∧ Held dest next ∧
      next.2.toInt ≤ best.2.toInt ∧
      ∀ move, neighbour pos direction = some move → next.2.toInt ≤ move.distance dest := by
  obtain ⟨move, moved, moveInGrid⟩ := neighbour_inGrid inGrid member
  obtain ⟨distance, measured, asNat⟩ := calculateDistance_inGrid moveInGrid destInGrid
  have tried : betterMove pos dest best direction =
      some (if distance < best.2 then (move, distance) else best) := by
    simp only [neighbour, Option.bind_eq_bind, Option.bind_eq_some_iff, Option.pure_def,
      Option.some.injEq] at moved
    obtain ⟨x, movedX, y, movedY, rfl⟩ := moved
    simp [betterMove, movedX, movedY, measured]
  refine ⟨_, tried, ?_⟩
  have same (other : Coordinate) (found : neighbour pos direction = some other) : other = move := by
    rw [moved, Option.some.injEq] at found
    exact found.symm
  by_cases nearer : distance < best.2
  · rw [if_pos nearer]
    refine ⟨.inr ⟨moveInGrid, asNat⟩, Int.le_of_lt (Int32.lt_iff_toInt_lt.mp nearer), ?_⟩
    intro other found
    obtain rfl := same other found
    exact Int.le_of_eq asNat
  · rw [if_neg nearer]
    refine ⟨held, Int.le_refl _, ?_⟩
    intro other found
    obtain rfl := same other found
    rw [← asNat]
    exact Int.not_lt.mp fun less => nearer (Int32.lt_iff_toInt_lt.mpr less)

/-- The loop over some directions ends with a square at least as near as each it tried. -/
theorem foldlM_betterMove (inGrid : pos.InGrid) (destInGrid : dest.InGrid) (tried : List Coordinate)
    (among : ∀ direction ∈ tried, direction ∈ directions) {best : Coordinate × Int32}
    (held : Held dest best) :
    ∃ last, tried.foldlM (betterMove pos dest) best = some last ∧ Held dest last ∧
      last.2.toInt ≤ best.2.toInt ∧ ∀ direction ∈ tried, ∀ move, neighbour pos direction = some move →
        last.2.toInt ≤ move.distance dest := by
  induction tried generalizing best with
  | nil => exact ⟨best, rfl, held, Int.le_refl _, by simp⟩
  | cons direction rest inductionHypothesis =>
      rw [List.forall_mem_cons] at among
      obtain ⟨next, passed, heldNext, notFarther, notFartherMove⟩ :=
        betterMove_spec inGrid destInGrid among.1 held
      obtain ⟨last, looped, heldLast, smaller, smallest⟩ := inductionHypothesis among.2 heldNext
      refine ⟨last, by simp [passed, looped], heldLast, Int.le_trans smaller notFarther, ?_⟩
      rw [List.forall_mem_cons]
      exact ⟨fun move found => Int.le_trans smaller (notFartherMove move found), smallest⟩

/-- The best move of `step` is a square of the map nearer to the destination. -/
theorem bestMove_nearer (inGrid : pos.InGrid) (destInGrid : dest.InGrid) (apart : pos ≠ dest) :
    ∃ move, bestMove pos dest = some move ∧ move.InGrid ∧
      move.distance dest < pos.distance dest := by
  obtain ⟨direction, member, near, moved, nearer⟩ := neighbour_nearer inGrid destInGrid apart
  have unseen : Held dest (⟨0, 0⟩, Int32.maxValue) := .inl rfl
  obtain ⟨last, looped, held, _, smallest⟩ :=
    foldlM_betterMove inGrid destInGrid directions (fun _ member => member) unseen
  have small : last.2.toInt ≤ near.distance dest := smallest direction member near moved
  have bounded : near.distance dest ≤ 20 := distance_le near dest
  rcases held with largest | ⟨lastInGrid, asNat⟩
  · have maximum : last.2.toInt = 2147483647 := by
      rw [largest]
      rfl
    omega
  · exact ⟨last.1, by simp [bestMove, looped], lastInGrid, by omega⟩

/-! ### Ticks -/

namespace EcDe

/-- `EC_DE` as a machine. -/
def machine : Machine EcDe Event := ⟨fun taxi event => (taxi.turn event).map Prod.fst⟩

/-- A sensor is attended and nothing keeps the taxi from driving through the map. -/
structure Rolling (taxi : EcDe) : Prop where
  attends : ∃ message, taxi.sensor = .attending message
  allowed : taxi.orderedToStop = false
  running : taxi.stop = false
  inGrid : taxi.pos.InGrid
  destInGrid : taxi.dest.InGrid

variable {taxi : EcDe} {waitTime : Int32}

/-- `step` makes a taxi which is not there get nearer. -/
theorem step_nearer (inGrid : taxi.pos.InGrid) (destInGrid : taxi.dest.InGrid) :
    ∃ move : Coordinate, taxi.step = some { taxi with pos := move } ∧ move.InGrid ∧
      move.distance taxi.dest ≤ taxi.pos.distance taxi.dest - 1 := by
  by_cases there : taxi.pos = taxi.dest
  · refine ⟨taxi.pos, by rw [step, if_pos there], inGrid, ?_⟩
    have arrived : taxi.pos.distance taxi.dest = 0 := (distance_eq_zero_iff inGrid destInGrid).mpr there
    omega
  · obtain ⟨move, best, moveInGrid, nearer⟩ := bestMove_nearer inGrid destInGrid there
    exact ⟨move, by simp [step, there, best], moveInGrid, Nat.le_sub_one_of_lt nearer⟩

/-- One tick without waiting time gets the taxi nearer and leaves it rolling. -/
theorem tick_nearer (rolling : taxi.Rolling) (now : waitTime ≤ 0) :
    ∃ next, machine.step taxi (.tick waitTime true) = some next ∧ next.Rolling ∧
      next.dest = taxi.dest ∧ next.pos.distance next.dest ≤ taxi.pos.distance taxi.dest - 1 := by
  obtain ⟨⟨message, attends⟩, allowed, running, inGrid, destInGrid⟩ := rolling
  have notWaiting : ¬ 0 < waitTime := Int32.not_lt.mpr now
  obtain ⟨move, stepped, moveInGrid, nearer⟩ := step_nearer inGrid destInGrid
  by_cases there : taxi.pos = taxi.dest
  · refine ⟨{ taxi with sensor := .attending message }, ?_, ⟨⟨message, rfl⟩, allowed, running, inGrid,
      destInGrid⟩, rfl, ?_⟩
    · simp [machine, turn, attends, attend, drive, notWaiting, there, running]
    · have arrived : taxi.pos.distance taxi.dest = 0 :=
        (distance_eq_zero_iff inGrid destInGrid).mpr there
      change taxi.pos.distance taxi.dest ≤ taxi.pos.distance taxi.dest - 1
      omega
  · let sent : FullMessage := ⟨{ message.1 with
      subject := .request (if move ≠ taxi.dest then .taxiMove else .taxiDestinationReached)
      coord := move }, message.2⟩
    refine ⟨{ taxi with pos := move, sensor := .attending sent }, ?_, ⟨⟨sent, rfl⟩, allowed, running,
      moveInGrid, destInGrid⟩, rfl, nearer⟩
    simp [machine, turn, attends, attend, drive, notWaiting, there, running, allowed, stepped, sent]

/-- After as many ticks as it is squares away, the taxi is there. -/
theorem ticks_reach (rolling : taxi.Rolling) (waits : List Int32)
    (now : ∀ waitTime ∈ waits, waitTime ≤ 0) :
    ∃ last, machine.exec taxi (waits.map (.tick · true)) = some last ∧ last.Rolling ∧
      last.dest = taxi.dest ∧
      last.pos.distance last.dest ≤ taxi.pos.distance taxi.dest - waits.length := by
  induction waits generalizing taxi with
  | nil => exact ⟨taxi, rfl, rolling, rfl, Nat.le_refl _⟩
  | cons waitTime rest inductionHypothesis =>
      rw [List.forall_mem_cons] at now
      obtain ⟨next, ticked, rollingNext, sameDest, nearer⟩ := tick_nearer rolling now.1
      obtain ⟨last, executed, rollingLast, keptDest, nearest⟩ := inductionHypothesis rollingNext now.2
      refine ⟨last, by simp [Machine.exec, ticked, executed], rollingLast, keptDest.trans sameDest, ?_⟩
      rw [List.length_cons]
      omega

end EcDe

/-- A taxi anywhere in the map which is sent to this square, and which nothing stops, is there after
20 ticks, and no `int` overflows on the way. -/
def Coordinate.Attainable (coord : Coordinate) : Prop :=
  ∀ (taxi : EcDe) (message : FullMessage), taxi.sensor = .attending message →
    taxi.orderedToStop = false → taxi.stop = false → taxi.pos.InGrid → taxi.dest = coord →
    ∀ waits : List Int32, (∀ waitTime ∈ waits, waitTime ≤ 0) → 20 ≤ waits.length →
      ∃ last, EcDe.machine.exec taxi (waits.map (.tick · true)) = some last ∧ last.pos = coord

/-- Every square of the map is reached from every other. -/
theorem attainable_of_inGrid {coord : Coordinate} (inGrid : coord.InGrid) : coord.Attainable := by
  intro taxi message attends allowed running posInGrid sent waits now enough
  subst sent
  obtain ⟨last, executed, rolling, sameDest, nearest⟩ :=
    EcDe.ticks_reach ⟨⟨message, attends⟩, allowed, running, posInGrid, inGrid⟩ waits now
  have far : taxi.pos.distance taxi.dest ≤ 20 := distance_le _ _
  have arrived : last.pos.distance last.dest = 0 := by omega
  refine ⟨last, executed, ?_⟩
  rw [← sameDest]
  exact (distance_eq_zero_iff rolling.inGrid rolling.destInGrid).mp arrived

end EasyCab
