import EasyCab.Socket.WholeFrames

/-!
# A sensor

`EC_SE`: the thread of `communicateWithDE` and the loop of `main`. They share the counter and two
flags, and each section under the lock is one atomic step. Between the look at the counter and its
decrement, and between the look at `moving` and the selection it allows, the other thread may run.

`main` is modelled by the keys which its loop reads; the windows are left out.
-/

namespace EasyCab

open Library

/-! ### Counters in a frame -/

/-- The `int` in the first four bytes of a payload. -/
def intOf (payload : Sized bufferSize) : Int32 :=
  (UInt32.ofNat (ofLittleEndian (payload.1.take 4))).toInt32

/-- The handler after an `int` was copied to its buffer. -/
def SocketHandler.putInt (handler : SocketHandler) (value : Int32) : SocketHandler :=
  handler.fill ((payload handler.buffer).overwrite (littleEndian 4 value.toUInt32.toNat)
    (by rw [littleEndian_length]; decide))

/-- A new socket shows zero. -/
theorem intOf_new : intOf SocketHandler.new.getData = 0 := by decide

/-- What is copied to a buffer is the `int` of the frame which is written then. -/
theorem intOf_putInt (handler : SocketHandler) (value : Int32) :
    intOf (payload (handler.putInt value).buffer) = value := by
  have small : value.toUInt32.toNat < 256 ^ 4 := value.toUInt32.toNat_lt
  rw [SocketHandler.putInt, SocketHandler.payload_fill, intOf, ofLittleEndian_take_overwrite small]
  simp

/-- The `int` which a frame carries; `getData` is all zeros where it carries no data. -/
def Frame.count (frame : Frame) : Int32 :=
  match frame.content with
  | .data sent => intOf sent
  | .control _ => 0

theorem Frame.count_putInt (handler : SocketHandler) (value : Int32) :
    (handler.putInt value).dataFrame.count = value := intOf_putInt handler value

/-- A frame which is read whole shows the `int` which it carries. -/
theorem intOf_readFrame (handler : SocketHandler) (frame : Frame) :
    intOf (handler.readFrame frame).2.getData = frame.count := by
  have carries := frame.carries
  rw [← @SocketHandler.readFrame_data handler frame] at carries
  unfold Frame.count
  cases content : frame.content with
  | data sent =>
      rw [content] at carries
      obtain ⟨head, same⟩ := carries
      simp [SocketHandler.getData, SocketHandler.hasData, head, same]
  | control char =>
      rw [content] at carries
      have heads : ControlChar.stc.byte ≠ ControlChar.stx.byte := by decide
      simp only [SocketHandler.getData, SocketHandler.hasData, carries.1, heads, decide_false,
        Bool.false_eq_true, if_false]
      decide

/-! ### The process -/

/-- The options of the menu. -/
inductive MenuOption where
  | minorInconvenience
  | inconvenience
  | majorInconvenience
  | exit
deriving DecidableEq

/-- The value for which an option calls `setCounter`. -/
def MenuOption.counter? : MenuOption → Option Int32
  | .minorInconvenience => some 5
  | .inconvenience => some 15
  | .majorInconvenience => some 30
  | .exit => none

/-- What `getch` answers. -/
inductive Key where
  /-- `q` or `Q`. -/
  | quit
  /-- A blank or a new line while this option is hovered. -/
  | choose (option : MenuOption)
  | other
deriving DecidableEq

namespace EcSe

/-- Where the loop of `main` is. -/
inductive Main where
  | looping
  /-- It has seen that the taxi moves, and is before the switch. -/
  | choosing (option : MenuOption)
  | returned
deriving DecidableEq

/-- Where the thread of `communicateWithDE` is. -/
inductive Thread where
  /-- In `readFromSocket`. -/
  | reading
  /-- Before `setMoving`. -/
  | moving
  /-- Before the `getCounter` whose value is sent. -/
  | counting
  /-- Before the value is written. -/
  | writing (value : Int32)
  /-- Asleep, and then before the `getCounter` which is compared with zero. -/
  | sleeping
  /-- Before `decrementCounter`. -/
  | decrementing
  /-- After the loop, before `setStop`. -/
  | stopping
  | ended
deriving DecidableEq

end EcSe

/-- The shared variables of `EC_SE`, the socket of `communicateWithDE` and where the threads are. -/
structure EcSe where
  socket : SocketHandler
  counter : Int32
  moving : Bool
  stop : Bool
  main : EcSe.Main
  thread : EcSe.Thread
deriving DecidableEq

namespace EcSe

/-- What is noted of the counter, for the statements only. -/
inductive Note where
  /-- The operator sets the counter. -/
  | selected (value : Int32)
  /-- The counter is read to be sent. -/
  | counted (value : Int32)
deriving DecidableEq

/-- What the process is seen to do. -/
inductive Act where
  | noted (note : Note)
  | wrote (frame : Frame)

/-- What can happen to the process. -/
inductive Event where
  /-- `readFromSocket` gets a frame. -/
  | read (frame : Frame)
  /-- `readFromSocket` gets nothing. -/
  | fail (wouldBlock : Bool)
  /-- `communicateWithDE` takes its next step. -/
  | work
  /-- One pass through the loop of `main`, up to the switch. -/
  | press (key : Key)
  /-- The switch of `main`. -/
  | choose

/-- When `communicateWithDE` is connected. -/
def start : EcSe where
  socket := .new
  counter := 0
  moving := false
  stop := false
  main := .looping
  thread := .reading

/-- The next step of `communicateWithDE` outside `readFromSocket`. -/
def communicateWithDE (sensor : EcSe) : Option (EcSe × List Act) :=
  match sensor.thread with
  | .reading => none
  | .moving =>
      some ({ sensor with
        moving := sensor.socket.getData.byteAt 0 ≠ 0, thread := .counting }, [])
  | .counting =>
      some ({ sensor with thread := .writing sensor.counter }, [.noted (.counted sensor.counter)])
  | .writing value =>
      let filled := sensor.socket.putInt value
      some ({ sensor with socket := filled.writeToSocket, thread := .sleeping },
        [.wrote filled.dataFrame])
  | .sleeping =>
      some ({ sensor with thread := if sensor.counter ≠ 0 then .decrementing else .reading }, [])
  | .decrementing =>
      some ({ sensor with counter := sensor.counter - 1, thread := .reading }, [])
  | .stopping => some ({ sensor with stop := true, thread := .ended }, [])
  | .ended => none

/-- `main` returns, and the process ends. -/
def returned (sensor : EcSe) : EcSe := { sensor with main := .returned, thread := .ended }

/-- One pass through the loop of `main`, up to the switch. -/
def press (sensor : EcSe) (key : Key) : EcSe :=
  if sensor.stop then sensor.returned
  else
    match key with
    | .quit => { sensor with stop := true }.returned
    | .choose option => if sensor.moving then { sensor with main := .choosing option } else sensor
    | .other => sensor

/-- The switch of `main`. -/
def choose (sensor : EcSe) (option : MenuOption) : EcSe × List Act :=
  match option.counter? with
  | some value => ({ sensor with counter := value, main := .looping }, [.noted (.selected value)])
  | none => ({ sensor with stop := true, main := .looping }, [])

/-- What the process does next, and where it is then. -/
def turn (sensor : EcSe) : Event → Option (EcSe × List Act)
  | .read frame =>
      match sensor.thread with
      | .reading =>
          let (returned, socket) := sensor.socket.readFrame frame
          some ({ sensor with
            socket := socket
            thread := if returned && socket.hasData then .moving else .stopping }, [])
      | _ => none
  | .fail wouldBlock =>
      match sensor.thread with
      | .reading =>
          let (_, socket) := sensor.socket.readFromSocket (.failed wouldBlock)
          some ({ sensor with socket := socket, thread := .stopping }, [])
      | _ => none
  | .work => sensor.communicateWithDE
  | .press key =>
      match sensor.main with
      | .looping => some (sensor.press key, [])
      | _ => none
  | .choose =>
      match sensor.main with
      | .choosing option => some (sensor.choose option)
      | _ => none

/-! ### Its turns -/

/-- What an event makes of the sensor, and what the sensor does then. -/
inductive Turned (sensor : EcSe) : Event → EcSe → List Act → Prop where
  | read {frame : Frame} {thread : Thread} (reading : sensor.thread = .reading)
      (goes : thread = .moving ∨ thread = .stopping) :
      Turned sensor (.read frame)
        { sensor with socket := (sensor.socket.readFrame frame).2, thread := thread } []
  | failed {wouldBlock : Bool} (socket : SocketHandler) (reading : sensor.thread = .reading) :
      Turned sensor (.fail wouldBlock) { sensor with socket := socket, thread := .stopping } []
  | told (moving : Bool) (told : sensor.thread = .moving) :
      Turned sensor .work { sensor with moving := moving, thread := .counting } []
  | counted (counting : sensor.thread = .counting) :
      Turned sensor .work { sensor with thread := .writing sensor.counter }
        [.noted (.counted sensor.counter)]
  | wrote {value : Int32} (writing : sensor.thread = .writing value) :
      Turned sensor .work
        { sensor with socket := (sensor.socket.putInt value).writeToSocket, thread := .sleeping }
        [.wrote (sensor.socket.putInt value).dataFrame]
  /-- The counter is seen not to be zero. -/
  | looked (sleeping : sensor.thread = .sleeping) (left : sensor.counter ≠ 0) :
      Turned sensor .work { sensor with thread := .decrementing } []
  | rested (sleeping : sensor.thread = .sleeping) (elapsed : sensor.counter = 0) :
      Turned sensor .work { sensor with thread := .reading } []
  | decremented (decrementing : sensor.thread = .decrementing) :
      Turned sensor .work { sensor with counter := sensor.counter - 1, thread := .reading } []
  | stopped (stopping : sensor.thread = .stopping) :
      Turned sensor .work { sensor with stop := true, thread := .ended } []
  | pressed {key : Key} (main : Main) : Turned sensor (.press key) { sensor with main := main } []
  | returned {key : Key} :
      Turned sensor (.press key)
        { sensor with stop := true, main := .returned, thread := .ended } []
  | selected {option : MenuOption} {value : Int32} (sets : option.counter? = some value) :
      Turned sensor .choose { sensor with counter := value, main := .looping }
        [.noted (.selected value)]
  | exited : Turned sensor .choose { sensor with stop := true, main := .looping } []

variable {sensor next : EcSe} {event : Event} {acts : List Act}

/-- A step of `communicateWithDE` is one of the listed ones. -/
theorem turned_of_communicateWithDE (stepped : sensor.communicateWithDE = some (next, acts)) :
    sensor.Turned .work next acts := by
  unfold communicateWithDE at stepped
  cases thread : sensor.thread with
  | reading | ended => simp [thread] at stepped
  | moving =>
      simp only [thread, Option.some.injEq] at stepped
      cases stepped
      exact .told _ thread
  | counting =>
      simp only [thread, Option.some.injEq] at stepped
      cases stepped
      exact .counted thread
  | writing value =>
      simp only [thread, Option.some.injEq] at stepped
      cases stepped
      exact .wrote thread
  | sleeping =>
      simp only [thread, Option.some.injEq] at stepped
      cases stepped
      by_cases left : sensor.counter ≠ 0
      · rw [if_pos left]
        exact .looked thread left
      · rw [if_neg left]
        exact .rested thread (not_not.mp left)
  | decrementing =>
      simp only [thread, Option.some.injEq] at stepped
      cases stepped
      exact .decremented thread
  | stopping =>
      simp only [thread, Option.some.injEq] at stepped
      cases stepped
      exact .stopped thread

/-- A pass through the loop of `main` is a turn. -/
theorem turned_of_press (key : Key) : sensor.Turned (.press key) (sensor.press key) [] := by
  unfold press
  split
  · next stop =>
    have same : sensor.returned =
        { sensor with stop := true, main := .returned, thread := .ended } := by
      rw [← stop]
      rfl
    rw [same]
    exact .returned
  · cases key with
    | quit => exact .returned
    | choose option =>
        simp only
        split
        · exact .pressed (.choosing option)
        · exact .pressed sensor.main
    | other => exact .pressed sensor.main

/-- Every turn is one of the listed ones. -/
theorem turned_of_turn (turned : sensor.turn event = some (next, acts)) :
    sensor.Turned event next acts := by
  cases event with
  | read frame =>
      simp only [turn] at turned
      split at turned
      · next reading =>
        cases turned
        refine .read reading ?_
        split
        · exact .inl rfl
        · exact .inr rfl
      · cases turned
  | fail wouldBlock =>
      simp only [turn] at turned
      split at turned
      · next reading =>
        cases turned
        exact .failed _ reading
      · cases turned
  | work => exact turned_of_communicateWithDE turned
  | press key =>
      simp only [turn] at turned
      split at turned <;> cases turned
      exact turned_of_press key
  | choose =>
      simp only [turn] at turned
      split at turned
      · next option _ =>
        simp only [choose, Option.some.injEq] at turned
        split at turned
        · next value sets =>
          cases turned
          exact .selected sets
        · cases turned
          exact .exited
      · cases turned

/-! ### The counter -/

/-- The counter is not negative, and it is positive where it is about to be decremented. -/
structure Natural (sensor : EcSe) : Prop where
  counter : 0 ≤ sensor.counter.toInt
  left : sensor.thread = .decrementing → 0 < sensor.counter.toInt

/-- What is counted next, unless the operator sets the counter before. -/
def forecast (sensor : EcSe) : Int :=
  match sensor.thread with
  | .writing _ | .sleeping => max (sensor.counter.toInt - 1) 0
  | .decrementing => sensor.counter.toInt - 1
  | _ => sensor.counter.toInt

/-- What may be counted after these notes: one less than was counted last, down to zero, or at least
four where the operator has set the counter since. -/
def Follows (notes : List Note) (value : Int) : Prop :=
  match notes.getLast? with
  | none => value = 0
  | some (.counted last) => value = max (last.toInt - 1) 0
  | some (.selected _) => 4 ≤ value

/-- While the thread runs, what is counted next may be counted after these notes. -/
def Foretold (sensor : EcSe) (notes : List Note) : Prop :=
  sensor.thread ≠ .ended → Follows notes sensor.forecast

/-- The note of an act, if it has one. -/
def Act.note? : Act → Option Note
  | .noted note => some note
  | .wrote _ => none

/-- The frame of an act, if it has one. -/
def Act.frame? : Act → Option Frame
  | .wrote frame => some frame
  | .noted _ => none

/-- One less than a positive `int` does not overflow. -/
theorem toInt_sub_one {value : Int32} (positive : 0 < value.toInt) :
    (value - 1).toInt = value.toInt - 1 := by
  have below := value.toInt_lt
  rw [Int32.toInt_sub]
  exact Int.bmod_eq_of_le (by simp; omega) (by simp; omega)

/-- The operator sets the counter to five or more. -/
theorem five_le_of_counter? {option : MenuOption} {value : Int32}
    (sets : option.counter? = some value) : 5 ≤ value.toInt := by
  cases option <;> cases sets <;> decide

theorem start_natural : EcSe.start.Natural := ⟨by decide, by rintro ⟨⟩⟩

theorem start_foretold : EcSe.start.Foretold [] := fun _ => rfl

/-- Whatever comes between the look at the counter and its decrement, no turn makes the counter
negative. -/
theorem Natural.turned (natural : sensor.Natural) (turned : sensor.Turned event next acts) :
    next.Natural := by
  obtain ⟨counter, left⟩ := natural
  cases turned with
  | looked sleeping nonzero =>
      refine ⟨counter, fun _ => ?_⟩
      have apart : sensor.counter.toInt ≠ 0 := fun zero => nonzero (Int32.toInt_inj.mp zero)
      simp only
      omega
  | decremented decrementing =>
      have positive := left decrementing
      refine ⟨?_, by rintro ⟨⟩⟩
      simp only [toInt_sub_one positive]
      omega
  | selected sets =>
      have set := five_le_of_counter? sets
      exact ⟨by simp only; omega, fun _ => by simp only; omega⟩
  | pressed main => exact ⟨counter, left⟩
  | exited => exact ⟨counter, left⟩
  | read reading goes => exact ⟨counter, by rcases goes with rfl | rfl <;> rintro ⟨⟩⟩
  | _ => exact ⟨counter, by rintro ⟨⟩⟩

/-- A turn without a note which leaves the forecast leaves what is foretold. -/
theorem Foretold.kept {notes : List Note} (foretold : sensor.Foretold notes)
    (runs : sensor.thread ≠ .ended) (same : next.forecast = sensor.forecast) :
    next.Foretold (notes ++ [].filterMap Act.note?) := by
  intro _
  rw [List.filterMap_nil, List.append_nil, same]
  exact foretold runs

/-- After a selection at least four are counted next, wherever the thread is. -/
theorem four_le_forecast (selected : 5 ≤ sensor.counter.toInt) : 4 ≤ sensor.forecast := by
  have less : 4 ≤ sensor.counter.toInt - 1 := by omega
  unfold forecast
  cases sensor.thread with
  | writing | sleeping => exact Int.le_trans less (Int.le_max_left _ _)
  | decrementing => exact less
  | _ => exact Int.le_trans less (Int.sub_le_self _ Int.one_nonneg)

/-- What is foretold after a turn may follow the notes of the turn. -/
theorem Foretold.turned {notes : List Note} (foretold : sensor.Foretold notes)
    (natural : sensor.Natural) (turned : sensor.Turned event next acts) :
    next.Foretold (notes ++ acts.filterMap Act.note?) := by
  cases turned with
  | read reading goes =>
      apply foretold.kept (by simp [reading])
      rcases goes with rfl | rfl <;> simp [forecast, reading]
  | failed socket reading => exact foretold.kept (by simp [reading]) (by simp [forecast, reading])
  | told moving told => exact foretold.kept (by simp [told]) (by simp [forecast, told])
  | counted counting =>
      intro _
      simp [Follows, forecast, Act.note?]
  | @wrote value writing =>
      intro _
      have follows : Follows notes sensor.forecast := foretold (by simp [writing])
      have unnoted : notes ++ [Act.wrote (sensor.socket.putInt value).dataFrame].filterMap Act.note? =
          notes := List.append_nil notes
      rw [unnoted]
      simpa [forecast, writing] using follows
  | looked sleeping left =>
      apply foretold.kept (by simp [sleeping])
      have apart : sensor.counter.toInt ≠ 0 := fun zero => left (Int32.toInt_inj.mp zero)
      have counter := natural.counter
      simp only [forecast, sleeping]
      omega
  | rested sleeping elapsed =>
      apply foretold.kept (by simp [sleeping])
      simp only [forecast, sleeping, elapsed]
      rfl
  | decremented decrementing =>
      apply foretold.kept (by simp [decrementing])
      simp only [forecast, decrementing]
      exact toInt_sub_one (natural.left decrementing)
  | selected sets =>
      intro _
      have enough := five_le_of_counter? sets
      simpa [Follows, Act.note?] using four_le_forecast enough
  | pressed main | exited =>
      intro runs
      rw [List.filterMap_nil, List.append_nil]
      exact foretold runs
  | stopped | returned => exact fun runs => absurd rfl runs

/-- What is counted was foretold. -/
theorem Foretold.counted {notes : List Note} (foretold : sensor.Foretold notes)
    (turned : sensor.Turned event next acts) {value : Int32}
    (counted : .noted (.counted value) ∈ acts) : Follows notes value.toInt := by
  cases turned with
  | counted counting =>
      obtain rfl : value = sensor.counter := by simpa using counted
      have follows : Follows notes sensor.forecast := foretold (by simp [counting])
      simpa [forecast, counting] using follows
  | wrote | selected => simp at counted
  | _ => cases counted

/-! ### What is sent -/

/-- The value of a note that the counter was read to be sent. -/
def Note.counted? : Note → Option Int32
  | .counted value => some value
  | .selected _ => none

/-- The values which were read to be sent. -/
def counted (notes : List Note) : List Int32 := notes.filterMap Note.counted?

/-- The value which was read and not yet written, if there is one. -/
def held (sensor : EcSe) : List Int32 :=
  match sensor.thread with
  | .writing value => [value]
  | _ => []

/-- A thread which has ended stays so. -/
theorem Turned.stays_ended (turned : sensor.Turned event next acts) (ended : sensor.thread = .ended) :
    next.thread = .ended := by
  cases turned <;> simp_all

/-- A thread which has ended writes nothing. -/
theorem Turned.silent (turned : sensor.Turned event next acts) (ended : next.thread = .ended) :
    acts.filterMap Act.frame? = [] := by
  cases turned with
  | wrote writing => cases ended
  | _ => rfl

/-- While the thread runs, what it reads to send it holds or writes. -/
theorem Turned.conserves (turned : sensor.Turned event next acts) (runs : next.thread ≠ .ended) :
    sensor.held ++ EcSe.counted (acts.filterMap Act.note?) =
      (acts.filterMap Act.frame?).map Frame.count ++ next.held := by
  cases turned with
  | counted counting => simp [held, counting, EcSe.counted, Act.note?, Act.frame?, Note.counted?]
  | wrote writing =>
      simp [held, writing, EcSe.counted, Act.note?, Act.frame?, Frame.count_putInt]
  | read reading goes => rcases goes with rfl | rfl <;> simp [held, reading, EcSe.counted]
  | failed socket reading => simp [held, reading, EcSe.counted]
  | told moving told => simp [held, told, EcSe.counted]
  | looked sleeping | rested sleeping => simp [held, sleeping, EcSe.counted]
  | decremented decrementing => simp [held, decrementing, EcSe.counted]
  | selected sets => exact List.append_nil sensor.held
  | pressed main | exited => simp [held, EcSe.counted]
  | stopped | returned => exact absurd rfl runs

/-! ### What is noted -/

/-- Every counted value may follow the notes before it. -/
def Regular (notes : List Note) : Prop :=
  ∀ earlier value later, notes = earlier ++ .counted value :: later → Follows earlier value.toInt

variable {notes : List Note}

theorem regular_nil : Regular [] := by
  intro earlier value later same
  simp at same

/-- Notes stay regular with one more which may follow them. -/
theorem Regular.append_one (regular : Regular notes) {note : Note}
    (follows : ∀ value, note = .counted value → Follows notes value.toInt) :
    Regular (notes ++ [note]) := by
  intro earlier value later same
  rcases List.eq_nil_or_concat later with rfl | ⟨later, last, rfl⟩
  · obtain ⟨rfl, latest⟩ := List.append_inj' same rfl
    exact follows value (List.singleton_inj.mp latest)
  · rw [List.concat_eq_append, ← List.cons_append, ← List.append_assoc] at same
    exact regular earlier value later (List.append_inj' same rfl).1

/-- Every turn leaves the counted values following the notes before them. -/
theorem Regular.turned (regular : Regular notes) (foretold : sensor.Foretold notes)
    (turned : sensor.Turned event next acts) : Regular (notes ++ acts.filterMap Act.note?) := by
  have follows := fun value => @Foretold.counted sensor next event acts notes foretold turned value
  cases turned with
  | counted counting =>
      refine regular.append_one fun value latest => follows value ?_
      simp [← latest]
  | selected sets => exact regular.append_one (by rintro value ⟨⟩)
  | wrote writing => exact (List.append_nil notes).symm ▸ regular
  | _ =>
      rw [List.filterMap_nil, List.append_nil]
      exact regular

/-- What may be counted is not negative, and it is zero only after a value of at most one. -/
theorem Follows.of_counted {value : Int} (follows : Follows notes value) :
    0 ≤ value ∧ (value = 0 → ((counted notes).getLastD 0).toInt ≤ 1) := by
  rcases List.eq_nil_or_concat notes with rfl | ⟨earlier, last, rfl⟩
  · obtain rfl : value = 0 := follows
    exact ⟨Int.le_refl 0, fun _ => by decide⟩
  · rw [List.concat_eq_append] at follows ⊢
    cases last with
    | counted last =>
        have same : value = max (last.toInt - 1) 0 := by simpa [Follows] using follows
        have latest : (counted (earlier ++ [.counted last])).getLastD 0 = last := by
          simp [counted, Note.counted?]
        rw [latest]
        omega
    | selected set =>
        have enough : 4 ≤ value := by simpa [Follows] using follows
        exact ⟨by omega, fun zero => by omega⟩

/-- Every counted value has its note, with the notes of the earlier ones before it. -/
theorem note_of_counted {earlier later : List Int32} {value : Int32}
    (same : counted notes = earlier ++ value :: later) :
    ∃ before after, notes = before ++ .counted value :: after ∧ counted before = earlier ∧
      counted after = later := by
  obtain ⟨before, rest, rfl, first, others⟩ := List.filterMap_eq_append_iff.mp same
  obtain ⟨skipped, note, after, rfl, uncounted, found, last⟩ := List.filterMap_eq_cons_iff.mp others
  have passed : skipped.filterMap Note.counted? = [] := List.filterMap_eq_nil_iff.mpr uncounted
  have noted : note = .counted value := by
    cases note with
    | counted other => exact congrArg Note.counted (Option.some.inj found)
    | selected other => cases found
  refine ⟨before ++ skipped, after, by simp [noted], ?_, last⟩
  rw [counted, List.filterMap_append, passed, List.append_nil, first]

/-- Neighbours among the counted values: between them the operator sets the counter, or the second
is one less than the first. -/
theorem Regular.neighbours (regular : Regular notes) {earlier later : List Int32}
    {value next : Int32} (same : counted notes = earlier ++ value :: next :: later) :
    ∃ before between after, notes = before ++ .counted value :: (between ++ .counted next :: after) ∧
      counted before = earlier ∧ (∀ note ∈ between, ∃ set, note = .selected set) ∧
      (between = [] → next.toInt = max (value.toInt - 1) 0) := by
  obtain ⟨before, rest, rfl, first, others⟩ := note_of_counted same
  obtain ⟨between, after, rfl, none, _⟩ := @note_of_counted rest [] later next others
  refine ⟨before, between, after, rfl, first, fun note member => ?_, fun empty => ?_⟩
  · cases note with
    | selected set => exact ⟨set, rfl⟩
    | counted other => cases List.filterMap_eq_nil_iff.mp none _ member
  · subst empty
    have follows := regular (before ++ [.counted value]) next after (by simp)
    simpa [Follows] using follows

end EcSe

end EasyCab
