import EasyCab.Common.MessageCodec

/-!
# A taxi

`EC_DE` after `authenticate`. Its threads share the position, the destination and
two flags. A consumed response, a tick of the sensor and each of the other events
is one atomic step; where a thread is between two of them is part of the state.

The coordinates are `int`s. An operation on them whose result is no `int` is
undefined in the source, so it has no result here.
-/

namespace EasyCab

open Library

/-! ### Distances on the map -/

/-- The result of an operation on `int`s, if it is one. -/
def cint (value : Int) : Option Int32 :=
  if Int32.minValue.toInt ≤ value ∧ value ≤ Int32.maxValue.toInt then some (.ofInt value) else none

/-- `mirror`: the mirror of `n` with respect to `reference`. -/
def mirror (n reference : Int32) : Option Int32 := do
  let doubled ← cint (2 * reference.toInt)
  cint (doubled.toInt - n.toInt)

/-- `abs(a - b)`. -/
def absoluteDifference (a b : Int32) : Option Int32 := do
  let difference ← cint (a.toInt - b.toInt)
  cint difference.toInt.natAbs

/-- `calculateDistance`. -/
def calculateDistance (a b : Coordinate) : Option Int32 := do
  let distX ← absoluteDifference a.x b.x
  let distY ← absoluteDifference a.y b.y
  let mirrorX ← mirror distX 10
  let mirrorY ← mirror distY 10
  cint ((min distX.toInt mirrorX.toInt) + (min distY.toInt mirrorY.toInt))

/-- The eight `directions` of `step`, in order. -/
def directions : List Coordinate :=
  [⟨1, 0⟩, ⟨1, 1⟩, ⟨0, 1⟩, ⟨-1, 1⟩, ⟨-1, 0⟩, ⟨-1, -1⟩, ⟨0, -1⟩, ⟨1, -1⟩]

/-- One coordinate of `nextMove`: the sum modulo 20, which `%` leaves negative for a
negative sum. -/
def wrapped (value direction : Int32) : Option Int32 := do
  let moved ← cint (value.toInt + direction.toInt)
  let rest := moved % 20
  return if rest < 0 then rest + 20 else rest

/-- The body of the loop over `directions`: `best` holds `bestMove` and `bestDistance`. -/
def betterMove (pos dest : Coordinate) (best : Coordinate × Int32) (direction : Coordinate) :
    Option (Coordinate × Int32) := do
  let x ← wrapped pos.x direction.x
  let y ← wrapped pos.y direction.y
  let distance ← calculateDistance ⟨x, y⟩ dest
  return if distance < best.2 then (⟨x, y⟩, distance) else best

/-- The best move of `step`. -/
def bestMove (pos dest : Coordinate) : Option Coordinate := do
  let best ← directions.foldlM (betterMove pos dest) (⟨0, 0⟩, Int32.maxValue)
  return best.1

/-! ### The process -/

/-- Where the thread of `listenSensor` is. -/
inductive SensorThread where
  /-- At the head of its loop. -/
  | looping
  /-- In `acceptConnections`. -/
  | accepting
  /-- In `attend`, with the message of `attend`. -/
  | attending (message : FullMessage)
  /-- After `attend`. -/
  | leaving
  /-- After its loop. -/
  | ended
deriving DecidableEq

/-- The shared variables of `EC_DE` and where its threads are. `listening` says that
`listenKafka` waits for a response. -/
structure EcDe where
  id : TaxiId
  session : Uuid
  pos : Coordinate
  dest : Coordinate
  orderedToStop : Bool
  stop : Bool
  listening : Bool
  sensor : SensorThread
deriving DecidableEq

namespace EcDe

/-- What the process is seen to do. -/
inductive Act where
  /-- A message is put on `requests`. -/
  | produce (message : FullMessage)
  /-- The sensor is told whether the taxi moves. -/
  | answer (moving : Bool)
deriving DecidableEq

/-- What can happen to the process. -/
inductive Event where
  /-- `consume` returns in `listenKafka`. -/
  | consume (message : Option FullMessage)
  /-- `listenSensor` looks at `stop`. -/
  | check
  /-- A sensor connects. -/
  | connect
  /-- One pass through the loop of `attend`. `again` says that the sensor takes the answer and
  sends another waiting time. -/
  | tick (waitTime : Int32) (again : Bool)
  /-- `attend` has returned. -/
  | leave
  /-- One pass through the loop of `ping`. -/
  | ping
  /-- The user leaves the interface. -/
  | quit

/-- After `authenticate`. -/
def start (id : TaxiId) (session : Uuid) : EcDe where
  id := id
  session := session
  pos := ⟨0, 0⟩
  dest := ⟨0, 0⟩
  orderedToStop := false
  stop := false
  listening := true
  sensor := .looping

/-- A message with the taxi, its session and a subject. -/
def message (taxi : EcDe) (subject : SubjRequest) : FullMessage :=
  ⟨{ Message.request taxi.session.1 subject with taxiId := taxi.id }, taxi.session.2⟩

/-- `step`. -/
def step (taxi : EcDe) : Option EcDe :=
  if taxi.pos = taxi.dest then some taxi
  else (bestMove taxi.pos taxi.dest).map fun move => { taxi with pos := move }

/-- The switch of `listenKafka`. The consumed message itself is sent back on arrival, and
then the destination stays as it is. -/
def obey (taxi : EcDe) (message : FullMessage) : SubjResponse → EcDe × List Act
  | .taxiGoTo =>
      if taxi.pos = message.1.coord then
        (taxi, [.produce
          ⟨{ message.1 with
              subject := .request .taxiDestinationReached
              coord := taxi.pos
              session := taxi.session.1 }, taxi.session.2⟩])
      else ({ taxi with dest := message.1.coord }, [])
  | .taxiStop => ({ taxi with orderedToStop := true }, [])
  | .taxiContinue => ({ taxi with orderedToStop := false }, [])
  | .taxiReturnToBase => ({ taxi with dest := ⟨0, 0⟩ }, [])
  | .taxiDisconnect => ({ taxi with stop := true }, [])
  | _ => (taxi, [])

/-- The order in a message, if it is a response for this taxi. -/
def order? (taxi : EcDe) (message : FullMessage) : Option SubjResponse :=
  match message.1.subject with
  | .response subject => if message.1.taxiId = taxi.id then some subject else none
  | _ => none

/-- One pass through the loop of `listenKafka`, up to the next look at `stop`. -/
def listenKafka (taxi : EcDe) (message : Option FullMessage) : EcDe × List Act :=
  let heard := do
    let message ← message
    let subject ← taxi.order? message
    return taxi.obey message subject
  let (taxi, acts) := heard.getD (taxi, [])
  ({ taxi with listening := !taxi.stop }, acts)

/-- The two branches of `attend` which send `message`, with what became of the taxi. -/
def drive (taxi : EcDe) (message : FullMessage) (waitTime : Int32) :
    Option (EcDe × Option FullMessage) :=
  if 0 < waitTime then
    let update := { message.1 with subject := .request .taxiUpdateWaitTime }
    some (taxi, some ⟨update.setIntData (waitTime - 1), message.2⟩)
  else if taxi.pos ≠ taxi.dest ∧ ¬ taxi.orderedToStop then
    taxi.step.map fun taxi =>
      (taxi, some
        ⟨{ message.1 with
            subject := .request
              (if taxi.pos ≠ taxi.dest then .taxiMove else .taxiDestinationReached)
            coord := taxi.pos }, message.2⟩)
  else some (taxi, none)

/-- One pass through the loop of `attend`, up to where it waits for the sensor again. -/
def attend (taxi : EcDe) (message : FullMessage) (waitTime : Int32) (again : Bool) :
    Option (EcDe × List Act) :=
  (taxi.drive message waitTime).map fun (taxi, sent) =>
    ({ taxi with
        sensor := if again && !taxi.stop then .attending (sent.getD message) else .leaving },
      sent.toList.map .produce ++ [.answer (taxi.pos ≠ taxi.dest && !taxi.orderedToStop)])

/-- What the process does next, and where it is then. -/
def turn (taxi : EcDe) : Event → Option (EcDe × List Act)
  | .consume message => if taxi.listening then some (taxi.listenKafka message) else none
  | .check =>
      match taxi.sensor with
      | .looping =>
          if taxi.stop then
            some ({ taxi with sensor := .ended }, [.produce (taxi.message .orderTaxiDisconnect)])
          else some ({ taxi with sensor := .accepting }, [])
      | _ => none
  | .connect =>
      match taxi.sensor with
      | .accepting =>
          some ({ taxi with
              sensor := .attending ⟨{ Message.new with
                taxiId := taxi.id, session := taxi.session.1 }, taxi.session.2⟩ },
            [.produce (taxi.message .taxiReady)])
      | _ => none
  | .tick waitTime again =>
      match taxi.sensor with
      | .attending message => taxi.attend message waitTime again
      | _ => none
  | .leave =>
      match taxi.sensor with
      | .leaving =>
          some ({ taxi with sensor := .looping }, [.produce (taxi.message .taxiNotReady)])
      | _ => none
  | .ping => if taxi.stop then none else some (taxi, [.produce (taxi.message .taxiPing)])
  | .quit => some ({ taxi with stop := true }, [])

end EcDe

end EasyCab
