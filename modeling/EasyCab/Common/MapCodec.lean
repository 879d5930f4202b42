import EasyCab.Common.MessageCodec
import EasyCab.Library.Readers

/-!
# The bytes of a map

`serialize` writes three counts and copies the records of the three lists as they lie in memory,
with padding which nobody writes. `deserialize` adds what it reads to the lists of its receiver.
-/

namespace EasyCab

open Library

/-! ### Records -/

namespace Coordinate

/-- Take a coordinate. -/
def read : Reader Coordinate := fun input => do
  let (x, input) ← readInt input
  let (y, input) ← readInt input
  return (⟨x, y⟩, input)

theorem reads (coord : Coordinate) : Reads read coord.bytes coord := by
  intro rest
  have laid : coord.bytes ++ rest = intBytes coord.x ++ (intBytes coord.y ++ rest) := by
    simp [bytes, intBytes]
  rw [laid, read]
  simp only [reads_int coord.x _, reads_int coord.y _, Option.bind_eq_bind, Option.bind_some,
    Option.pure_def]

end Coordinate

namespace Location

/-- The twelve bytes of a location, with three of padding after the identifier. -/
def bytes (location : Location) (padding : Sized 3) : List UInt8 :=
  [location.id] ++ (padding.1 ++ location.coord.bytes)

/-- Take a location. -/
def read : Reader Location := fun input => do
  let (id, input) ← readByte input
  let (_, input) ← readBytes 3 input
  let (coord, input) ← Coordinate.read input
  return (⟨id, coord⟩, input)

theorem reads (location : Location) (padding : Sized 3) :
    Reads read (location.bytes padding) location := by
  intro rest
  simp only [read, bytes, List.append_assoc, reads_byte location.id _,
    readBytes_append padding.2, Coordinate.reads location.coord _, Option.bind_eq_bind,
    Option.bind_some, Option.pure_def]

end Location

/-- The padding of a customer: after the identifier, and before `nextRequest`. -/
structure CustomerPadding where
  id : Sized 3
  flags : Sized 1

namespace Customer

/-- The twenty bytes of a customer. -/
def bytes (customer : Customer) (padding : CustomerPadding) : List UInt8 :=
  [customer.id] ++ (padding.id.1 ++ (customer.coord.bytes ++ ([customer.destination] ++
    (boolBytes customer.onboard ++ (boolBytes customer.inQueue ++ (padding.flags.1 ++
      intBytes customer.nextRequest))))))

/-- Take a customer. -/
def read : Reader Customer := fun input => do
  let (id, input) ← readByte input
  let (_, input) ← readBytes 3 input
  let (coord, input) ← Coordinate.read input
  let (destination, input) ← readByte input
  let (onboard, input) ← readBool input
  let (inQueue, input) ← readBool input
  let (_, input) ← readBytes 1 input
  let (nextRequest, input) ← readInt input
  return (⟨id, coord, destination, onboard, inQueue, nextRequest⟩, input)

theorem reads (customer : Customer) (padding : CustomerPadding) :
    Reads read (customer.bytes padding) customer := by
  intro rest
  simp only [read, bytes, List.append_assoc, reads_byte customer.id _,
    readBytes_append padding.id.2, Coordinate.reads customer.coord _,
    reads_byte customer.destination _, reads_bool customer.onboard _,
    reads_bool customer.inQueue _, readBytes_append padding.flags.2,
    reads_int customer.nextRequest _, Option.bind_eq_bind, Option.bind_some, Option.pure_def]

end Customer

/-- The padding of a taxi: after the identifier, after `customer`, and before `waitTime`. -/
structure TaxiPadding where
  id : Sized 2
  customer : Sized 3
  flags : Sized 1

namespace Taxi

/-- The thirty-two bytes of a taxi. -/
def bytes (taxi : Taxi) (padding : TaxiPadding) : List UInt8 :=
  shortBytes taxi.id ++ (padding.id.1 ++ (taxi.coord.bytes ++ ([taxi.customer] ++
    (padding.customer.1 ++ (taxi.dest.bytes ++ (boolBytes taxi.connected ++ (boolBytes taxi.ready ++
      (boolBytes taxi.stopped ++ (padding.flags.1 ++ intBytes taxi.waitTime)))))))))

/-- Take a taxi. -/
def read : Reader Taxi := fun input => do
  let (id, input) ← readShort input
  let (_, input) ← readBytes 2 input
  let (coord, input) ← Coordinate.read input
  let (customer, input) ← readByte input
  let (_, input) ← readBytes 3 input
  let (dest, input) ← Coordinate.read input
  let (connected, input) ← readBool input
  let (ready, input) ← readBool input
  let (stopped, input) ← readBool input
  let (_, input) ← readBytes 1 input
  let (waitTime, input) ← readInt input
  return (⟨id, coord, customer, dest, connected, ready, stopped, waitTime⟩, input)

theorem reads (taxi : Taxi) (padding : TaxiPadding) : Reads read (taxi.bytes padding) taxi := by
  intro rest
  simp only [read, bytes, List.append_assoc, reads_short taxi.id _, readBytes_append padding.id.2,
    Coordinate.reads taxi.coord _, reads_byte taxi.customer _,
    readBytes_append padding.customer.2, Coordinate.reads taxi.dest _, reads_bool taxi.connected _,
    reads_bool taxi.ready _, reads_bool taxi.stopped _, readBytes_append padding.flags.2,
    reads_int taxi.waitTime _, Option.bind_eq_bind, Option.bind_some, Option.pure_def]

end Taxi

/-! ### Maps -/

/-- The padding of the records of a map, by their places in the lists. -/
structure MapPadding where
  locations : Nat → Sized 3
  customers : Nat → CustomerPadding
  taxis : Nat → TaxiPadding

namespace Map

/-- The default constructor. -/
def new : Map := ⟨[], [], []⟩

/-- A `size_t` holds the sizes of the lists, as it does of every `vector`. -/
structure Fits (map : Map) : Prop where
  locations : map.locations.length < sizeLimit
  customers : map.customers.length < sizeLimit
  taxis : map.taxis.length < sizeLimit

/-- `serialize`. -/
def serialize (map : Map) (padding : MapPadding) : List UInt8 :=
  sizeBytes map.locations.length ++ (sizeBytes map.customers.length ++
    (sizeBytes map.taxis.length ++ (layMany Location.bytes padding.locations map.locations ++
      (layMany Customer.bytes padding.customers map.customers ++
        layMany Taxi.bytes padding.taxis map.taxis))))

/-- `deserialize`: the receiver afterwards and the bytes which were not read. -/
def deserialize (map : Map) (buffer : List UInt8) : Option (Map × List UInt8) := do
  let (locationsSize, buffer) ← readSize buffer
  let (customersSize, buffer) ← readSize buffer
  let (taxisSize, buffer) ← readSize buffer
  let (locations, buffer) ← readMany Location.read locationsSize buffer
  let map := { map with locations := map.locations ++ locations }
  let (customers, buffer) ← readMany Customer.read customersSize buffer
  let map := { map with customers := map.customers ++ customers }
  let (taxis, buffer) ← readMany Taxi.read taxisSize buffer
  return ({ map with taxis := map.taxis ++ taxis }, buffer)

/-- Each list of one map after that of another. -/
def append (map other : Map) : Map where
  locations := map.locations ++ other.locations
  customers := map.customers ++ other.customers
  taxis := map.taxis ++ other.taxis

@[simp] theorem new_append (map : Map) : new.append map = map := rfl

/-- A map is read whole, behind what the receiver held. -/
theorem deserialize_serialize {map : Map} (fits : map.Fits) (padding : MapPadding)
    (receiver : Map) :
    receiver.deserialize (map.serialize padding) = some (receiver.append map, []) := by
  have locations := reads_many Location.reads padding.locations map.locations
  have customers := reads_many Customer.reads padding.customers map.customers
  have taxis := reads_many Taxi.reads padding.taxis map.taxis
  simp only [deserialize, serialize, reads_size fits.locations _, reads_size fits.customers _,
    reads_size fits.taxis _, locations _, customers _, taxis.all, Option.bind_eq_bind,
    Option.bind_some, Option.pure_def, append]

end Map

/-- A new map reads a map back from its bytes, all of which are read, whatever the padding holds. -/
theorem map_round_trip (map : Map) (padding : MapPadding) (fits : map.Fits) :
    Map.new.deserialize (map.serialize padding) = some (map, []) :=
  Map.deserialize_serialize fits padding Map.new

/-- Padding of ones. -/
def filledPadding : MapPadding where
  locations := fun _ => Sized.fill 3 1
  customers := fun _ => ⟨Sized.fill 3 1, Sized.fill 1 1⟩
  taxis := fun _ => ⟨Sized.fill 2 1, Sized.fill 3 1, Sized.fill 1 1⟩

/-- Two locations, no customer and a taxi which goes nowhere. -/
def smallMap : Map where
  locations := [⟨65, ⟨3, 4⟩⟩, ⟨66, ⟨5, 6⟩⟩]
  customers := []
  taxis := [⟨1, ⟨7, 8⟩, 45, ⟨-1, -1⟩, true, false, false, 2⟩]

theorem map_round_trip_small :
    Map.new.deserialize (smallMap.serialize filledPadding) = some (smallMap, []) :=
  map_round_trip smallMap filledPadding ⟨by decide, by decide, by decide⟩

end EasyCab
