import EasyCab.Common.LogCodec
import EasyCab.Common.MapCodec

/-!
# Decoding into an object which was used before

`ISerializable::deserialize` is called on an object and not all three types forget what the object
held. A `Log` and a `Message` assign every field; a `Map` adds records to its lists and never
clears them. `decoding_replaces_iff` says what is left of the old contents.
-/

namespace EasyCab

open Library

/-- A type of `ISerializable`: its `deserialize`, which answers the receiver afterwards and the
bytes that were not read, and the buffers of a value. -/
structure ISerializable (Value : Type) where
  deserialize : Value → List UInt8 → Option (Value × List UInt8)
  Encodes : Value → List UInt8 → Prop

namespace ISerializable

variable {Value : Type} (type : ISerializable Value)

/-- Both receivers are left equal. -/
def Replaces (buffer : List UInt8) (left right : Value) : Prop :=
  ∃ value rest, type.deserialize left buffer = some (value, rest) ∧
    type.deserialize right buffer = some (value, rest)

/-- Values which are decoded into one object, each from its buffer: after each of them the object
equals that value. -/
def LeavesLast : Value → List (Value × List UInt8) → Prop
  | _, [] => True
  | receiver, (value, buffer) :: rest =>
      (∃ unread, type.deserialize receiver buffer = some (value, unread)) ∧
        LeavesLast value rest

variable {type} {sent : List (Value × List UInt8)}

/-- Every receiver is left with the value whose buffer it reads. -/
def Forgets (type : ISerializable Value) : Prop :=
  ∀ ⦃value buffer⦄, type.Encodes value buffer →
    ∃ unread, ∀ receiver, type.deserialize receiver buffer = some (value, unread)

/-- Receivers of a type which forgets are left equal. -/
theorem Forgets.replaces (forgets : type.Forgets) {value : Value} {buffer : List UInt8}
    (encoded : type.Encodes value buffer) (left right : Value) :
    type.Replaces buffer left right := by
  obtain ⟨unread, reads⟩ := forgets encoded
  exact ⟨value, unread, reads left, reads right⟩

/-- An object of a type which forgets holds the last value which was decoded into it. -/
theorem Forgets.leavesLast (forgets : type.Forgets) {sent : List (Value × List UInt8)}
    (encoded : ∀ pair ∈ sent, type.Encodes pair.1 pair.2) (receiver : Value) :
    type.LeavesLast receiver sent := by
  induction sent generalizing receiver with
  | nil => trivial
  | cons pair rest inductionHypothesis =>
      rw [List.forall_mem_cons] at encoded
      obtain ⟨unread, reads⟩ := forgets encoded.1
      exact ⟨⟨unread, reads receiver⟩, inductionHypothesis encoded.2 pair.1⟩

end ISerializable

/-! ### Log records -/

/-- `Log`; its buffers are those of a record with a declared code. -/
def Log.serializable : ISerializable Log where
  deserialize := deserialize
  Encodes := fun log buffer => log.code.Declared ∧ buffer = log.serialize

theorem Log.forgets : serializable.Forgets := by
  rintro log _ ⟨declared, rfl⟩
  exact ⟨[], deserialize_serialize declared⟩

/-! ### Messages -/

namespace Message

/-- `deserialize` as it assigns the fields of its receiver one after the other. -/
def deserializeInto (message : Message) (buffer : List UInt8) : Option (Message × List UInt8) := do
  let (subject, buffer) ← readBytes 8 buffer
  let subject ← Subject.ofBytes? subject
  let message := { message with subject := subject }
  let (id, buffer) ← readBytes 1 buffer
  let message := { message with id := id.1.headD 0 }
  let (taxiId, buffer) ← readBytes 2 buffer
  let message := { message with taxiId := (UInt16.ofNat (ofLittleEndian taxiId.1)).toInt16 }
  let (coord, buffer) ← readBytes 8 buffer
  let message := { message with coord := Coordinate.ofBytes coord }
  let (session, buffer) ← readBytes uuidLength buffer
  let message := { message with session := session.1 }
  let (data, buffer) ← readBytes maxDataSize buffer
  return ({ message with data := data }, buffer)

/-- Nothing of the receiver is left. -/
theorem deserializeInto_receiver (left right : Message) (buffer : List UInt8) :
    left.deserializeInto buffer = right.deserializeInto buffer := rfl

/-- What a receiver holds afterwards is the message which `deserialize` makes of the buffer. -/
theorem exists_deserializeInto_iff {receiver message : Message} {buffer : List UInt8} :
    (∃ unread, receiver.deserializeInto buffer = some (message, unread)) ↔
      deserialize buffer = some message := by
  simp only [deserializeInto, deserialize, Option.bind_eq_bind, Option.bind_eq_some_iff,
    Option.pure_def, Option.some.injEq, Prod.exists, Prod.mk.injEq]
  constructor
  · rintro ⟨_, subject, second, readSubject, told, held, id, third, readId, taxiId, fourth,
      readTaxiId, coord, fifth, readCoord, session, sixth, readSession, data, rest, readData, rfl, _⟩
    exact ⟨subject, second, readSubject, id, third, readId, taxiId, fourth, readTaxiId, coord, fifth,
      readCoord, session, sixth, readSession, data, rest, readData, told, held, rfl⟩
  · rintro ⟨subject, second, readSubject, id, third, readId, taxiId, fourth, readTaxiId, coord, fifth,
      readCoord, session, sixth, readSession, data, rest, readData, told, held, rfl⟩
    exact ⟨rest, subject, second, readSubject, told, held, id, third, readId, taxiId, fourth,
      readTaxiId, coord, fifth, readCoord, session, sixth, readSession, data, rest, readData, rfl, rfl⟩

/-- `Message`; its buffers are those of the size of a full message whose variant holds an
alternative. -/
def serializable : ISerializable Message where
  deserialize := deserializeInto
  Encodes := fun message bytes =>
    ∃ buffer : Buffer, bytes = buffer.bytes.1 ∧ deserialize bytes = some message

theorem forgets : serializable.Forgets := by
  rintro message bytes ⟨buffer, rfl, read⟩
  obtain ⟨unread, first⟩ := exists_deserializeInto_iff.mpr read
  exact ⟨unread, fun receiver => (deserializeInto_receiver receiver message _).trans first⟩

end Message

/-! ### Maps -/

namespace Map

/-- `Map`; its buffers are those of a map, whatever the padding holds. -/
def serializable : ISerializable Map where
  deserialize := deserialize
  Encodes := fun map buffer => map.Fits ∧ ∃ padding, buffer = map.serialize padding

variable {map receiver left right : Map} {buffer : List UInt8}

theorem append_left_inj : left.append map = right.append map ↔ left = right := by
  obtain ⟨leftLocations, leftCustomers, leftTaxis⟩ := left
  obtain ⟨rightLocations, rightCustomers, rightTaxis⟩ := right
  simp [append]

theorem append_eq_self_iff : receiver.append map = map ↔ receiver = new := by
  have same := @append_left_inj map receiver new
  rwa [new_append] at same

/-- What a receiver held stands before what it reads. -/
theorem deserialize_encoded (encoded : serializable.Encodes map buffer) (receiver : Map) :
    serializable.deserialize receiver buffer = some (receiver.append map, []) := by
  obtain ⟨fits, padding, rfl⟩ := encoded
  exact deserialize_serialize fits padding receiver

/-- Receivers are left equal exactly when they were equal. -/
theorem replaces_iff (encoded : serializable.Encodes map buffer) :
    serializable.Replaces buffer left right ↔ left = right := by
  have readLeft := deserialize_encoded encoded left
  have readRight := deserialize_encoded encoded right
  constructor
  · rintro ⟨value, rest, leftRead, rightRead⟩
    rw [readLeft] at leftRead
    rw [readRight] at rightRead
    cases leftRead
    exact (append_left_inj.mp (Prod.ext_iff.mp (Option.some.inj rightRead)).1).symm
  · rintro rfl
    exact ⟨_, _, readLeft, readLeft⟩

/-- An object holds the last map exactly when it was new and the maps before the last are empty. -/
theorem leavesLast_iff {sent : List (Map × List UInt8)}
    (encoded : ∀ pair ∈ sent, serializable.Encodes pair.1 pair.2) :
    serializable.LeavesLast receiver sent ↔
      sent = [] ∨ (receiver = new ∧ ∀ map ∈ (sent.map Prod.fst).dropLast, map = new) := by
  induction sent generalizing receiver with
  | nil => simp [ISerializable.LeavesLast]
  | cons pair rest inductionHypothesis =>
      rw [List.forall_mem_cons] at encoded
      have first : (∃ unread, serializable.deserialize receiver pair.2 = some (pair.1, unread)) ↔
          receiver = new := by
        rw [deserialize_encoded encoded.1, ← @append_eq_self_iff pair.1 receiver]
        simp
      rw [ISerializable.LeavesLast, first, inductionHypothesis encoded.2]
      cases rest with
      | nil => simp
      | cons next rest => simp

end Map

/-! ### The three types -/

/-- The types which implement `ISerializable`. -/
inductive Serializable where
  | log
  | map
  | message

namespace Serializable

/-- The values of a type. -/
abbrev Value : Serializable → Type
  | .log => Log
  | .map => Map
  | .message => Message

/-- The type with its `deserialize` and its buffers. -/
def type : (kind : Serializable) → ISerializable kind.Value
  | .log => Log.serializable
  | .map => Map.serializable
  | .message => Message.serializable

/-- What is to be true of two receivers that they be left equal: maps keep what they hold. -/
def Agree : (kind : Serializable) → kind.Value → kind.Value → Prop
  | .log, _, _ => True
  | .map, left, right => left = right
  | .message, _, _ => True

/-- What is to be true of a receiver and the values which are decoded into it that it hold the last
one after each: a map was new, and so were the maps before the last. -/
def Fresh : (kind : Serializable) → kind.Value → List kind.Value → Prop
  | .log, _, _ => True
  | .map, receiver, maps => maps = [] ∨ (receiver = .new ∧ ∀ map ∈ maps.dropLast, map = .new)
  | .message, _, _ => True

end Serializable

/-- Receivers of a `Log` or a `Message` are left equal and hold the last one decoded into them.
Receivers of a `Map` are left equal exactly when they were, and hold the last one decoded into them
exactly when they were new and the maps before the last are empty. -/
theorem decoding_replaces_iff (kind : Serializable) :
    (∀ (value left right : kind.Value) (buffer : List UInt8), kind.type.Encodes value buffer →
      (kind.type.Replaces buffer left right ↔ kind.Agree left right)) ∧
    ∀ (receiver : kind.Value) (sent : List (kind.Value × List UInt8)),
      (∀ pair ∈ sent, kind.type.Encodes pair.1 pair.2) →
        (kind.type.LeavesLast receiver sent ↔ kind.Fresh receiver (sent.map Prod.fst)) := by
  cases kind with
  | log =>
      refine ⟨fun _ left right _ encoded => ?_, fun receiver _ encoded => ?_⟩
      · exact iff_of_true (Log.forgets.replaces encoded left right) trivial
      · exact iff_of_true (Log.forgets.leavesLast encoded receiver) trivial
  | map =>
      refine ⟨fun _ _ _ _ encoded => Map.replaces_iff encoded, fun _ _ encoded => ?_⟩
      refine (Map.leavesLast_iff encoded).trans (or_congr_left ?_)
      exact List.map_eq_nil_iff.symm
  | message =>
      refine ⟨fun _ left right _ encoded => ?_, fun receiver _ encoded => ?_⟩
      · exact iff_of_true (Message.forgets.replaces encoded left right) trivial
      · exact iff_of_true (Message.forgets.leavesLast encoded receiver) trivial

/-- A map which was filled before is not replaced by the next one. -/
theorem map_keeps_old_records :
    ¬ ∀ (kind : Serializable) (value left right : kind.Value) (buffer : List UInt8),
      kind.type.Encodes value buffer → kind.type.Replaces buffer left right := by
  intro claimed
  have encoded : Map.serializable.Encodes smallMap (smallMap.serialize filledPadding) :=
    ⟨⟨by decide, by decide, by decide⟩, filledPadding, rfl⟩
  have same := (Map.replaces_iff encoded).mp (claimed .map smallMap .new smallMap _ encoded)
  revert same
  decide

end EasyCab
