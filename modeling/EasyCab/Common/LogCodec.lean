import EasyCab.Common.Logs

/-!
# The bytes of a log record

`serialize` writes both lengths before both texts, and `deserialize` overwrites every field of
its receiver. Lengths are written as `size_t` but copied as `int`, so the texts are those whose
length an `int` holds; a length which it does not hold makes the `resize` of `deserialize` fail.
-/

namespace EasyCab

open Library

/-- No length from here on is one which an `int` holds. -/
def textLimit : Nat := 2 ^ 31

/-- A string whose length an `int` holds. -/
abbrev Text := {bytes : List UInt8 // bytes.length < textLimit}

/-- `prot::Log`. -/
structure Log where
  printBottom : Bool
  timestamp : Text
  code : LogType
  message : Text
deriving DecidableEq

/-- `extract` into a string: the length becomes an `int`, which `resize` refuses when it is
negative. -/
def readText (length : Nat) : Reader Text := fun input =>
  let count := Int32.ofNat length
  if count.toInt < 0 then none
  else readAs count.toNatClampNeg
    (fun bytes => ⟨bytes.1, by rw [bytes.2]; exact count.toNatClampNeg_lt⟩) input

/-- A text is taken back from its bytes. -/
theorem reads_text (text : Text) : Reads (readText text.1.length) text.1 text := by
  intro rest
  have count : (Int32.ofNat text.1.length).toInt = text.1.length := Int32.toInt_ofNat_of_lt text.2
  have size : text.1.length = (Int32.ofNat text.1.length).toNatClampNeg :=
    (Int32.toNatClampNeg_ofNat_of_lt text.2).symm
  rw [readText, if_neg (by omega), reads_as size]

namespace Log

/-- `serialize`. -/
def serialize (log : Log) : List UInt8 :=
  boolBytes log.printBottom ++ (intBytes log.code.toInt ++ (sizeBytes log.timestamp.1.length ++
    (sizeBytes log.message.1.length ++ (log.timestamp.1 ++ log.message.1))))

/-- `deserialize`: the receiver afterwards and the bytes which were not read. -/
def deserialize (log : Log) (buffer : List UInt8) : Option (Log × List UInt8) := do
  let (printBottom, buffer) ← readBool buffer
  let log := { log with printBottom := printBottom }
  let (code, buffer) ← readInt buffer
  let log := { log with code := .fromInt code }
  let (timestampLength, buffer) ← readSize buffer
  let (messageLength, buffer) ← readSize buffer
  let (timestamp, buffer) ← readText timestampLength buffer
  let log := { log with timestamp := timestamp }
  let (message, buffer) ← readText messageLength buffer
  return ({ log with message := message }, buffer)

/-- A record with a declared code is read back whole by any receiver. -/
theorem deserialize_serialize {log : Log} (declared : log.code.Declared) (receiver : Log) :
    receiver.deserialize log.serialize = some (log, []) := by
  have limit : textLimit ≤ sizeLimit := by decide
  have timestampSize := reads_size (Nat.lt_of_lt_of_le log.timestamp.2 limit)
  have messageSize := reads_size (Nat.lt_of_lt_of_le log.message.2 limit)
  simp only [deserialize, serialize, reads_bool log.printBottom _, reads_int log.code.toInt _,
    timestampSize _, messageSize _, reads_text log.timestamp _, (reads_text log.message).all,
    LogType.fromInt_toInt declared, Option.bind_eq_bind, Option.bind_some, Option.pure_def]

end Log

/-- A log record with a declared code is read back from its bytes, all of which are read, its code
is found again from its number, and no other such record has the same bytes. -/
theorem log_round_trip (log : Log) (declared : log.code.Declared) :
    (∀ receiver : Log, receiver.deserialize log.serialize = some (log, [])) ∧
      LogType.fromInt log.code.toInt = log.code ∧
      ∀ other : Log, other.code.Declared → other.serialize = log.serialize → other = log := by
  refine ⟨Log.deserialize_serialize declared, LogType.fromInt_toInt declared, ?_⟩
  intro other listed same
  have read := Log.deserialize_serialize declared log
  rw [← same, Log.deserialize_serialize listed log] at read
  cases read
  rfl

/-- A warning of an empty time whose text has a null character. -/
def warningLog : Log where
  printBottom := true
  timestamp := ⟨[], by decide⟩
  code := .warning .query
  message := ⟨[0, 65], by decide⟩

theorem log_round_trip_warning :
    warningLog.deserialize warningLog.serialize = some (warningLog, []) :=
  (log_round_trip warningLog (by decide)).1 warningLog

end EasyCab
