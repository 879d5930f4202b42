import EasyCab.Library.Readers

/-!
# The codes of log records

`Logs.h`: a code is a variant of three enumerations, which `toInt` flattens to one `int` by
ranges of a hundred and `fromInt` takes apart again. As with the subjects of a message, a value
of the underlying `int` which is no enumerator is an `unlisted` one.
-/

namespace EasyCab

open Library

/-- `code_logs::MESSAGE`, in declaration order. -/
inductive LogMessage where
  | undefined
  | debug
  | newTaxi
  | taxiReconnected
  | taxiDisconnect
  | taxiMove
  | taxiGoTo
  | taxiContinue
  | taxiStop
  | taxiReady
  | taxiNotReady
  | loadedLocFile
  | sessionInitialized
  | reconnectedToSession
  | listening
  | connectionAccepted
  | connectionClosed
  | newCustomer
  | customerDisconnect
  | customerPriority
  | customerPickedUp
  | serviceCompleted
  | serviceRequest
  | locationMove
  | unlisted (code : UInt32) (undeclared : 24 ≤ code.toNat)
deriving DecidableEq

/-- `code_logs::WARNING`, in declaration order. -/
inductive LogWarning where
  | undefined
  | settingTimeout
  | badReading
  | timeout
  | invalidSubject
  | query
  | shouldNotHappen
  | unlisted (code : UInt32) (undeclared : 7 ≤ code.toNat)
deriving DecidableEq

/-- `code_logs::ERROR`, in declaration order. -/
inductive LogError where
  | undefined
  | creatingProcess
  | database
  | locationsFileNotProvided
  | openingFile
  | session
  | sessionNotFound
  | settingSocket
  | unlisted (code : UInt32) (undeclared : 8 ≤ code.toNat)
deriving DecidableEq

/-- The declared enumerators of `MESSAGE`, in order. -/
def LogMessage.declared : List LogMessage :=
  [.undefined, .debug, .newTaxi, .taxiReconnected, .taxiDisconnect, .taxiMove, .taxiGoTo,
    .taxiContinue, .taxiStop, .taxiReady, .taxiNotReady, .loadedLocFile, .sessionInitialized,
    .reconnectedToSession, .listening, .connectionAccepted, .connectionClosed, .newCustomer,
    .customerDisconnect, .customerPriority, .customerPickedUp, .serviceCompleted, .serviceRequest,
    .locationMove]

/-- `static_cast<int>` of a value of `MESSAGE`. -/
def LogMessage.code : LogMessage → Int32
  | .unlisted code _ => code.toInt32
  | message => Int32.ofNat (declared.idxOf message)

/-- `static_cast<MESSAGE>` of an `int`. -/
def LogMessage.ofCode (code : Int32) : LogMessage :=
  if listed : code.toUInt32.toNat < 24 then declared.get ⟨code.toUInt32.toNat, listed⟩
  else .unlisted code.toUInt32 (by omega)

/-- The declared enumerators of `WARNING`, in order. -/
def LogWarning.declared : List LogWarning :=
  [.undefined, .settingTimeout, .badReading, .timeout, .invalidSubject, .query, .shouldNotHappen]

/-- `static_cast<int>` of a value of `WARNING`. -/
def LogWarning.code : LogWarning → Int32
  | .unlisted code _ => code.toInt32
  | warning => Int32.ofNat (declared.idxOf warning)

/-- `static_cast<WARNING>` of an `int`. -/
def LogWarning.ofCode (code : Int32) : LogWarning :=
  if listed : code.toUInt32.toNat < 7 then declared.get ⟨code.toUInt32.toNat, listed⟩
  else .unlisted code.toUInt32 (by omega)

/-- The declared enumerators of `ERROR`, in order. -/
def LogError.declared : List LogError :=
  [.undefined, .creatingProcess, .database, .locationsFileNotProvided, .openingFile, .session,
    .sessionNotFound, .settingSocket]

/-- `static_cast<int>` of a value of `ERROR`. -/
def LogError.code : LogError → Int32
  | .unlisted code _ => code.toInt32
  | error => Int32.ofNat (declared.idxOf error)

/-- `static_cast<ERROR>` of an `int`. -/
def LogError.ofCode (code : Int32) : LogError :=
  if listed : code.toUInt32.toNat < 8 then declared.get ⟨code.toUInt32.toNat, listed⟩
  else .unlisted code.toUInt32 (by omega)

/-- `LogType`, the variant of the three enumerations. -/
inductive LogType where
  | message (code : LogMessage)
  | error (code : LogError)
  | warning (code : LogWarning)
deriving DecidableEq

namespace LogType

/-- `toInt`. -/
def toInt : LogType → Int32
  | .message code => code.code
  | .warning code => 100 + code.code
  | .error code => 200 + code.code

/-- `fromInt`. -/
def fromInt (code : Int32) : LogType :=
  if code < 100 then .message (.ofCode code)
  else if code < 200 then .warning (.ofCode (code - 100))
  else .error (.ofCode (code - 200))

/-- The code is an enumerator of its enumeration. -/
def Declared : LogType → Prop
  | .message code => code ∈ LogMessage.declared
  | .warning code => code ∈ LogWarning.declared
  | .error code => code ∈ LogError.declared

instance (code : LogType) : Decidable code.Declared := by
  cases code <;> exact List.instDecidableMemOfLawfulBEq _ _

/-- A declared code is found again from its number. -/
theorem fromInt_toInt {code : LogType} (declared : code.Declared) : fromInt code.toInt = code := by
  have messages : ∀ code ∈ LogMessage.declared, fromInt (toInt (.message code)) = .message code := by
    decide
  have warnings : ∀ code ∈ LogWarning.declared, fromInt (toInt (.warning code)) = .warning code := by
    decide
  have errors : ∀ code ∈ LogError.declared, fromInt (toInt (.error code)) = .error code := by
    decide
  cases code with
  | message code => exact messages code declared
  | warning code => exact warnings code declared
  | error code => exact errors code declared

end LogType

end EasyCab
