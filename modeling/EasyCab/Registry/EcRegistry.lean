import Mathlib.Data.List.Basic
import EasyCab.Library.Bytes
import EasyCab.Library.Numerals

/-!
# The certificate registry

`EC_Registry` keeps one text for each taxi: the digest of the certificate which was registered
last, every byte of it printed in hexadecimal without its leading zero. Digests are compared by
these texts. SHA-256 may be any function to 32 bytes, and the files may change between calls.
-/

namespace EasyCab

open Library

/-- The files which can be read, by their paths. -/
abbrev Disk := String → Option (List UInt8)

/-- `registry_db`. -/
structure EcRegistry where
  registryDb : String → Option Chars

/-- A call of `register_taxi`, with the files as they are then. -/
structure Registration where
  taxiId : String
  certificatePath : String
  disk : Disk

/-- The certificate of a registration. -/
def Registration.certificate? (call : Registration) : Option (List UInt8) :=
  call.disk call.certificatePath

/-- What `hash_stream` holds after the loop over the bytes of a digest. -/
def digestText (digest : Sized 32) : Chars :=
  digest.1.flatMap fun byte => Nat.toDigits 16 byte.toNat

namespace EcRegistry

/-- A registry in which no taxi is registered. -/
def new : EcRegistry := ⟨fun _ => none⟩

section Calls

variable (sha256 : List UInt8 → Sized 32)

/-- `get_certificate_hash`, which is empty when the file cannot be opened. -/
def getCertificateHash (disk : Disk) (certificatePath : String) : Chars :=
  match disk certificatePath with
  | none => []
  | some certData => digestText (sha256 certData)

/-- `register_taxi`. -/
def registerTaxi (call : Registration) (registry : EcRegistry) : Bool × EcRegistry :=
  let certificateHash := getCertificateHash sha256 call.disk call.certificatePath
  if certificateHash.isEmpty then (false, registry)
  else
    (true, ⟨Function.update registry.registryDb call.taxiId (some certificateHash)⟩)

/-- `verify_certificate`. -/
def verifyCertificate (disk : Disk) (taxiId certificatePath : String) (registry : EcRegistry) :
    Bool :=
  match registry.registryDb taxiId with
  | none => false
  | some registered =>
      let certificateHash := getCertificateHash sha256 disk certificatePath
      if certificateHash.isEmpty then false else registered == certificateHash

/-- The registry after some calls of `register_taxi`. -/
def registerAll : List Registration → EcRegistry → EcRegistry
  | [], registry => registry
  | call :: calls, registry => registerAll calls (registerTaxi sha256 call registry).2

end Calls

/-- The certificate of the latest registration of a taxi, among those whose file could be read. -/
def latest (taxiId : String) : List Registration → Option (List UInt8)
  | [] => none
  | call :: calls =>
      (latest taxiId calls).or (if call.taxiId = taxiId then call.certificate? else none)

end EcRegistry

/-! ### Hexadecimal digits -/

/-- The hexadecimal digits of a byte, without a leading zero. -/
def hexDigits (byte : UInt8) : List (Fin 16) :=
  if byte < 16 then [Fin.ofNat 16 byte.toNat]
  else [Fin.ofNat 16 (byte.toNat / 16), Fin.ofNat 16 byte.toNat]

/-- The digits of a digest, one byte after the other. -/
def digestDigits (digest : Sized 32) : List (Fin 16) := digest.1.flatMap hexDigits

/-- The character of a hexadecimal digit. -/
def hexChar (digit : Fin 16) : Char := Nat.digitChar digit.1

theorem hexChar_injective : Function.Injective hexChar := by
  have distinct : ∀ digit other : Fin 16, hexChar digit = hexChar other → digit = other := by
    decide
  exact fun digit other => distinct digit other

theorem toDigits_byte (byte : UInt8) :
    Nat.toDigits 16 byte.toNat = (hexDigits byte).map hexChar := by
  have small := byte.toNat_lt
  unfold hexDigits
  split
  · next single =>
      have single : byte.toNat < 16 := by simpa [UInt8.lt_iff_toNat_lt] using single
      rw [Nat.toDigits_of_lt_base single]
      simp [hexChar, Nat.mod_eq_of_lt single]
  · next double =>
      have double : 16 ≤ byte.toNat := by simpa [UInt8.lt_iff_toNat_lt] using double
      rw [Nat.toDigits_of_base_le (by omega) double, Nat.toDigits_of_lt_base (by omega)]
      simp [hexChar, Nat.mod_eq_of_lt (show byte.toNat / 16 < 16 by omega)]

/-- Two digests have the same text exactly when they have the same digits. -/
theorem digestText_eq_iff (digest other : Sized 32) :
    digestText digest = digestText other ↔ digestDigits digest = digestDigits other := by
  have printed (digest : Sized 32) :
      digestText digest = (digestDigits digest).map hexChar := by
    simp [digestText, digestDigits, toDigits_byte, List.map_flatMap]
  rw [printed, printed]
  exact (List.map_injective_iff.mpr hexChar_injective).eq_iff

/-- Which bytes are printed with one digit. -/
def singleDigits (digest : Sized 32) : List Bool := digest.1.map fun byte => decide (byte < 16)

theorem hexDigits_injective : Function.Injective hexDigits := by
  have value (byte : UInt8) :
      (hexDigits byte).foldl (fun number digit => 16 * number + digit.1) 0 = byte.toNat := by
    have small := byte.toNat_lt
    unfold hexDigits
    split
    · next single =>
        have single : byte.toNat < 16 := by simpa [UInt8.lt_iff_toNat_lt] using single
        simp [Nat.mod_eq_of_lt single]
    · simp only [List.foldl_cons, List.foldl_nil, Fin.ofNat]
      omega
  intro byte other same
  rw [← UInt8.toNat_inj, ← value, ← value, same]

theorem hexDigits_length (byte : UInt8) : (hexDigits byte).length = if byte < 16 then 1 else 2 := by
  unfold hexDigits
  split <;> rfl

/-- Bytes can be told from their digits when it is known which of them have a single digit. -/
theorem bytes_eq_of_digits {bytes others : List UInt8}
    (sameDigits : bytes.flatMap hexDigits = others.flatMap hexDigits)
    (sameSingles : (bytes.map fun byte => decide (byte < 16)) =
      others.map fun byte => decide (byte < 16)) : bytes = others := by
  induction bytes generalizing others with
  | nil => exact (List.map_eq_nil_iff.mp sameSingles.symm).symm
  | cons byte bytes inductionHypothesis =>
      cases others with
      | nil => simp at sameSingles
      | cons other others =>
          simp only [List.map_cons, List.cons.injEq, decide_eq_decide] at sameSingles
          simp only [List.flatMap_cons] at sameDigits
          have sameLength : (hexDigits byte).length = (hexDigits other).length := by
            simp only [hexDigits_length, sameSingles.1]
          obtain ⟨first, rest⟩ := List.append_inj sameDigits sameLength
          rw [hexDigits_injective first, inductionHypothesis rest sameSingles.2]

/-- Digests with the same digits are equal exactly when the same bytes have a single digit. -/
theorem digest_eq_iff_of_digits {digest other : Sized 32}
    (sameDigits : digestDigits digest = digestDigits other) :
    digest = other ↔ singleDigits digest = singleDigits other := by
  constructor
  · rintro rfl
    rfl
  · exact fun sameSingles => Subtype.ext (bytes_eq_of_digits sameDigits sameSingles)

/-- A digest leaves some text. -/
theorem digestText_ne_nil (digest : Sized 32) : digestText digest ≠ [] := by
  obtain ⟨bytes, size⟩ := digest
  cases bytes with
  | nil => cases size
  | cons byte bytes =>
      simp only [digestText, List.flatMap_cons, ne_eq, List.append_eq_nil_iff,
        Nat.toDigits_ne_nil, false_and, not_false_eq_true]

/-! ### What a registry verifies -/

namespace EcRegistry

section Verify

variable {sha256 : List UInt8 → Sized 32}

/-- A file which can be read has the text of its digest. -/
theorem getCertificateHash_of_read {disk : Disk} {certificatePath : String}
    {certificate : List UInt8} (read : disk certificatePath = some certificate) :
    getCertificateHash sha256 disk certificatePath = digestText (sha256 certificate) := by
  rw [getCertificateHash, read]

/-- A registration stores the text of its certificate, if the certificate can be read. -/
theorem registryDb_registerTaxi (call : Registration) (registry : EcRegistry) (taxiId : String) :
    (registerTaxi sha256 call registry).2.registryDb taxiId =
      ((if call.taxiId = taxiId then call.certificate? else none).map
        fun certificate => digestText (sha256 certificate)).or (registry.registryDb taxiId) := by
  cases read : call.disk call.certificatePath with
  | none =>
      have text : getCertificateHash sha256 call.disk call.certificatePath = [] := by
        rw [getCertificateHash, read]
      simp [registerTaxi, text, Registration.certificate?, read]
  | some certificate =>
      have text := @getCertificateHash_of_read sha256 _ _ _ read
      by_cases same : call.taxiId = taxiId
      · simp [registerTaxi, text, digestText_ne_nil, Registration.certificate?, read, same]
      · simp [registerTaxi, text, digestText_ne_nil, same, Function.update_of_ne (Ne.symm same)]

/-- After any calls the registry has the text of the latest registration of each taxi. -/
theorem registryDb_registerAll (calls : List Registration) (registry : EcRegistry)
    (taxiId : String) :
    (registerAll sha256 calls registry).registryDb taxiId =
      ((latest taxiId calls).map fun certificate => digestText (sha256 certificate)).or
        (registry.registryDb taxiId) := by
  induction calls generalizing registry with
  | nil => rfl
  | cons call calls inductionHypothesis =>
      rw [registerAll, inductionHypothesis, registryDb_registerTaxi, latest, ← Option.or_assoc]
      cases latest taxiId calls <;> simp

/-- A certificate is verified when its text is that of the latest registration. -/
theorem verifyCertificate_registerAll (calls : List Registration) (disk : Disk)
    (taxiId certificatePath : String) :
    verifyCertificate sha256 disk taxiId certificatePath (registerAll sha256 calls .new) = true ↔
      ∃ certificate registered, disk certificatePath = some certificate ∧
        latest taxiId calls = some registered ∧
        digestDigits (sha256 registered) = digestDigits (sha256 certificate) := by
  have stored : (registerAll sha256 calls .new).registryDb taxiId =
      (latest taxiId calls).map fun certificate => digestText (sha256 certificate) := by
    rw [registryDb_registerAll]
    exact Option.or_none
  rw [verifyCertificate, stored]
  cases registration : latest taxiId calls with
  | none => simp
  | some registered =>
      cases read : disk certificatePath with
      | none => simp [getCertificateHash, read]
      | some certificate =>
          simp [@getCertificateHash_of_read sha256 _ _ _ read, digestText_ne_nil,
            digestText_eq_iff]

end Verify

end EcRegistry

/-- A registry verifies a certificate exactly when its digest is the registered one, unless the
two digests have the same hexadecimal digits although they have their single-digit bytes in
different places. -/
theorem verify_certificate_by_digest_iff (sha256 : List UInt8 → Sized 32)
    (calls : List Registration) (disk : Disk) (taxiId certificatePath : String) :
    (EcRegistry.verifyCertificate sha256 disk taxiId certificatePath
        (EcRegistry.registerAll sha256 calls .new) = true ↔
      ∃ certificate registered, disk certificatePath = some certificate ∧
        EcRegistry.latest taxiId calls = some registered ∧
        sha256 certificate = sha256 registered) ↔
    ¬ ∃ certificate registered, disk certificatePath = some certificate ∧
      EcRegistry.latest taxiId calls = some registered ∧
      digestDigits (sha256 certificate) = digestDigits (sha256 registered) ∧
      singleDigits (sha256 certificate) ≠ singleDigits (sha256 registered) := by
  rw [EcRegistry.verifyCertificate_registerAll]
  constructor
  · rintro agree ⟨certificate, registered, read, registration, sameDigits, differ⟩
    obtain ⟨other, otherRegistered, readOther, registrationOther, same⟩ :=
      agree.mp ⟨certificate, registered, read, registration, sameDigits.symm⟩
    rw [read] at readOther
    rw [registration] at registrationOther
    cases readOther
    cases registrationOther
    exact differ (by rw [same])
  · intro distinct
    constructor
    · rintro ⟨certificate, registered, read, registration, sameDigits⟩
      refine ⟨certificate, registered, read, registration, ?_⟩
      rw [digest_eq_iff_of_digits sameDigits.symm]
      by_contra differ
      exact distinct ⟨certificate, registered, read, registration, sameDigits.symm, differ⟩
    · rintro ⟨certificate, registered, read, registration, same⟩
      exact ⟨certificate, registered, read, registration, by rw [same]⟩

/-- A digest which is `01 10` before its zeros for the empty file, and `11 00` for others. -/
def shiftedDigest (content : List UInt8) : Sized 32 :=
  if content.isEmpty then ⟨1 :: 16 :: List.replicate 30 0, by decide⟩
  else ⟨17 :: 0 :: List.replicate 30 0, by decide⟩

/-- Two certificates, of which the first is empty. -/
def twoCertificates : Disk := fun path =>
  if path = "taxi_12345_cert.pem" then some []
  else if path = "other.pem" then some [0]
  else none

theorem other_certificate_verified :
    ¬ (EcRegistry.verifyCertificate shiftedDigest twoCertificates "12345" "other.pem"
        (EcRegistry.registerAll shiftedDigest
          [⟨"12345", "taxi_12345_cert.pem", twoCertificates⟩] .new) = true ↔
      ∃ certificate registered, twoCertificates "other.pem" = some certificate ∧
        EcRegistry.latest "12345" [⟨"12345", "taxi_12345_cert.pem", twoCertificates⟩] =
          some registered ∧ shiftedDigest certificate = shiftedDigest registered) ∧
      ¬ Function.Injective digestText := by
  have same : digestText (shiftedDigest [0]) = digestText (shiftedDigest []) := by decide
  have differ : shiftedDigest [0] ≠ shiftedDigest [] := by decide
  constructor
  · intro agree
    obtain ⟨certificate, registered, read, registration, equal⟩ := agree.mp (by decide)
    have other : twoCertificates "other.pem" = some [0] := by decide
    have first : EcRegistry.latest "12345" [⟨"12345", "taxi_12345_cert.pem", twoCertificates⟩] =
        some [] := by decide
    rw [other] at read
    rw [first] at registration
    cases read
    cases registration
    exact differ equal
  · exact fun injective => differ (injective same)

end EasyCab
