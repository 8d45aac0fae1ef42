/-
# Recourse on a signed result

A result that says conflict opens recourse, once.  The clock is bound first: an object that
fixes when the recourse began and when the time to cure ends.  The record follows.  A call that
finds the clock bound does not look at its own clock.

The clock binding and the record are modelled as they are decoded.
-/

import Mordant.GovernedFhe.Decryptor
import Mordant.GovernedFhe.Protection

namespace Mordant.GovernedFhe

open Evm Foundation
open Coalition (Digest)

/-! ## What is stored -/

def recourseClockSchema : String := "mordant.fhe-recourse-clock-binding/1"
def recourseRecordSchema : String := "mordant.fhe-recourse-adapter-record/1"

/-- A day, in seconds. -/
def curePeriod : ℤ := 24 * 60 * 60

structure RecourseClockBinding where
  schemaVersion : String
  caseID : Digest
  caseBindingDigest : Digest
  resultDigest : Digest
  protectionDigest : Digest
  recordDateUnix : ℤ
  holderAllocationDigest : Digest
  boundAtUnix : ℤ
  cureDeadlineUnix : ℤ
  deriving DecidableEq

structure RecourseRecord where
  schemaVersion : String
  caseID : Digest
  caseBindingDigest : Digest
  assetIdentity : Digest
  policyID : Digest
  policyVersion : BitVec 32
  resultDigest : Digest
  releaseMode : String
  releaseAuthorityID : Digest
  recordDateUnix : ℤ
  boundAtUnix : ℤ
  cureDeadlineUnix : ℤ
  reserveBasisPoints : BitVec 32
  holderAllocationDigest : Digest
  originalReceivableIntact : Bool
  isOpen : Bool
  deriving DecidableEq

/-- What an object of a record root holds. -/
inductive RecourseValue
  | bytes (data : Bytes)
  | clock (binding : RecourseClockBinding)
  | record (record : RecourseRecord)
  deriving DecidableEq

abbrev RecourseTask (α : Type) : Type :=
  Program (ArchiveOp PublicObject RecourseValue Empty) ArchiveOp.Answer Thrown α

/-- The documents of a record root, as they are seen. -/
def documentsOf (seen : Objects PublicObject RecourseValue) (object : PublicObject) :
    Option Bytes :=
  match seen object with
  | some (.bytes data) => some data
  | _ => none

/-- `readJSON`, of the clock binding. -/
def readClock (seen : Objects PublicObject RecourseValue) : Except Thrown RecourseClockBinding :=
  match seen .recourseClock with
  | some (.clock clock) => .ok clock
  | _ => .error (thrown .recourse)

/-- `readJSON`, of the record. -/
def readRecord (seen : Objects PublicObject RecourseValue) : Except Thrown RecourseRecord :=
  match seen .recourseRecord with
  | some (.record record) => .ok record
  | _ => .error (thrown .recourse)

/-! ## What is asked for -/

structure TrustedRecoursePins where
  participantArtifactDigestA : Digest
  participantArtifactDigestB : Digest
  evaluatedArtifactDigest : Digest
  recomputedResultCiphertextDigest : Digest
  resultCiphertextCommitment : Digest
  decryptorProvenance : Digest
  releaseMode : String
  releaseAuthorityID : Digest
  deriving DecidableEq

/-- The arguments of `adaptSignedResultToRecourse`; the clock is what it reads, in whole
seconds. -/
structure AdapterCall where
  caseManifest : FHECaseManifest
  expectedPins : TrustedRecoursePins
  signedResult : Bytes
  clock : ℤ

/-- What is adapted: the binding of a case, its result, and what protects the case. -/
structure RecourseTerms where
  binding : FHECaseBinding
  result : GovernedConflictResult
  authorization : ProtectionAuthorization

section

variable (library : Library) (parseTime : String → Option ℤ)

/-! ## The checks of a result -/

def verifyRecourseCaseManifest (manifest : FHECaseManifest) : Except Thrown FHECaseBinding := do
  revertIf (manifest.schemaVersion ≠ caseManifestSchema ∨
      passes (manifest.binding.validate library) = false ∨
      passes (validateCryptoManifest library manifest.binding manifest.crypto) = false ∨
      passes (verifyBindingSignature library manifest.binding manifest.signatureA
        manifest.binding.participantA) = false ∨
      passes (verifyBindingSignature library manifest.binding manifest.signatureB
        manifest.binding.participantB) = false)
    (thrown .recourse)
  pure manifest.binding

/-- The pins name everything, and the authority of the case. -/
def TrustedRecoursePins.validate (pins : TrustedRecoursePins) (binding : FHECaseBinding) :
    Except Thrown Unit :=
  revertIf (knownReleaseMode pins.releaseMode = false ∨ pins.participantArtifactDigestA = 0 ∨
      pins.participantArtifactDigestB = 0 ∨ pins.evaluatedArtifactDigest = 0 ∨
      pins.recomputedResultCiphertextDigest = 0 ∨ pins.resultCiphertextCommitment = 0 ∨
      pins.decryptorProvenance = 0 ∨ pins.releaseAuthorityID = 0 ∨
      pins.releaseMode ≠ binding.releaseMode ∨
      pins.releaseAuthorityID ≠ binding.releaseAuthorityID)
    (thrown .recourse)

def verifyRecourseResultEnvelope (result : GovernedConflictResult) : Except Thrown Unit := do
  let fingerprint ← require (thrown .recourse) library.parameterFingerprint
  revertIf (result.schemaVersion ≠ governedResultSchema ∨ result.serviceID ≠ serviceID ∨
      result.serviceVersion ≠ serviceVersion ∨ result.policyVersion ≠ Coalition.policyVersion ∨
      result.circuitID ≠ circuitID ∨ result.circuitVersion ≠ Coalition.circuitV5Version ∨
      result.circuitDigest ≠ library.fixedCircuitDigest ∨
      result.parameterProfile ≠ parameterProfile ∨ result.parameterFingerprint ≠ fingerprint ∨
      result.participantArtifactDigests.length ≠ 2 ∨ 0 ∈ result.participantArtifactDigests ∨
      result.caseID = 0 ∨ result.caseBindingDigest = 0 ∨ result.assetIdentity = 0 ∨
      result.policyID = 0 ∨ result.resultCiphertextDigest = 0 ∨
      result.evaluatedArtifactDigest = 0 ∨ result.resultCiphertextCommitment = 0 ∨
      result.releaseAuthorityID = 0 ∨ result.sourceProvenance = 0 ∨
      result.releaseOrdinal ≠ releaseOrdinal ∨ knownReleaseMode result.releaseMode = false ∨
      result.releasedAtUnix ≤ 0 ∨ result.releaseAuthorityPublicKey.length ≠ 32 ∨
      releaseAuthorityIdentity library result.releaseMode result.releaseAuthorityPublicKey ≠
        result.releaseAuthorityID)
    (thrown .recourse)
  (verifyCanonical library result.releaseAuthorityPublicKey "MordantGovernedConflictResult/v1"
    .governedResult { result with signature := [] } result.signature).mapError
      fun _ => thrown .recourse

/-- The result is the one of the case that the pins name. -/
def matchPinned (pins : TrustedRecoursePins) (binding : FHECaseBinding)
    (result : GovernedConflictResult) : Except Thrown Unit :=
  revertIf (result.caseID ≠ binding.caseID ∨
      result.caseBindingDigest ≠ binding.digest library ∨
      result.assetIdentity ≠ binding.assetIdentity ∨ result.policyID ≠ binding.policyID ∨
      result.participantArtifactDigests ≠
        [pins.participantArtifactDigestA, pins.participantArtifactDigestB] ∨
      result.evaluatedArtifactDigest ≠ pins.evaluatedArtifactDigest ∨
      result.resultCiphertextDigest ≠ pins.recomputedResultCiphertextDigest ∨
      result.resultCiphertextCommitment ≠ pins.resultCiphertextCommitment ∨
      result.sourceProvenance ≠ pins.decryptorProvenance ∨
      result.releaseMode ≠ pins.releaseMode ∨
      result.releaseAuthorityID ≠ pins.releaseAuthorityID)
    (thrown .recourse)

/-- The checks before the record root is opened. -/
def checkSignedResult (call : AdapterCall) :
    Except Thrown (FHECaseBinding × GovernedConflictResult) := do
  let binding ← verifyRecourseCaseManifest library call.caseManifest
  call.expectedPins.validate binding
  let result ← (decodeStrict library .governedResult call.signedResult).mapError
    fun _ => thrown .recourse
  verifyRecourseResultEnvelope library result
  matchPinned library call.expectedPins binding result
  revertIf (result.conflict = false) (thrown .recourse)
  pure (binding, result)

/-- What protects the case, and its dates. -/
def loadTerms (binding : FHECaseBinding) (result : GovernedConflictResult)
    (seen : Objects PublicObject RecourseValue) : Except Thrown RecourseTerms := do
  let authorization ← (loadProtectionAuthorization library parseTime (documentsOf seen)
    binding).mapError fun _ => thrown .recourse
  let recordDate ← require (thrown .recourse) (parseTime authorization.binding.holderRecordDate)
  revertIf (recordDate ≤ 0 ∨ recordDate > binding.createdAtUnix ∨
      result.releasedAtUnix < binding.createdAtUnix)
    (thrown .recourse)
  pure { binding, result, authorization }

/-! ## The validators -/

def validateRecourseClockBinding (clock : RecourseClockBinding) (terms : RecourseTerms) :
    Except Thrown Unit := do
  let recordDate ← require (thrown .recourse)
    (parseTime terms.authorization.binding.holderRecordDate)
  revertIf (clock.schemaVersion ≠ recourseClockSchema ∨ clock.caseID ≠ terms.binding.caseID ∨
      clock.caseBindingDigest ≠ terms.binding.digest library ∨
      clock.resultDigest ≠ terms.result.digest library ∨
      clock.protectionDigest ≠ terms.authorization.digest ∨
      clock.recordDateUnix ≠ recordDate ∨
      clock.holderAllocationDigest ≠ terms.authorization.binding.holderAllocationDigest ∨
      clock.boundAtUnix < terms.result.releasedAtUnix ∨
      clock.boundAtUnix > terms.binding.expiresAtUnix ∨
      clock.cureDeadlineUnix ≠ clock.boundAtUnix + curePeriod)
    (thrown .recourse)

def validateCompleteRecourseRecord (record : RecourseRecord) (terms : RecourseTerms) :
    Except Thrown Unit := do
  let recordDate ← require (thrown .recourse)
    (parseTime terms.authorization.binding.holderRecordDate)
  revertIf (terms.result.conflict = false ∨ record.schemaVersion ≠ recourseRecordSchema ∨
      record.caseID ≠ terms.binding.caseID ∨
      record.caseBindingDigest ≠ terms.binding.digest library ∨
      record.assetIdentity ≠ terms.binding.assetIdentity ∨
      record.policyID ≠ terms.binding.policyID ∨
      record.policyVersion ≠ terms.result.policyVersion ∨
      record.resultDigest ≠ terms.result.digest library ∨
      record.releaseMode ≠ terms.result.releaseMode ∨
      record.releaseAuthorityID ≠ terms.result.releaseAuthorityID ∨
      record.recordDateUnix ≠ recordDate ∨ record.recordDateUnix ≤ 0 ∨
      record.recordDateUnix > terms.binding.createdAtUnix ∨
      record.boundAtUnix < terms.result.releasedAtUnix ∨
      record.boundAtUnix > terms.binding.expiresAtUnix ∨
      record.cureDeadlineUnix ≠ record.boundAtUnix + curePeriod ∨
      record.reserveBasisPoints ≠ mvpReserveBasisPoints ∨
      record.holderAllocationDigest ≠ terms.authorization.binding.holderAllocationDigest ∨
      record.holderAllocationDigest = 0 ∨ record.originalReceivableIntact = false ∨
      record.isOpen = false)
    (thrown .recourse)

def loadValidatedRecourseRecord (terms : RecourseTerms)
    (seen : Objects PublicObject RecourseValue) : Except Thrown (Option RecourseRecord) :=
  if (seen .recourseRecord).isSome then do
    let record ← readRecord seen
    validateCompleteRecourseRecord library parseTime record terms
    let clock ← readClock seen
    validateRecourseClockBinding library parseTime clock terms
    revertIf (clock.recordDateUnix ≠ record.recordDateUnix ∨
        clock.boundAtUnix ≠ record.boundAtUnix ∨
        clock.cureDeadlineUnix ≠ record.cureDeadlineUnix ∨
        clock.holderAllocationDigest ≠ record.holderAllocationDigest)
      (thrown .recourse)
    pure (some record)
  else do
    revertIf (seen .recourseClock).isSome (thrown .recourse)
    pure none

/-! ## The adapter -/

/-- The clock, bound now. -/
def clockBindingOf (terms : RecourseTerms) (recordDate now : ℤ) : RecourseClockBinding where
  schemaVersion := recourseClockSchema
  caseID := terms.binding.caseID
  caseBindingDigest := terms.binding.digest library
  resultDigest := terms.result.digest library
  protectionDigest := terms.authorization.digest
  recordDateUnix := recordDate
  holderAllocationDigest := terms.authorization.binding.holderAllocationDigest
  boundAtUnix := now
  cureDeadlineUnix := now + curePeriod

/-- The clock as it is bound, or as this call binds it. -/
def bindRecourseClock (terms : RecourseTerms) (now : ℤ) : RecourseTask RecourseClockBinding := do
  let seen ← look
  if (seen .recourseClock).isSome then Program.lift (readClock seen)
  else do
    Program.throwIf (now < terms.result.releasedAtUnix ∨ now > terms.binding.expiresAtUnix)
      (thrown .recourse)
    let recordDate ← Program.lift (require (thrown .recourse)
      (parseTime terms.authorization.binding.holderRecordDate))
    let clock := clockBindingOf library terms recordDate now
    let created ← create .recourseClock (.clock clock)
    Program.throwIf (created = false) (thrown .store)
    pure clock

/-- The record that a clock and a result come to. -/
def recourseRecordOf (terms : RecourseTerms) (clock : RecourseClockBinding) : RecourseRecord where
  schemaVersion := recourseRecordSchema
  caseID := terms.result.caseID
  caseBindingDigest := terms.result.caseBindingDigest
  assetIdentity := terms.result.assetIdentity
  policyID := terms.result.policyID
  policyVersion := terms.result.policyVersion
  resultDigest := terms.result.digest library
  releaseMode := terms.result.releaseMode
  releaseAuthorityID := terms.result.releaseAuthorityID
  recordDateUnix := clock.recordDateUnix
  boundAtUnix := clock.boundAtUnix
  cureDeadlineUnix := clock.cureDeadlineUnix
  reserveBasisPoints := mvpReserveBasisPoints
  holderAllocationDigest := clock.holderAllocationDigest
  originalReceivableIntact := true
  isOpen := true

/-- The record as it is stored, if it is this one, or as this call stores it. -/
def storeRecourseRecord (record : RecourseRecord) : RecourseTask RecourseRecord := do
  let seen ← look
  if (seen .recourseRecord).isSome then do
    let prior ← Program.lift (readRecord seen)
    Program.throwIf (prior ≠ record) (thrown .recourse)
    pure prior
  else do
    let created ← create .recourseRecord (.record record)
    Program.throwIf (created = false) (thrown .store)
    pure record

def adaptSignedResultToRecourse (call : AdapterCall) : RecourseTask RecourseRecord := do
  let (binding, result) ← Program.lift (checkSignedResult library call)
  let seen ← look
  let terms ← Program.lift (loadTerms library parseTime binding result seen)
  let clock ← bindRecourseClock library parseTime terms call.clock
  Program.lift (validateRecourseClockBinding library parseTime clock terms)
  let record := recourseRecordOf library terms clock
  Program.lift (validateCompleteRecourseRecord library parseTime record terms)
  storeRecourseRecord record

end

end Mordant.GovernedFhe
