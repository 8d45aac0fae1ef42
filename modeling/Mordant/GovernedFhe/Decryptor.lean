/-
# The governed release

The decryptor recomputes the circuit over the participants' ciphertexts, compares what it
gets with what the evaluator published, and only then decrypts that one ciphertext and
signs the result.  Each stage leaves an object in the private store, and a call that finds
such an object goes on from it, or refuses.

A call reads the stores a few objects at a time.  One look stands for the reads of one
loader: objects stay as they were created, so what a loader has read is there at its last
read, and an object it did not find is one that the look does not show.
-/

import Mordant.GovernedFhe.EnrollmentRecord

namespace Mordant.GovernedFhe

open Evm Foundation
open Program (throwIf)
open Coalition (Digest Runtime CircuitInputsV5)

/-! ## Constants -/

def recomputeAdmissionSchema : String := "mordant.fhe-recompute-admission/1"
def recomputeVerifiedSchema : String := "mordant.fhe-recompute-verified/1"
def recomputeMismatchSchema : String := "mordant.fhe-recompute-mismatch/1"
def releaseAdmissionSchema : String := "mordant.fhe-release-admission/1"
def releaseConsumedSchema : String := "mordant.fhe-release-consumed/1"
def privateCaseSchema : String := "mordant.fhe-private-case/1"
def governedResultSchema : String := "mordant.governed-conflict-result/1"
def releaseOrdinal : BitVec 32 := 1

/-! ## Tasks on the two stores -/

/-- An object of either store. -/
abbrev CaseObject : Type := PublicObject ⊕ PrivateObject

def CaseObject.name : CaseObject → String
  | .inl object => object.name
  | .inr object => object.name

/-- What the decryptor does besides: it recomputes a ciphertext, to compare it with the
evaluator's, reads the secret key, and signs a result. -/
inductive Use
  | recomputed (result evaluator : Bytes)
  | readSecretKey (secretKey : Bytes)
  | signed (result : GovernedConflictResult)
  deriving DecidableEq

abbrev Task (α : Type) : Type := Program (ArchiveOp CaseObject Bytes Use) ArchiveOp.Answer Thrown α

/-- Objects of the public store. -/
def publicOf (seen : Objects CaseObject Bytes) (object : PublicObject) : Option Bytes :=
  seen (.inl object)

/-- An error, and what was refused. -/
def Thrown.about (origin : Origin) (error : Thrown) : Thrown := { error with origin }

/-- What is read of the stores at once. -/
def loading {α : Type} (load : Objects CaseObject Bytes → Except Thrown α) : Task α := do
  let seen ← look
  Program.lift (load seen)

/-- `exists`. -/
def present (object : CaseObject) : Task Bool := do
  let seen ← look
  pure (seen object).isSome

section

variable (library : Library)

/-- `create`. Whoever calls it says what its refusal becomes. -/
def createObject (object : CaseObject) (data : Bytes) (refusal : Thrown) : Task ObjectRef := do
  throwIf (data.length = 0) refusal
  let created ← create object data
  throwIf (created = false) refusal
  pure ⟨object.name, library.sha256 data, data.length⟩

def createJSON (object : CaseObject) (document : Document) (value : document.Value)
    (refusal : Thrown) : Task Bytes := do
  let encoded := marshalCanonical library document value
  let _ ← createObject library object encoded refusal
  pure encoded

end

/-! ## The recomputation -/

section

variable (library : Library)

def validateRecomputeAdmission (admission : RecomputeAdmission) (manifest : FHECaseManifest)
    (artifact : EvaluatedConflictArtifact) (artifactDigest : Digest) : Except Thrown Unit :=
  revertIf (admission.schemaVersion ≠ recomputeAdmissionSchema ∨
      admission.caseID ≠ manifest.binding.caseID ∨
      admission.caseBindingDigest ≠ manifest.binding.digest library ∨
      admission.evaluatedArtifactDigest ≠ artifactDigest ∨
      admission.participantArtifactDigests.length ≠ 2 ∨
      admission.participantArtifactDigests[0]? ≠ artifact.participantArtifactDigests[0]? ∨
      admission.participantArtifactDigests[1]? ≠ artifact.participantArtifactDigests[1]? ∨
      admission.admittedAtUnix ≤ 0)
    (thrown .releaseAmbiguous)

/-- The checks of `loadVerifiedRecomputation`, of what the private store shows. -/
def checkVerifiedRecomputation (manifest : FHECaseManifest) (artifact : EvaluatedConflictArtifact)
    (artifactDigest : Digest) (seen : Objects CaseObject Bytes) :
    Except Thrown (Bytes × RecomputeVerified) := do
  let (admission, _) ← readJSON library .recomputeAdmission (seen (.inr .recomputeAdmission))
  validateRecomputeAdmission library admission manifest artifact artifactDigest
  let (verified, _) ← readJSON library .recomputeVerified (seen (.inr .recomputeVerified))
  revertIf (verified.schemaVersion ≠ recomputeVerifiedSchema ∨
      verified.caseID ≠ manifest.binding.caseID ∨
      verified.caseBindingDigest ≠ manifest.binding.digest library ∨
      verified.evaluatedArtifactDigest ≠ artifactDigest ∨
      passes (verified.recomputedResultCiphertext.validate PrivateObject.recomputedResult.name
        (128 * 2 ^ 20)) = false ∨
      verified.resultCiphertextCommitment = 0 ∨ verified.verifiedAtUnix ≤ 0)
    (thrown .releaseAmbiguous)
  let recomputedBytes ← read library verified.recomputedResultCiphertext
    (seen (.inr .recomputedResult)) (128 * 2 ^ 20)
  revertIf (resultCommitment library recomputedBytes ≠ verified.resultCiphertextCommitment)
    (thrown .releaseAmbiguous)
  pure (recomputedBytes, verified)

def loadVerifiedRecomputation (manifest : FHECaseManifest) (artifact : EvaluatedConflictArtifact)
    (artifactDigest : Digest) : Task (Bytes × RecomputeVerified) :=
  loading fun seen => (checkVerifiedRecomputation library manifest artifact artifactDigest
    seen).mapError fun _ => thrown .releaseAmbiguous

/-- What `prepareVerifiedRecomputation` does once the recomputation is admitted. -/
def recompute (manifest : FHECaseManifest) (artifact : EvaluatedConflictArtifact)
    (evaluatorResultBytes : Bytes) (artifactDigest : Digest)
    (participants : ValidatedFreshParticipants) (now : ℤ) : Task (Bytes × RecomputeVerified) := do
  let runtime ← loading fun seen => (loadEvaluationRuntime library (publicOf seen)
    manifest).mapError fun _ => (thrown .binding).about .evaluationMaterial
  throwIf (participants.pledgeA.keyID ≠ runtime.keyID ∨
      participants.pledgeB.keyID ≠ runtime.keyID)
    ((thrown .binding).about .evaluationMaterial)
  let (recordA, recordB) ← loading fun seen =>
    (loadCaseEnrollmentsV5 library (publicOf seen)).mapError (·.about .evaluationMaterial)
  let _ ← Program.lift ((verifyCaseEnrollmentsV5 library runtime manifest.binding participants
    recordA recordB now).mapError (·.about .evaluationMaterial))
  let receivableA ← Program.lift (require (thrown .releaseAmbiguous)
    participants.pledgeA.receivableIDBits)
  let receivableB ← Program.lift (require (thrown .releaseAmbiguous)
    participants.pledgeB.receivableIDBits)
  let inputs : CircuitInputsV5 :=
    { policyBitsA := participants.pledgeA.policyBits
      policyBitsB := participants.pledgeB.policyBits
      currencyBitsA := participants.pledgeA.currencyBits
      currencyBitsB := participants.pledgeB.currencyBits
      receivableIDsA := receivableA
      receivableIDsB := receivableB }
  let recomputedBytes ← Program.lift (require (thrown .releaseAmbiguous)
    (library.recomputeCircuitV5 runtime inputs))
  takeNote (.recomputed recomputedBytes evaluatorResultBytes)
  if recomputedBytes ≠ evaluatorResultBytes then
    let mismatch : RecomputeMismatch :=
      { schemaVersion := recomputeMismatchSchema
        caseID := manifest.binding.caseID
        caseBindingDigest := manifest.binding.digest library
        evaluatedArtifactDigest := artifactDigest
        evaluatorResultCiphertextDigest := artifact.resultCiphertext.digest
        recomputedResultCiphertextDigest := library.sha256 recomputedBytes
        errorCode := "EVALUATOR_RESULT_MISMATCH"
        detectedAtUnix := now }
    let _ ← createJSON library (.inr .recomputeMismatch) .recomputeMismatch mismatch
      (thrown .releaseAmbiguous)
    Program.lift (.error (thrown .evaluatorMismatch))
  else
    let recomputedRef ← createObject library (.inr .recomputedResult) recomputedBytes
      (thrown .releaseAmbiguous)
    let verified : RecomputeVerified :=
      { schemaVersion := recomputeVerifiedSchema
        caseID := manifest.binding.caseID
        caseBindingDigest := manifest.binding.digest library
        evaluatedArtifactDigest := artifactDigest
        recomputedResultCiphertext := recomputedRef
        resultCiphertextCommitment := resultCommitment library recomputedBytes
        verifiedAtUnix := now }
    let _ ← createJSON library (.inr .recomputeVerified) .recomputeVerified verified
      (thrown .releaseAmbiguous)
    pure (recomputedBytes, verified)

/-- What `prepareVerifiedRecomputation` does where nothing was recomputed before. -/
def admitRecomputation (manifest : FHECaseManifest) (artifact : EvaluatedConflictArtifact)
    (evaluatorResultBytes : Bytes) (artifactDigest : Digest)
    (participants : ValidatedFreshParticipants) (now : ℤ) : Task (Bytes × RecomputeVerified) := do
  let admitted ← present (.inr .recomputeAdmission)
  throwIf (admitted = true) (thrown .recomputeAdmission)
  throwIf (manifest.binding.caseID = 0) (thrown .resourceAdmission)
  -- `admitN15`
  let permitted ← permit
  throwIf (permitted = false) (thrown .resourceAdmission)
  let mismatch ← present (.inr .recomputeMismatch)
  throwIf (mismatch = true) (thrown .recomputeAdmission)
  let verified ← present (.inr .recomputeVerified)
  throwIf (verified = true) (thrown .recomputeAdmission)
  let admitted ← present (.inr .recomputeAdmission)
  throwIf (admitted = true) (thrown .recomputeAdmission)
  let admission : RecomputeAdmission :=
    { schemaVersion := recomputeAdmissionSchema
      caseID := manifest.binding.caseID
      caseBindingDigest := manifest.binding.digest library
      participantArtifactDigests := [participants.digestA, participants.digestB]
      evaluatedArtifactDigest := artifactDigest
      admittedAtUnix := now }
  let _ ← createJSON library (.inr .recomputeAdmission) .recomputeAdmission admission
    (thrown .recomputeAdmission)
  recompute library manifest artifact evaluatorResultBytes artifactDigest participants now

def prepareVerifiedRecomputation (manifest : FHECaseManifest)
    (artifact : EvaluatedConflictArtifact) (evaluatorResultBytes : Bytes) (artifactDigest : Digest)
    (now : ℤ) : Task (Bytes × RecomputeVerified) := do
  let participants ← loading fun seen => (loadAndValidateFreshParticipants library (publicOf seen)
    manifest now).mapError (·.about .caseMaterial)
  throwIf (some participants.digestA ≠ artifact.participantArtifactDigests[0]? ∨
      some participants.digestB ≠ artifact.participantArtifactDigests[1]?)
    ((thrown .binding).about .caseMaterial)
  let mismatch ← present (.inr .recomputeMismatch)
  throwIf (mismatch = true) (thrown .evaluatorMismatch)
  let verified ← present (.inr .recomputeVerified)
  if verified then
    loadVerifiedRecomputation library manifest artifact artifactDigest
  else
    admitRecomputation library manifest artifact evaluatorResultBytes artifactDigest
      participants now

/-! ## A result that was retained -/

def verifyGovernedResult (result : GovernedConflictResult) (manifest : FHECaseManifest)
    (artifact : EvaluatedConflictArtifact) (authority : ReleaseAuthorityManifest) :
    Except Thrown Unit := do
  revertIf (result.schemaVersion ≠ governedResultSchema ∨
      result.caseID ≠ manifest.binding.caseID ∨
      result.caseBindingDigest ≠ manifest.binding.digest library ∨
      result.assetIdentity ≠ manifest.binding.assetIdentity ∨ result.serviceID ≠ serviceID ∨
      result.serviceVersion ≠ serviceVersion ∨ result.policyID ≠ manifest.binding.policyID ∨
      result.policyVersion ≠ Coalition.policyVersion ∨ result.circuitID ≠ circuitID ∨
      result.circuitVersion ≠ Coalition.circuitV5Version ∨
      result.circuitDigest ≠ library.fixedCircuitDigest ∨
      result.parameterProfile ≠ parameterProfile ∨
      result.parameterFingerprint ≠ manifest.binding.parameterFingerprint ∨
      result.participantArtifactDigests.length ≠ 2 ∨
      result.participantArtifactDigests[0]? ≠ artifact.participantArtifactDigests[0]? ∨
      result.participantArtifactDigests[1]? ≠ artifact.participantArtifactDigests[1]? ∨
      result.evaluatedArtifactDigest ≠ digestCanonical library .evaluatedArtifact artifact ∨
      result.resultCiphertextDigest ≠ artifact.resultCiphertext.digest ∨
      result.resultCiphertextCommitment ≠ artifact.resultCiphertextCommitment ∨
      result.releaseOrdinal ≠ releaseOrdinal ∨ result.releaseMode ≠ authority.releaseMode ∨
      knownReleaseMode result.releaseMode = false ∨
      result.releaseAuthorityID ≠ authority.authorityID ∨
      result.releaseAuthorityPublicKey ≠ authority.signingPublicKey ∨
      result.releasedAtUnix ≤ 0 ∨ result.sourceProvenance = 0)
    (thrown .binding)
  verifyCanonical library authority.signingPublicKey "MordantGovernedConflictResult/v1"
    .governedResult { result with signature := [] } result.signature

def GovernedConflictResult.digest (result : GovernedConflictResult) : Digest :=
  digestCanonical library .governedResult result

/-- What `exactRetry` checks of the retained result. -/
def checkRetained (manifest : FHECaseManifest) (artifact : EvaluatedConflictArtifact)
    (authority : ReleaseAuthorityManifest) (artifactDigest : Digest)
    (seen : Objects CaseObject Bytes) : Except Thrown (GovernedConflictResult × Bytes) := do
  let (result, retainedBytes) ← readJSON library .governedResult (seen (.inr .retainedResult))
  let (recomputedBytes, verified) ←
    checkVerifiedRecomputation library manifest artifact artifactDigest seen
  verifyGovernedResult library result manifest artifact authority
  revertIf (result.resultCiphertextDigest ≠ verified.recomputedResultCiphertext.digest ∨
      result.resultCiphertextCommitment ≠ verified.resultCiphertextCommitment ∨
      recomputedBytes.length = 0)
    (thrown .releaseAmbiguous)
  pure (result, retainedBytes)

/-- What `exactRetry` checks of the release admission. -/
def checkReleaseAdmission (manifest : FHECaseManifest) (artifact : EvaluatedConflictArtifact)
    (artifactDigest : Digest) (seen : Objects CaseObject Bytes) : Except Thrown Unit := do
  let (admission, _) ← readJSON library .releaseAdmission (seen (.inr .releaseAdmission))
  revertIf (admission.schemaVersion ≠ releaseAdmissionSchema ∨
      admission.caseID ≠ manifest.binding.caseID ∨
      admission.caseBindingDigest ≠ artifact.caseBindingDigest ∨
      admission.evaluatedArtifactDigest ≠ artifactDigest ∨
      admission.releaseOrdinal ≠ releaseOrdinal ∨
      admission.releaseMode ≠ releaseModeGovernedDecryptor ∨ admission.admittedAtUnix ≤ 0)
    (thrown .releaseConsumed)

/-- What is left of a release: its result is published. -/
def publishRetained (retainedBytes : Bytes) : Task Unit := do
  let published ← present (.inl .publicResult)
  if published then
    let publicBytes ← loading fun seen => (readNamed library PublicObject.publicResult.name
      (seen (.inl .publicResult)) maxManifestBytes).mapError fun _ => thrown .releaseAmbiguous
    throwIf (publicBytes.1 ≠ retainedBytes) (thrown .releaseAmbiguous)
  else
    let _ ← createObject library (.inl .publicResult) retainedBytes (thrown .store)

/-- What is written when a result was published. -/
def releaseConsumedOf (result : GovernedConflictResult) (artifactDigest : Digest) (now : ℤ) :
    ReleaseConsumed :=
  { schemaVersion := releaseConsumedSchema
    caseID := result.caseID
    evaluatedArtifactDigest := artifactDigest
    resultDigest := result.digest library
    consumedAtUnix := now }

/-- What is left of a release: it is recorded as consumed. -/
def consumeRetained (result : GovernedConflictResult) (artifactDigest : Digest) (now : ℤ) :
    Task Unit := do
  let consumed ← present (.inr .releaseConsumed)
  if consumed then
    let (consumed, _) ← loading fun seen => (readJSON library .releaseConsumed
      (seen (.inr .releaseConsumed))).mapError fun _ => thrown .releaseAmbiguous
    throwIf (consumed.schemaVersion ≠ releaseConsumedSchema ∨
        consumed.caseID ≠ result.caseID ∨ consumed.evaluatedArtifactDigest ≠ artifactDigest ∨
        consumed.resultDigest ≠ result.digest library ∨ consumed.consumedAtUnix ≤ 0)
      (thrown .releaseAmbiguous)
  else
    let _ ← createJSON library (.inr .releaseConsumed) .releaseConsumed
      (releaseConsumedOf library result artifactDigest now) (thrown .store)

/-- `exactRetry`, where a result is found. -/
def exactRetry (manifest : FHECaseManifest) (artifact : EvaluatedConflictArtifact)
    (artifactDigest : Digest) (authority : ReleaseAuthorityManifest) (now : ℤ) :
    Task (GovernedConflictResult × Bytes) := do
  let (result, retainedBytes) ← loading fun seen => (checkRetained library manifest artifact
    authority artifactDigest seen).mapError fun _ => thrown .releaseAmbiguous
  loading fun seen => (checkReleaseAdmission library manifest artifact artifactDigest
    seen).mapError fun _ => thrown .releaseConsumed
  publishRetained library retainedBytes
  consumeRetained library result artifactDigest now
  pure (result, retainedBytes)

/-! ## The release -/

/-- How a decryptor is configured, and what it is asked to release. -/
structure ReleaseRequest where
  provenance : Digest
  now : ℤ
  expected : EvaluatedConflictArtifact

/-- What `release` verifies first, of the public store alone. -/
structure VerifiedCase where
  manifest : FHECaseManifest
  artifact : EvaluatedConflictArtifact
  resultBytes : Bytes
  artifactDigest : Digest
  authority : ReleaseAuthorityManifest

/-- All public bindings are verified before anything private is read. -/
def verifyPublicCase (request : ReleaseRequest) : Task VerifiedCase := do
  let manifest ← loading fun seen => (loadCaseManifest library (publicOf seen)).mapError
    fun _ => (thrown .binding).about .caseMaterial
  throwIf (request.now < manifest.binding.createdAtUnix ∨
      request.now > manifest.binding.expiresAtUnix)
    (thrown .binding)
  let (artifact, resultBytes, artifactDigest) ← loading fun seen =>
    (loadEvaluatedArtifact library (publicOf seen) manifest).mapError (·.about .caseMaterial)
  throwIf (digestCanonical library .evaluatedArtifact request.expected ≠
      digestCanonical library .evaluatedArtifact artifact)
    (thrown .binding)
  let authority ← loading fun seen => (loadReleaseAuthority library (publicOf seen)
    manifest).mapError (·.about .caseMaterial)
  throwIf (authority.releaseMode ≠ releaseModeGovernedDecryptor) (thrown .binding)
  pure { manifest, artifact, resultBytes, artifactDigest, authority }

/-- The private case, as `release` finds it. -/
def loadPrivateCase (opened : VerifiedCase) (seen : Objects CaseObject Bytes) :
    Except Thrown PrivateCaseManifest := do
  let (privateCase, _) ← readJSON library .privateCase (seen (.inr .privateCase))
  revertIf (privateCase.schemaVersion ≠ privateCaseSchema ∨
      privateCase.caseID ≠ opened.manifest.binding.caseID ∨
      privateCase.caseBindingDigest ≠ opened.artifact.caseBindingDigest ∨
      privateCase.releaseAuthorityID ≠ opened.authority.authorityID ∨
      privateCase.secretKey.path ≠ PrivateObject.secretKey.name ∨
      privateCase.signingKey.path ≠ PrivateObject.decryptorSigningKey.name)
    (thrown .releaseAmbiguous)
  pure privateCase

/-- The bit that a ciphertext decrypts to: the first slot, the others being zero. -/
def decryptBit (params secretKey ciphertext : Bytes) : Except Thrown Bool := do
  let slots ← require (thrown .releaseAmbiguous) (library.decryptSlots params secretKey ciphertext)
  match slots with
  | [] => .error (thrown .releaseAmbiguous)
  | bit :: rest =>
    revertIf (bit > 1) (thrown .releaseAmbiguous)
    revertIf (rest.any (· ≠ 0) = true) (thrown .releaseAmbiguous)
    pure (bit = 1)

/-- The result that `release` signs. -/
def unsignedResult (request : ReleaseRequest) (opened : VerifiedCase)
    (verified : RecomputeVerified) (conflict : Bool) : GovernedConflictResult :=
  { schemaVersion := governedResultSchema
    caseID := opened.manifest.binding.caseID
    caseBindingDigest := opened.artifact.caseBindingDigest
    assetIdentity := opened.manifest.binding.assetIdentity
    serviceID
    serviceVersion
    policyID := opened.manifest.binding.policyID
    policyVersion := Coalition.policyVersion
    circuitID
    circuitVersion := Coalition.circuitV5Version
    circuitDigest := library.fixedCircuitDigest
    parameterProfile
    parameterFingerprint := opened.manifest.binding.parameterFingerprint
    participantArtifactDigests := opened.artifact.participantArtifactDigests
    evaluatedArtifactDigest := opened.artifactDigest
    resultCiphertextDigest := verified.recomputedResultCiphertext.digest
    resultCiphertextCommitment := verified.resultCiphertextCommitment
    conflict
    releaseOrdinal
    releaseMode := releaseModeGovernedDecryptor
    releaseAuthorityID := opened.authority.authorityID
    releaseAuthorityPublicKey := opened.authority.signingPublicKey
    releasedAtUnix := request.now
    sourceProvenance := request.provenance
    signature := [] }

/-- What `release` does once the release is admitted: decrypt the one ciphertext, and sign. -/
def decryptAndSign (request : ReleaseRequest) (opened : VerifiedCase) (recomputedBytes : Bytes)
    (verified : RecomputeVerified) : Task GovernedConflictResult := do
  let privateCase ← loading fun seen => (loadPrivateCase library opened seen).mapError
    fun _ => thrown .releaseAmbiguous
  let (params, _) ← loading fun seen => (loadPublicEncryptionMaterial library (publicOf seen)
    opened.manifest.crypto).mapError fun _ => (thrown .releaseAmbiguous).about .caseMaterial
  let secretBytes ← loading fun seen => (read library privateCase.secretKey
    (seen (.inr .secretKey)) (32 * 2 ^ 20)).mapError fun _ => thrown .releaseAmbiguous
  takeNote (.readSecretKey secretBytes)
  throwIf (library.validSecretKey params secretBytes = false) (thrown .releaseAmbiguous)
  let conflict ← Program.lift (decryptBit library params secretBytes recomputedBytes)
  let signingBytes ← loading fun seen => (read library privateCase.signingKey
    (seen (.inr .decryptorSigningKey)) (2 ^ 20)).mapError fun _ => thrown .releaseAmbiguous
  throwIf (signingBytes.length ≠ 64) (thrown .releaseAmbiguous)
  let unsigned := unsignedResult library request opened verified conflict
  let signature ← Program.lift ((signCanonical library signingBytes
    "MordantGovernedConflictResult/v1" .governedResult unsigned).mapError
      fun _ => thrown .releaseAmbiguous)
  let result := { unsigned with signature }
  takeNote (.signed result)
  pure result

/-- What `release` does where no result was retained. -/
def firstRelease (request : ReleaseRequest) (opened : VerifiedCase) :
    Task (GovernedConflictResult × Bytes) := do
  let admitted ← present (.inr .releaseAdmission)
  throwIf (admitted = true) (thrown .releaseAmbiguous)
  let consumed ← present (.inr .releaseConsumed)
  throwIf (consumed = true) (thrown .releaseAmbiguous)
  let (recomputedBytes, verified) ← prepareVerifiedRecomputation library opened.manifest
    opened.artifact opened.resultBytes opened.artifactDigest request.now
  let admission : ReleaseAdmission :=
    { schemaVersion := releaseAdmissionSchema
      caseID := opened.manifest.binding.caseID
      caseBindingDigest := opened.artifact.caseBindingDigest
      evaluatedArtifactDigest := opened.artifactDigest
      releaseOrdinal
      releaseMode := releaseModeGovernedDecryptor
      admittedAtUnix := request.now }
  let _ ← createJSON library (.inr .releaseAdmission) .releaseAdmission admission (thrown .store)
  let result ← decryptAndSign library request opened recomputedBytes verified
  let retainedBytes ← createJSON library (.inr .retainedResult) .governedResult result
    (thrown .releaseAmbiguous)
  let _ ← createObject library (.inl .publicResult) retainedBytes (thrown .store)
  let _ ← createJSON library (.inr .releaseConsumed) .releaseConsumed
    (releaseConsumedOf library result opened.artifactDigest request.now) (thrown .store)
  pure (result, retainedBytes)

def release (request : ReleaseRequest) : Task (GovernedConflictResult × Bytes) := do
  let opened ← verifyPublicCase library request
  let retained ← present (.inr .retainedResult)
  if retained then
    exactRetry library opened.manifest opened.artifact opened.artifactDigest opened.authority
      request.now
  else
    firstRelease library request opened

end

end Mordant.GovernedFhe
