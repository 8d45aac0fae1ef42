/-
# Imports of participants' ciphertexts

A participant encrypts on its own machine; what it sends is staged, verified, and then
published into the case.  A journal beside the case keeps the imports apart: a claim for
each submission nonce, and for each role what was admitted and what was completed.  The
manifest is published last, so that whoever finds it finds the whole submission.

A call may be cut off at any point, and be made again.  The records of the journal are
modelled as they are decoded.
-/

import Mordant.GovernedFhe.EnrollmentRecord
import Mordant.GovernedFhe.Protection

namespace Mordant.GovernedFhe

open Evm Foundation
open Program (throwIf lift)
open Coalition (Digest)

/-! ## Constants -/

def artifactVerificationSchema : String :=
  "mordant.participant-originated-artifact-verification/1"
def importAdmissionSchema : String := "mordant.participant-originated-import-admission/1"
def importCompletionSchema : String := "mordant.participant-originated-import-completion/1"
def nonceClaimSchema : String := "mordant.participant-originated-nonce-claim/1"

/-- `participantOriginatedMaximumCiphertextBytes`. -/
def maximumCiphertextBytes : ℕ := 192 * 2 ^ 20

/-! ## The journal -/

structure ParticipantOriginatedNonceClaim where
  schemaVersion : String
  verificationDigest : Digest
  caseID : Digest
  role : String
  submissionNonce : Digest
  artifactDigest : Digest
  deriving DecidableEq

structure ParticipantOriginatedImportAdmission where
  schemaVersion : String
  verificationDigest : Digest
  caseID : Digest
  role : String
  submissionNonce : Digest
  artifactDigest : Digest
  ciphertextDigest : Digest
  admittedAtUnix : ℤ
  deriving DecidableEq

structure ParticipantOriginatedImportCompletion where
  schemaVersion : String
  verificationDigest : Digest
  caseID : Digest
  role : String
  artifactObject : ObjectRef
  ciphertextObject : ObjectRef
  importedAtUnix : ℤ
  deriving DecidableEq

/-- The objects of the journal. -/
inductive JournalObject
  | nonceClaim (nonce : Digest)
  | admitted (role : Role)
  | completed (role : Role)
  deriving DecidableEq

/-- An object of the case, or of the journal. -/
abbrev ImportObject : Type := PublicObject ⊕ JournalObject

/-- What an object holds. -/
inductive ImportValue
  | bytes (data : Bytes)
  | claim (claim : ParticipantOriginatedNonceClaim)
  | admission (admission : ParticipantOriginatedImportAdmission)
  | completion (completion : ParticipantOriginatedImportCompletion)
  deriving DecidableEq

abbrev ImportTask (α : Type) : Type :=
  Program (ArchiveOp ImportObject ImportValue Empty) ArchiveOp.Answer Thrown α

/-- The case, as it is seen. -/
def caseOf (seen : Objects ImportObject ImportValue) (object : PublicObject) : Option Bytes :=
  match seen (.inl object) with
  | some (.bytes data) => some data
  | _ => none

/-- What is read of the case at once. -/
def inspecting {α : Type} (load : (PublicObject → Option Bytes) → Except Thrown α) :
    ImportTask α := do
  let seen ← look
  lift (load (caseOf seen))

/-! ## What is staged -/

/-- `ParticipantOriginatedArtifactExpectations`. -/
structure ImportExpectations where
  role : Role
  caseID : Digest
  assetIdentity : Digest
  caseBindingDigest : Digest
  signingKeyDigest : Digest
  bundleDigest : Digest
  encryptionIntentDigest : Digest
  claimCommitment : Digest
  submissionNonce : Digest
  artifactDigest : Digest
  ciphertextDigest : Digest
  finalEncryptedAdmissionDigest : Digest
  enrollmentSignature : Bytes

/-- A quarantine: the two objects of a role, and whether there is anything else. Its objects
are created once, like those of the case. -/
structure Quarantine where
  ciphertext : Option Bytes
  manifest : Option Bytes
  unknown : Bool := false

/-- The objects of a quarantine, as the loaders read them. -/
def Quarantine.objects (quarantine : Quarantine) (role : Role) : PublicObject → Option Bytes
  | .submission other => if other = role then quarantine.ciphertext else none
  | .submissionManifest other => if other = role then quarantine.manifest else none
  | _ => none

/-- `ParticipantOriginatedPublicationOptions`. -/
structure ImportRequest where
  expected : ImportExpectations
  quarantine : Quarantine
  now : ℤ

/-- `ParticipantOriginatedImportReport`. -/
structure ImportReport where
  verificationDigest : Digest
  artifactObject : ObjectRef
  ciphertextObject : ObjectRef
  reconciled : Bool
  importedAtUnix : ℤ

section

variable (library : Library) (parseTime : String → Option ℤ)

/-! ## Verification -/

/-- `validateParticipantOriginatedArtifactExpectations`. -/
def ImportExpectations.validate (expected : ImportExpectations) : Except Thrown Unit :=
  revertIf (expected.caseID = 0 ∨ expected.assetIdentity = 0 ∨ expected.caseBindingDigest = 0 ∨
      expected.signingKeyDigest = 0 ∨ expected.bundleDigest = 0 ∨ expected.claimCommitment = 0 ∨
      expected.submissionNonce = 0 ∨ expected.artifactDigest = 0 ∨
      expected.ciphertextDigest = 0 ∨ expected.encryptionIntentDigest = 0 ∨
      expected.finalEncryptedAdmissionDigest = 0)
    (thrown .participantOriginated)

/-- `ParticipantOriginatedSigningKeyDigest`. -/
def participantSigningKeyDigest (publicKey : Bytes) : Option Digest :=
  if publicKey.length = 32 then some (library.sha256 publicKey) else none

def validateFreshImportedParticipant (seen : PublicObject → Option Bytes)
    (manifest : FHECaseManifest) (role : Role) (pledge : CipherPledge) : Except Thrown Unit := do
  let (params, publicKey) ← loadPublicEncryptionMaterial library seen manifest.crypto
  let client ← caseExternalClient library manifest.binding params publicKey
  validateFreshPledge library manifest.binding client params role pledge

/-- `VerifyStagedParticipantOriginatedArtifact`. -/
def verifyStagedArtifact (request : ImportRequest) (seen : PublicObject → Option Bytes) :
    Except Thrown ParticipantOriginatedArtifactVerification := do
  let expected := request.expected
  let role := expected.role
  let staged := request.quarantine.objects role
  expected.validate
  let manifest ← loadCaseManifest library seen
  let _ ← loadProtectionAuthorization library parseTime seen manifest.binding
  let bindingDigest := manifest.binding.digest library
  let identity := manifest.binding.participant role
  revertIf (manifest.binding.caseID ≠ expected.caseID ∨
      manifest.binding.assetIdentity ≠ expected.assetIdentity ∨
      bindingDigest ≠ expected.caseBindingDigest ∨
      participantSigningKeyDigest library identity.signingPublicKey ≠
        some expected.signingKeyDigest ∨
      request.now < manifest.binding.createdAtUnix ∨ manifest.binding.expiresAtUnix ≤ request.now)
    (thrown .participantImportMismatch)
  revertIf (request.quarantine.unknown = true) (thrown .participantOriginated)
  let (artifact, artifactDigest) ←
    loadParticipantArtifactMetadata library staged manifest role request.now
  revertIf (artifact.expiresAtUnix ≤ request.now ∨
      artifact.expiresAtUnix > manifest.binding.expiresAtUnix)
    (thrown .participantImportMismatch)
  let (_, artifactRef) ← (readNamed library (PublicObject.submissionManifest role).name
    (staged (.submissionManifest role)) maxManifestBytes).mapError
      fun _ => thrown .participantImportMismatch
  revertIf (artifactDigest ≠ expected.artifactDigest ∨
      artifact.ciphertextObject.digest ≠ expected.ciphertextDigest ∨
      artifact.submissionNonce ≠ expected.submissionNonce)
    (thrown .participantImportMismatch)
  let pledge ← loadParticipantCiphertext library staged manifest role artifact
  validateFreshImportedParticipant library seen manifest role pledge
  revertIf (pledge.authorizationCommitment ≠ expected.encryptionIntentDigest ∨
      pledge.privateMetadataCommitment ≠ expected.claimCommitment)
    (thrown .participantImportMismatch)
  pure
    { schemaVersion := artifactVerificationSchema
      role := role.text
      caseID := manifest.binding.caseID
      assetIdentity := manifest.binding.assetIdentity
      caseBindingDigest := bindingDigest
      participantID := identity.id
      signingKeyDigest := expected.signingKeyDigest
      bundleDigest := expected.bundleDigest
      parameterProfile := artifact.parameterProfile
      parameterFingerprint := artifact.parameterFingerprint
      fhePublicKeyDigest := artifact.publicKeyDigest
      circuitDigest := artifact.circuitDigest
      encryptionIntentDigest := pledge.authorizationCommitment
      claimCommitment := pledge.privateMetadataCommitment
      submissionNonce := artifact.submissionNonce
      artifactDigest
      ciphertextDigest := artifact.ciphertextObject.digest
      finalEncryptedAdmissionDigest := expected.finalEncryptedAdmissionDigest
      artifactObject := artifactRef
      ciphertextObject := artifact.ciphertextObject
      expiresAtUnix := artifact.expiresAtUnix
      verifiedAtUnix := request.now }

/-- `ParticipantOriginatedArtifactVerification.validate`, of a role. -/
def ParticipantOriginatedArtifactVerification.validate
    (v : ParticipantOriginatedArtifactVerification) (role : Role) : Except Thrown Unit :=
  revertIf (v.schemaVersion ≠ artifactVerificationSchema ∨ v.caseID = 0 ∨ v.assetIdentity = 0 ∨
      v.caseBindingDigest = 0 ∨ v.participantID = 0 ∨ v.signingKeyDigest = 0 ∨
      v.bundleDigest = 0 ∨ v.parameterFingerprint = 0 ∨ v.fhePublicKeyDigest = 0 ∨
      v.circuitDigest = 0 ∨ v.claimCommitment = 0 ∨ v.submissionNonce = 0 ∨
      v.artifactDigest = 0 ∨ v.ciphertextDigest = 0 ∨
      v.parameterProfile ≠ GovernedFhe.parameterProfile ∨
      v.encryptionIntentDigest = 0 ∨ v.finalEncryptedAdmissionDigest = 0 ∨
      passes (v.artifactObject.validate (PublicObject.submissionManifest role).name
        maxManifestBytes) = false ∨
      passes (v.ciphertextObject.validate (PublicObject.submission role).name
        maximumCiphertextBytes) = false ∨
      v.ciphertextObject.digest ≠ v.ciphertextDigest ∨ v.expiresAtUnix ≤ 0 ∨
      v.verifiedAtUnix ≤ 0 ∨ v.expiresAtUnix ≤ v.verifiedAtUnix)
    (thrown .participantOriginated)

/-- `ParticipantOriginatedArtifactVerification.Digest`: when it was verified is left out. -/
def ParticipantOriginatedArtifactVerification.digest
    (v : ParticipantOriginatedArtifactVerification) (role : Role) : Except Thrown Digest := do
  v.validate role
  pure (digestCanonical library .importVerification { v with verifiedAtUnix := 0 })

/-! ## Publication -/

/-- What a publication loads again before it writes: the case, and what is staged of the
role. -/
structure Staging where
  manifest : FHECaseManifest
  artifact : EncryptedParticipantArtifact
  artifactDigest : Digest
  artifactRef : ObjectRef
  ciphertextRef : ObjectRef

def streamedObjectRef (object : PublicObject) (data : Option Bytes) (maximum : ℕ) :
    Except Thrown ObjectRef := do
  let (_, ref) ← readNamed library object.name data maximum
  pure ref

/-- The checks of a publication before the journal is opened. -/
def loadStaging (request : ImportRequest) (verification : ParticipantOriginatedArtifactVerification)
    (seen : PublicObject → Option Bytes) : Except Thrown Staging := do
  let role := request.expected.role
  let staged := request.quarantine.objects role
  let manifest ← loadCaseManifest library seen
  let _ ← loadProtectionAuthorization library parseTime seen manifest.binding
  let identity := manifest.binding.participant role
  revertIf (verification.caseID ≠ manifest.binding.caseID ∨
      verification.assetIdentity ≠ manifest.binding.assetIdentity ∨
      verification.caseBindingDigest ≠ manifest.binding.digest library ∨
      verification.participantID ≠ identity.id ∨
      participantSigningKeyDigest library identity.signingPublicKey ≠
        some verification.signingKeyDigest ∨
      verification.expiresAtUnix ≤ request.now ∨
      verification.expiresAtUnix > manifest.binding.expiresAtUnix)
    (thrown .participantImportMismatch)
  revertIf (request.quarantine.unknown = true) (thrown .participantOriginated)
  let (artifact, artifactDigest) ←
    loadParticipantArtifactMetadata library staged manifest role request.now
  let artifactRef ← streamedObjectRef library (.submissionManifest role)
    (staged (.submissionManifest role)) maxManifestBytes
  let ciphertextRef ← (streamedObjectRef library (.submission role) (staged (.submission role))
    maximumCiphertextBytes).mapError fun _ => thrown .participantImportMismatch
  revertIf (artifactDigest ≠ verification.artifactDigest ∨
      artifactRef ≠ verification.artifactObject ∨ ciphertextRef ≠ verification.ciphertextObject ∨
      artifact.ciphertextObject ≠ ciphertextRef ∨
      artifact.submissionNonce ≠ verification.submissionNonce)
    (thrown .participantImportMismatch)
  pure { manifest, artifact, artifactDigest, artifactRef, ciphertextRef }

/-- The claim of a verification to its nonce. -/
def nonceClaimOf (digest : Digest) (verification : ParticipantOriginatedArtifactVerification) :
    ParticipantOriginatedNonceClaim where
  schemaVersion := nonceClaimSchema
  verificationDigest := digest
  caseID := verification.caseID
  role := verification.role
  submissionNonce := verification.submissionNonce
  artifactDigest := verification.artifactDigest

/-- The admission of a verification. -/
def admissionOf (digest : Digest) (verification : ParticipantOriginatedArtifactVerification)
    (now : ℤ) : ParticipantOriginatedImportAdmission where
  schemaVersion := importAdmissionSchema
  verificationDigest := digest
  caseID := verification.caseID
  role := verification.role
  submissionNonce := verification.submissionNonce
  artifactDigest := verification.artifactDigest
  ciphertextDigest := verification.ciphertextDigest
  admittedAtUnix := now

/-- An object of the journal that is created, or is in the way. -/
def createJournal (object : JournalObject) (value : ImportValue) : ImportTask Bool :=
  create (.inr object) value

/-- `claimParticipantOriginatedNonce`. A claim that is there is read at once. -/
def claimParticipantOriginatedNonce (digest : Digest)
    (verification : ParticipantOriginatedArtifactVerification) : ImportTask Bool := do
  let claim := nonceClaimOf digest verification
  let object : JournalObject := .nonceClaim verification.submissionNonce
  let created ← createJournal object (.claim claim)
  if created = true then pure false
  else do
    let seen ← look
    let existing ← lift (require (thrown .store) (seen (.inr object)))
    throwIf (existing ≠ .claim claim) (thrown .participantImportReplay)
    pure true

/-- The role is admitted, as this verification; whether it was before. -/
def admitRole (role : Role) (admission : ParticipantOriginatedImportAdmission) :
    ImportTask Bool := do
  let seen ← look
  match seen (.inr (.admitted role)) with
  | some (.admission existing) => do
    throwIf ({ existing with admittedAtUnix := admission.admittedAtUnix } ≠ admission)
      (thrown .participantRoleOccupied)
    pure true
  | some _ => lift (.error (thrown .artifact))
  | none => do
    let created ← createJournal (.admitted role) (.admission admission)
    throwIf (created = false) (thrown .store)
    pure false

/-- The other role has not published this nonce. -/
def checkOtherNonce (role : Role) (nonce : Digest) : ImportTask Unit := do
  let seen ← look
  if (seen (.inl (.submissionManifest role.other))).isSome then do
    let (other, _) ← lift ((readJSON library .participantArtifact
      (caseOf seen (.submissionManifest role.other))).mapError
        fun _ => thrown .participantImportReplay)
    throwIf (other.submissionNonce = nonce) (thrown .participantImportReplay)
  else pure ()

/-- A role that was not admitted before has published nothing. -/
def checkUnoccupied (role : Role) (reconciled : Bool) : ImportTask Unit :=
  if reconciled = true then pure ()
  else do
    let seen ← look
    throwIf ((seen (.inl (.submission role))).isSome ∨
        (seen (.inl (.submissionManifest role))).isSome)
      (thrown .participantRoleOccupied)

def publishStagedObject (object : PublicObject) (staged : Option Bytes) (expected : ObjectRef)
    (maximum : ℕ) (allowExisting : Bool) : ImportTask ObjectRef := do
  let seen ← look
  if (seen (.inl object)).isSome then do
    throwIf (allowExisting = false) (thrown .participantRoleOccupied)
    let actual ← lift ((streamedObjectRef library object (caseOf seen object)
      maximum).mapError fun _ => thrown .participantImportMismatch)
    throwIf (actual ≠ expected) (thrown .participantImportMismatch)
    pure actual
  else do
    let data ← lift (require (thrown .store) staged)
    let actual ← lift ((streamedObjectRef library object (some data) maximum).mapError
      fun _ => thrown .participantImportMismatch)
    throwIf (actual ≠ expected) (thrown .participantImportMismatch)
    let created ← create (.inl object) (.bytes data)
    throwIf (created = false) (thrown .participantImportMismatch)
    pure actual

/-- The enrollment of the role, derived from the case and what is staged. -/
def deriveEnrollment (request : ImportRequest) (staging : Staging) :
    Except Thrown ParticipantEnrollmentV5 := do
  let role := request.expected.role
  let facts ← enrollmentCaseFactsFromBinding library staging.manifest.binding
  let pledge ← loadParticipantCiphertext library (request.quarantine.objects role) staging.manifest
    role staging.artifact
  let inputs ← participantCircuitSideDigest library pledge
  assembleEnrollmentRecord library facts staging.artifact staging.artifactDigest role inputs
    request.expected.enrollmentSignature

/-- The enrollment is published, or it was before. -/
def publishEnrollment (role : Role) (enrollment : ParticipantEnrollmentV5) : ImportTask Unit := do
  let seen ← look
  if (seen (.inl (.enrollment role))).isSome then do
    let (existing, _) ← lift (readJSON library .participantEnrollment
      (caseOf seen (.enrollment role)))
    throwIf (existing.enrollmentSigningDigest ≠ enrollment.enrollmentSigningDigest)
      (thrown .participantRoleOccupied)
  else do
    let created ← create (.inl (.enrollment role))
      (.bytes (marshalCanonical library .participantEnrollment enrollment))
    throwIf (created = false) (thrown .store)

/-- What a publication writes. -/
def publishStaged (request : ImportRequest)
    (verification : ParticipantOriginatedArtifactVerification) (digest : Digest)
    (staging : Staging) : ImportTask ImportReport := do
  let role := request.expected.role
  let staged := request.quarantine.objects role
  let claimed ← claimParticipantOriginatedNonce digest verification
  let admitted ← admitRole role (admissionOf digest verification request.now)
  let reconciled := claimed || admitted
  checkOtherNonce library role verification.submissionNonce
  checkUnoccupied role reconciled
  let ciphertextObject ← publishStagedObject library (.submission role)
    (staged (.submission role)) staging.ciphertextRef maximumCiphertextBytes reconciled
  let enrollment ← lift (deriveEnrollment library request staging)
  publishEnrollment library role enrollment
  let artifactObject ← publishStagedObject library (.submissionManifest role)
    (staged (.submissionManifest role)) staging.artifactRef maxManifestBytes reconciled
  let created ← createJournal (.completed role) (.completion
    { schemaVersion := importCompletionSchema
      verificationDigest := digest
      caseID := verification.caseID
      role := verification.role
      artifactObject
      ciphertextObject
      importedAtUnix := request.now })
  throwIf (created = false) (thrown .store)
  pure ⟨digest, artifactObject, ciphertextObject, reconciled, request.now⟩

def publishParticipantOriginatedArtifact (request : ImportRequest) : ImportTask ImportReport := do
  let role := request.expected.role
  let verification ← inspecting (verifyStagedArtifact library parseTime request)
  let digest ← lift (verification.digest library role)
  let staging ← inspecting (loadStaging library parseTime request verification)
  let seen ← look
  throwIf (seen (.inr (.completed role))).isSome (thrown .participantImportReplay)
  publishStaged library request verification digest staging

end

end Mordant.GovernedFhe
