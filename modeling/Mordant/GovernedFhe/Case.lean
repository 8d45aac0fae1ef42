/-
# The objects of a governed case

A case lives in two stores: a public one, which participants, the evaluator and the
decryptor write to, and the decryptor's private one.  Most objects are JSON documents,
read strictly: what is decoded must encode to the same bytes.

`Library` collects what the package calls and does not implement: hashes, signatures, JSON
and the FHE library.
-/

import Mordant.Coalition.Operator
import Mordant.Foundation.CreateOnce

namespace Mordant.GovernedFhe

open Evm Foundation
open Coalition (Digest Word64 Ciphertext CircuitInputsV5 CircuitOutputsV5 IdentityMode
  Runtime CiphertextEnrollmentV5 SignedCiphertextEnrollmentV5)

/-! ## Errors -/

/-- The errors that are wrapped. -/
inductive Sentinel
  | binding
  | artifact
  | store
  | releaseConsumed
  | releaseAmbiguous
  | evaluatorMismatch
  | ciphertextValidation
  | recomputeAdmission
  | resourceAdmission
  | enrollmentV5
  | participantOriginated
  | participantImportReplay
  | participantRoleOccupied
  | participantImportMismatch
  | recourse
  deriving DecidableEq

/-- What was refused: public case material that is read before a recomputation is
admitted, evaluation material that is read behind the admission, or something else.
Nothing reads it. -/
inductive Origin
  | caseMaterial
  | evaluationMaterial
  | other
  deriving DecidableEq

structure Thrown where
  sentinel : Sentinel
  detail : String := ""
  origin : Origin := .other

/-! ## Objects -/

inductive Role
  | a
  | b
  deriving DecidableEq

def Role.other : Role → Role
  | .a => .b
  | .b => .a

/-- The objects of the public store that this development reads or writes. -/
inductive PublicObject
  | parameters
  | publicKey
  | relinearizationKey
  | galoisKey (index : ℕ)
  | caseCrypto
  | caseBinding
  | caseManifest
  | submission (role : Role)
  | submissionManifest (role : Role)
  | enrollment (role : Role)
  | evaluationAdmission
  | evaluationCompleted
  | resultCiphertext
  | evaluatedArtifact
  | releaseAuthority
  | publicResult
  | recourseClock
  | recourseRecord
  | protectionBinding
  | protectionSignature (role : Role)
  deriving DecidableEq

/-- The objects of the private store. -/
inductive PrivateObject
  | secretKey
  | decryptorSigningKey
  | privateCase
  | recomputeAdmission
  | recomputedResult
  | recomputeVerified
  | recomputeMismatch
  | releaseAdmission
  | releaseConsumed
  | retainedResult
  deriving DecidableEq

/-- `%02d`. -/
def twoDigits (n : ℕ) : String := if n < 10 then "0" ++ toString n else toString n

def PublicObject.name : PublicObject → String
  | parameters => "parameters.bin"
  | publicKey => "public-key.bin"
  | relinearizationKey => "relinearization-key.bin"
  | galoisKey index => "galois-key-" ++ twoDigits index ++ ".bin"
  | caseCrypto => "case-crypto.json"
  | caseBinding => "case-binding.json"
  | caseManifest => "case-manifest.json"
  | submission .a => "submission-a.bin"
  | submission .b => "submission-b.bin"
  | submissionManifest .a => "submission-a.json"
  | submissionManifest .b => "submission-b.json"
  | enrollment .a => "participant-enrollment-a.json"
  | enrollment .b => "participant-enrollment-b.json"
  | evaluationAdmission => "evaluation-admitted.json"
  | evaluationCompleted => "evaluation-completed.json"
  | resultCiphertext => "result-conflict.bin"
  | evaluatedArtifact => "evaluated-conflict.json"
  | releaseAuthority => "release-authority.json"
  | publicResult => "governed-conflict-result.json"
  | recourseClock => "recourse-clock-binding.json"
  | recourseRecord => "recourse-record.json"
  | protectionBinding => "protection-binding.json"
  | protectionSignature .a => "protection-binding-signature-a.json"
  | protectionSignature .b => "protection-binding-signature-b.json"

def PrivateObject.name : PrivateObject → String
  | secretKey => "secret-key.bin"
  | decryptorSigningKey => "decryptor-signing-key.bin"
  | privateCase => "private-case.json"
  | recomputeAdmission => "recompute-admitted.json"
  | recomputedResult => "recomputed-conflict.bin"
  | recomputeVerified => "recompute-verified.json"
  | recomputeMismatch => "recompute-mismatch.json"
  | releaseAdmission => "release-admitted.json"
  | releaseConsumed => "release-consumed.json"
  | retainedResult => "retained-governed-result.json"

structure ObjectRef where
  path : String
  digest : Digest
  length : ℤ
  deriving DecidableEq

def ObjectRef.validate (ref : ObjectRef) (expectedPath : String) (maximum : ℤ) :
    Except Thrown Unit :=
  revertIf (ref.path ≠ expectedPath ∨ ref.digest = 0 ∨ ref.length ≤ 0 ∨ ref.length > maximum)
    ⟨.artifact, "", .other⟩

def maxManifestBytes : ℕ := 4 * 2 ^ 20

/-! ## The case -/

structure ParticipantIdentity where
  id : Digest
  role : String
  signingPublicKey : Bytes
  deriving DecidableEq

def Role.text : Role → String
  | .a => "PARTICIPANT_A"
  | .b => "PARTICIPANT_B"

structure FHECaseBinding where
  schemaVersion : String
  caseID : Digest
  assetIdentity : Digest
  serviceID : String
  serviceVersion : BitVec 32
  policyID : Digest
  policyVersion : BitVec 32
  circuitID : String
  circuitVersion : BitVec 32
  circuitDigest : Digest
  parameterProfile : String
  parameterFingerprint : Digest
  publicKeyDigest : Digest
  evaluationKeyManifestDigest : Digest
  participantA : ParticipantIdentity
  participantB : ParticipantIdentity
  participantOrder : List Digest
  inputSchema : String
  resultSchema : String
  releaseMode : String
  releaseAuthorityID : Digest
  releaseAuthorityPublicKey : Bytes
  caseNonce : Digest
  createdAtUnix : ℤ
  expiresAtUnix : ℤ
  deriving DecidableEq

structure GaloisKeyRef where
  index : BitVec 32
  step : ℤ
  element : Word64
  object : ObjectRef
  deriving DecidableEq

structure EvaluationKeyManifest where
  relinearizationKey : ObjectRef
  galoisKeys : List GaloisKeyRef
  deriving DecidableEq

structure CaseCryptoManifest where
  schemaVersion : String
  parameters : ObjectRef
  publicKey : ObjectRef
  evaluationKeys : EvaluationKeyManifest
  deriving DecidableEq

/-- What a participant signs of a binding. -/
structure ParticipantBindingStatement where
  role : String
  participantID : Digest
  bindingDigest : Digest
  deriving DecidableEq

structure ParticipantBindingSignature extends ParticipantBindingStatement where
  signature : Bytes
  deriving DecidableEq

structure FHECaseManifest where
  schemaVersion : String
  binding : FHECaseBinding
  crypto : CaseCryptoManifest
  signatureA : ParticipantBindingSignature
  signatureB : ParticipantBindingSignature
  deriving DecidableEq

structure ReleaseAuthorityManifest where
  schemaVersion : String
  caseID : Digest
  caseBindingDigest : Digest
  releaseMode : String
  authorityID : Digest
  signingPublicKey : Bytes
  sourceProvenance : Digest
  signature : Bytes
  deriving DecidableEq

/-! ## What participants and the evaluator publish -/

structure CiphertextComponentRef where
  name : String
  digest : Digest
  length : ℤ
  deriving DecidableEq

structure EncryptedParticipantArtifact where
  schemaVersion : String
  caseBindingDigest : Digest
  caseID : Digest
  assetIdentity : Digest
  participantID : Digest
  participantRole : String
  publicKeyDigest : Digest
  parameterProfile : String
  parameterFingerprint : Digest
  circuitDigest : Digest
  inputSchema : String
  ciphertextObject : ObjectRef
  components : List CiphertextComponentRef
  submissionNonce : Digest
  expiresAtUnix : ℤ
  signature : Bytes
  deriving DecidableEq

structure ParticipantEnrollmentV5 where
  schemaVersion : String
  role : String
  caseID : Digest
  caseBindingDigest : Digest
  participantID : Digest
  artifactDigest : Digest
  ciphertextDigest : Digest
  circuitInputsDigest : String
  settlementVault : String
  issuedAtUnix : ℤ
  validUntilUnix : ℤ
  enrollmentSigningDigest : String
  signature : Bytes
  deriving DecidableEq

structure EvaluatedConflictArtifact where
  schemaVersion : String
  caseID : Digest
  caseBindingDigest : Digest
  assetIdentity : Digest
  participantArtifactDigests : List Digest
  publicKeyDigest : Digest
  parameterProfile : String
  parameterFingerprint : Digest
  circuitID : String
  circuitVersion : BitVec 32
  circuitDigest : Digest
  resultCiphertext : ObjectRef
  resultCiphertextCommitment : Digest
  outputSchema : String
  outputSlot : BitVec 32
  evaluatorProvenance : Digest
  evaluatedAtUnix : ℤ
  deriving DecidableEq

structure EvaluationAdmission where
  schemaVersion : String
  caseID : Digest
  caseBindingDigest : Digest
  participantArtifactDigests : List Digest
  evaluatorProvenance : Digest
  admittedAtUnix : ℤ
  deriving DecidableEq

structure EvaluationCompleted where
  schemaVersion : String
  caseID : Digest
  caseBindingDigest : Digest
  evaluatedArtifactDigest : Digest
  resultCiphertextDigest : Digest
  resultCiphertextCommitment : Digest
  completedAtUnix : ℤ
  deriving DecidableEq

/-! ## What the decryptor keeps -/

structure RecomputeAdmission where
  schemaVersion : String
  caseID : Digest
  caseBindingDigest : Digest
  participantArtifactDigests : List Digest
  evaluatedArtifactDigest : Digest
  admittedAtUnix : ℤ
  deriving DecidableEq

structure RecomputeVerified where
  schemaVersion : String
  caseID : Digest
  caseBindingDigest : Digest
  evaluatedArtifactDigest : Digest
  recomputedResultCiphertext : ObjectRef
  resultCiphertextCommitment : Digest
  verifiedAtUnix : ℤ
  deriving DecidableEq

structure RecomputeMismatch where
  schemaVersion : String
  caseID : Digest
  caseBindingDigest : Digest
  evaluatedArtifactDigest : Digest
  evaluatorResultCiphertextDigest : Digest
  recomputedResultCiphertextDigest : Digest
  errorCode : String
  detectedAtUnix : ℤ
  deriving DecidableEq

structure ReleaseAdmission where
  schemaVersion : String
  caseID : Digest
  caseBindingDigest : Digest
  evaluatedArtifactDigest : Digest
  releaseOrdinal : BitVec 32
  releaseMode : String
  admittedAtUnix : ℤ
  deriving DecidableEq

structure ReleaseConsumed where
  schemaVersion : String
  caseID : Digest
  evaluatedArtifactDigest : Digest
  resultDigest : Digest
  consumedAtUnix : ℤ
  deriving DecidableEq

structure PrivateCaseManifest where
  schemaVersion : String
  caseID : Digest
  caseBindingDigest : Digest
  secretKey : ObjectRef
  signingKey : ObjectRef
  releaseAuthorityID : Digest
  deriving DecidableEq

structure GovernedConflictResult where
  schemaVersion : String
  caseID : Digest
  caseBindingDigest : Digest
  assetIdentity : Digest
  serviceID : String
  serviceVersion : BitVec 32
  policyID : Digest
  policyVersion : BitVec 32
  circuitID : String
  circuitVersion : BitVec 32
  circuitDigest : Digest
  parameterProfile : String
  parameterFingerprint : Digest
  participantArtifactDigests : List Digest
  evaluatedArtifactDigest : Digest
  resultCiphertextDigest : Digest
  resultCiphertextCommitment : Digest
  conflict : Bool
  releaseOrdinal : BitVec 32
  releaseMode : String
  releaseAuthorityID : Digest
  releaseAuthorityPublicKey : Bytes
  releasedAtUnix : ℤ
  sourceProvenance : Digest
  signature : Bytes
  deriving DecidableEq

/-! ## The protection of a case -/

structure ProductAmount where
  asset : String
  minorUnits : String
  deriving DecidableEq

structure ProductHolderAllocation where
  holderID : String
  protectedUnits : String
  allocationBPS : BitVec 32
  deriving DecidableEq

structure MordantProtectionBinding where
  schemaVersion : String
  cleanverseAssetRecordDigest : Digest
  protectionService : String
  protectionServiceVersion : BitVec 32
  policyID : Digest
  policyVersion : BitVec 32
  productScenario : String
  fixtureClassification : String
  protectedAmount : ProductAmount
  reserveBasisPoints : BitVec 32
  reserveAmount : ProductAmount
  holderRecordDate : String
  holderSnapshot : List ProductHolderAllocation
  holderAllocationDigest : Digest
  caseNonce : Digest
  fheCaseID : Digest
  governedReleaseMode : String
  executionVariant : String
  deriving DecidableEq

/-- What `protectionPolicyID` hashes. -/
structure ProtectionPolicy where
  policyVersion : BitVec 32
  service : String
  serviceVersion : BitVec 32

/-- What `protectionHolderAllocationDigest` hashes. -/
structure ProtectedHolderSnapshot where
  assetDigest : Digest
  holders : List ProductHolderAllocation
  recordDate : String

/-- What `protectionFHECaseID` hashes; of the scenario and the variant, it is one of the two. -/
structure ProtectionCase where
  assetDigest : Digest
  caseNonce : Digest
  holderAllocationDigest : Digest
  policyID : Digest
  scenarioOrVariant : String

/-- What a participant signs of a protection. -/
structure ProtectionBindingStatement where
  role : String
  participantID : Digest
  protectionBindingDigest : Digest
  deriving DecidableEq

structure ProtectionBindingSignature extends ProtectionBindingStatement where
  signature : Bytes
  deriving DecidableEq

/-! ## What an import verifies -/

structure ParticipantOriginatedArtifactVerification where
  schemaVersion : String
  role : String
  caseID : Digest
  assetIdentity : Digest
  caseBindingDigest : Digest
  participantID : Digest
  signingKeyDigest : Digest
  bundleDigest : Digest
  parameterProfile : String
  parameterFingerprint : Digest
  fhePublicKeyDigest : Digest
  circuitDigest : Digest
  encryptionIntentDigest : Digest
  claimCommitment : Digest
  submissionNonce : Digest
  artifactDigest : Digest
  ciphertextDigest : Digest
  finalEncryptedAdmissionDigest : Digest
  artifactObject : ObjectRef
  ciphertextObject : ObjectRef
  expiresAtUnix : ℤ
  verifiedAtUnix : ℤ
  deriving DecidableEq

/-! ## What the package calls -/

/-- The documents that are encoded. -/
inductive Document
  | caseBinding
  | evaluationKeys
  | caseCrypto
  | bindingStatement
  | caseManifest
  | releaseAuthority
  | participantArtifact
  | participantEnrollment
  | evaluatedArtifact
  | evaluationAdmission
  | evaluationCompleted
  | recomputeAdmission
  | recomputeVerified
  | recomputeMismatch
  | releaseAdmission
  | releaseConsumed
  | privateCase
  | governedResult
  | protectionPolicy
  | protectedHolders
  | protectionCase
  | protectionVariantCase
  | protectionBinding
  | protectionStatement
  | protectionSignature
  | importVerification

abbrev Document.Value : Document → Type
  | caseBinding => FHECaseBinding
  | evaluationKeys => EvaluationKeyManifest
  | caseCrypto => CaseCryptoManifest
  | bindingStatement => ParticipantBindingStatement
  | caseManifest => FHECaseManifest
  | releaseAuthority => ReleaseAuthorityManifest
  | participantArtifact => EncryptedParticipantArtifact
  | participantEnrollment => ParticipantEnrollmentV5
  | evaluatedArtifact => EvaluatedConflictArtifact
  | evaluationAdmission => EvaluationAdmission
  | evaluationCompleted => EvaluationCompleted
  | recomputeAdmission => RecomputeAdmission
  | recomputeVerified => RecomputeVerified
  | recomputeMismatch => RecomputeMismatch
  | releaseAdmission => ReleaseAdmission
  | releaseConsumed => ReleaseConsumed
  | privateCase => PrivateCaseManifest
  | governedResult => GovernedConflictResult
  | protectionPolicy => ProtectionPolicy
  | protectedHolders => ProtectedHolderSnapshot
  | protectionCase | protectionVariantCase => ProtectionCase
  | protectionBinding => MordantProtectionBinding
  | protectionStatement => ProtectionBindingStatement
  | protectionSignature => ProtectionBindingSignature
  | importVerification => ParticipantOriginatedArtifactVerification

/-- `json.Marshal`, and a decoder that knows the fields and reads one value. -/
structure Codec (α : Type) where
  marshal : α → Bytes
  unmarshal : Bytes → Option α

inductive CustodyModel
  | dealerlessCeremony
  | governedEphemeral
  deriving DecidableEq

structure ExternalClient where
  keyID : String
  keyIDBytes : Digest
  parameterFingerprint : Digest
  custody : CustodyModel

structure CipherPledge where
  keyID : String
  parameterFingerprint : Digest
  policyBits : Ciphertext
  currencyBits : Ciphertext
  amountBits : Ciphertext
  obligationIDBits : Ciphertext
  receivableIDBits : Option Ciphertext
  receivableCommitment : Digest
  authorizationCommitment : Digest
  privateMetadataCommitment : Digest
  deriving DecidableEq

/-- What the package calls and does not implement. Parameters, keys and ciphertexts are
their serialized bytes; what unmarshals to nothing is refused, parameters other than those
of the profile among it. -/
structure Library where
  sha256 : Bytes → Digest
  keccak256 : Bytes → Digest
  ed25519Verify : Bytes → Bytes → Bytes → Bool
  sign : Bytes → Bytes → Bytes
  codec : (document : Document) → Codec document.Value
  parameterFingerprint : Option Digest
  fixedCircuitDigest : Digest
  unmarshalParameters : Bytes → Option Bytes
  unmarshalPublicKey : Bytes → Bytes → Option Bytes
  newCeremonyExternalClient : Bytes → Bytes → Option ExternalClient
  newGovernedExternalClient : Bytes → Bytes → Option ExternalClient
  unmarshalCipherPledge : Bytes → Option CipherPledge
  marshalCipherPledge : CipherPledge → Option Bytes
  freshCiphertext : Bytes → Ciphertext → Bool
  validRelinearizationKey : Bytes → Bytes → Bool
  galoisElements : Bytes → Option (List Word64)
  unmarshalGaloisKey : Bytes → Bytes → Option Word64
  newCoalitionEvaluationRuntime : Bytes → Bytes → Bytes → List Bytes → Option Runtime
  newGovernedEvaluationRuntime : Bytes → Bytes → Bytes → List Bytes → Option Runtime
  recomputeCircuitV5 : Runtime → CircuitInputsV5 → Option Ciphertext
  validSecretKey : Bytes → Bytes → Bool
  decryptSlots : Bytes → Bytes → Ciphertext → Option (List ℕ)

end Mordant.GovernedFhe
