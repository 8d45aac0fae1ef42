/-
# The two enrollments of a case

A stored record carries a participant's signature and describes the enrollment that the
signature is over.  The enrollment itself is derived from the case and the participant's
artifact whenever a record is read, and the signature is checked against the derivation.
-/

import Mordant.GovernedFhe.Loading

namespace Mordant.GovernedFhe

open Evm Foundation
open Coalition (Digest Word64 Runtime IssuerRecord AuthorizationClaim
  CiphertextEnrollmentV5 SignedCiphertextEnrollmentV5 PairedEnrollmentsV5 hexText bytes32Hex
  circuitSideEncoded enrollmentAuthorizationCommitment verifyEnrollmentV5 pairEnrollmentsV5)

/-- `deployedCaseAdapters`: for each asset, the adapter that consumes a release for it. -/
def deployedCaseAdapters : List (Digest × Address) :=
  [(0x7613136ebe7efb777c78cdf8bd73a5a3e5604b005875e05e1427cce9dbc4c95c,
    0x9cD93089E02d301BDdfC86EaAbB39242272cAfa1)]

/-- `ErrEnrollmentV5`, and what it adds. -/
def enrollmentError (detail : String) : Thrown := ⟨.enrollmentV5, detail, .other⟩

def settlementVaultForAsset (assetIdentity : Digest) : Except Thrown Address :=
  require (enrollmentError "no deployed case adapter") (deployedCaseAdapters.lookup assetIdentity)

def enrollmentSlotForRole : Role → BitVec 8
  | .a => 0
  | .b => 1

structure EnrollmentCaseFacts where
  caseID : Digest
  assetIdentity : Digest
  policyID : Digest
  policyVersion : BitVec 32
  circuitVersion : BitVec 32
  circuitDigest : Digest
  parameterFingerprint : Digest
  publicKeyDigest : Digest
  caseBindingDigest : Digest
  participantA : ParticipantIdentity
  participantB : ParticipantIdentity
  createdAtUnix : ℤ
  expiresAtUnix : ℤ

def EnrollmentCaseFacts.participant (facts : EnrollmentCaseFacts) : Role → ParticipantIdentity
  | .a => facts.participantA
  | .b => facts.participantB

def EnrollmentCaseFacts.validate (facts : EnrollmentCaseFacts) : Except Thrown Unit :=
  revertIf (facts.caseID = 0 ∨ facts.assetIdentity = 0 ∨ facts.policyID = 0 ∨
      facts.circuitDigest = 0 ∨ facts.parameterFingerprint = 0 ∨ facts.publicKeyDigest = 0 ∨
      facts.caseBindingDigest = 0 ∨ facts.policyVersion ≠ Coalition.policyVersion ∨
      facts.circuitVersion ≠ Coalition.circuitV5Version ∨
      passes (facts.participantA.validate .a) = false ∨
      passes (facts.participantB.validate .b) = false ∨
      facts.participantA.id = facts.participantB.id ∨
      facts.createdAtUnix ≤ 0 ∨ facts.expiresAtUnix ≤ facts.createdAtUnix)
    (enrollmentError "incomplete case facts")

section

variable (library : Library)

def enrollmentCaseFactsFromBinding (binding : FHECaseBinding) :
    Except Thrown EnrollmentCaseFacts := do
  binding.validate library
  let facts : EnrollmentCaseFacts :=
    { caseID := binding.caseID
      assetIdentity := binding.assetIdentity
      policyID := binding.policyID
      policyVersion := binding.policyVersion
      circuitVersion := binding.circuitVersion
      circuitDigest := binding.circuitDigest
      parameterFingerprint := binding.parameterFingerprint
      publicKeyDigest := binding.publicKeyDigest
      caseBindingDigest := binding.digest library
      participantA := binding.participantA
      participantB := binding.participantB
      createdAtUnix := binding.createdAtUnix
      expiresAtUnix := binding.expiresAtUnix }
  facts.validate
  pure facts

/-- A text of its own domain. -/
def domainBytes (domain : String) : Bytes := stringBytes domain ++ [0]

def enrollmentRoleDigest (role : Role) : Digest :=
  library.sha256 (domainBytes "MordantEnrollmentRole/v1" ++ stringBytes role.text)

def participantCircuitSideDigest (pledge : CipherPledge) : Except Thrown Digest := do
  let receivable ← require (enrollmentError "malformed pledge") pledge.receivableIDBits
  pure (library.keccak256 (circuitSideEncoded pledge.policyBits pledge.currencyBits receivable))

def buildParticipantEnrollmentV5 (facts : EnrollmentCaseFacts)
    (artifact : EncryptedParticipantArtifact) (artifactDigest : Digest) (role : Role)
    (circuitInputs : Digest) : Except Thrown CiphertextEnrollmentV5 := do
  facts.validate
  let own := facts.participant role
  let counterparty := facts.participant role.other
  let vault ← settlementVaultForAsset facts.assetIdentity
  revertIf (artifact.caseID ≠ facts.caseID ∨
      artifact.caseBindingDigest ≠ facts.caseBindingDigest ∨
      artifact.participantRole ≠ role.text ∨ artifact.participantID ≠ own.id ∨
      artifact.publicKeyDigest ≠ facts.publicKeyDigest ∨
      artifact.parameterFingerprint ≠ facts.parameterFingerprint ∨
      artifact.circuitDigest ≠ facts.circuitDigest ∨ artifactDigest = 0 ∨
      artifact.submissionNonce = 0 ∨ artifact.ciphertextObject.digest = 0 ∨ circuitInputs = 0)
    (enrollmentError "artifact does not bind this case and role")
  revertIf (artifact.expiresAtUnix ≤ 0 ∨ artifact.expiresAtUnix > facts.expiresAtUnix ∨
      artifact.expiresAtUnix ≤ facts.createdAtUnix)
    (enrollmentError "enrollment window escapes the case window")
  let inputCommitment := library.sha256 (domainBytes "MordantEnrollmentInputCommitment/v1" ++
    [facts.caseID, enrollmentRoleDigest library role, artifact.ciphertextObject.digest,
      artifact.submissionNonce].flatMap wordBytes ++ wordBytes circuitInputs)
  let governanceRecord := library.sha256 (domainBytes "MordantEnrollmentGovernanceRecord/v1" ++
    [facts.caseBindingDigest, own.id].flatMap wordBytes ++ own.signingPublicKey)
  let claim : AuthorizationClaim :=
    { subjectCommitment := own.id
      role := enrollmentRoleDigest library role
      vault
      policyID := facts.policyID
      policyVersion := facts.policyVersion
      validUntil := BitVec.ofInt 64 facts.expiresAtUnix
      nonce := artifact.submissionNonce }
  let authorizationCommitment ← (enrollmentAuthorizationCommitment library.keccak256 claim
    facts.publicKeyDigest).mapError enrollmentError
  pure
    { version := Coalition.enrollmentV5Version
      binding :=
        { sessionCommitment := facts.caseBindingDigest
          sessionNullifier := library.sha256 (domainBytes "MordantEnrollmentSessionNullifier/v1" ++
            wordBytes facts.caseBindingDigest)
          ownScopeCommitment := own.id
          counterpartyScopeCommitment := counterparty.id
          governanceRecord
          sourceRecordCommitment := artifactDigest
          authorizationEpoch := 1
          submissionBudgetEpoch := 1
          inputSlot := enrollmentSlotForRole role }
      circuitVersion := facts.circuitVersion
      ciphertextDigest := circuitInputs
      inputCommitment
      keyID := facts.publicKeyDigest
      parameterFingerprint := facts.parameterFingerprint
      policyID := facts.policyID
      policyVersion := facts.policyVersion
      identityMode := Coalition.identityFullFHE256
      authorizationClaim := claim
      authorizationCommitment
      issuerKeyID := library.sha256 own.signingPublicKey
      issuedAt := BitVec.ofInt 64 facts.createdAtUnix
      validUntil := BitVec.ofInt 64 artifact.expiresAtUnix
      nonce := artifact.submissionNonce }

def assembleEnrollmentRecord (facts : EnrollmentCaseFacts)
    (artifact : EncryptedParticipantArtifact) (artifactDigest : Digest) (role : Role)
    (circuitInputs : Digest) (signature : Bytes) : Except Thrown ParticipantEnrollmentV5 := do
  let enrollment ←
    buildParticipantEnrollmentV5 library facts artifact artifactDigest role circuitInputs
  let identity := facts.participant role
  let signingDigest := enrollment.signingDigest library.keccak256
  revertIf (signature.length ≠ 64 ∨ library.ed25519Verify identity.signingPublicKey
      (wordBytes signingDigest) signature = false)
    (enrollmentError "signature is not from the key admitted for the role")
  let vault ← settlementVaultForAsset facts.assetIdentity
  pure
    { schemaVersion := enrollmentV5Schema
      role := role.text
      caseID := facts.caseID
      caseBindingDigest := facts.caseBindingDigest
      participantID := identity.id
      artifactDigest
      ciphertextDigest := artifact.ciphertextObject.digest
      circuitInputsDigest := bytes32Hex circuitInputs
      settlementVault := "0x" ++ hexText ((wordBytes (addressWord vault)).drop 12)
      issuedAtUnix := facts.createdAtUnix
      validUntilUnix := artifact.expiresAtUnix
      enrollmentSigningDigest := bytes32Hex signingDigest
      signature }

/-- `reconstructParticipantEnrollmentV5`. The signature of the rebuilt record is the
record's own, and its schema and role were compared before. -/
def reconstructParticipantEnrollmentV5 (facts : EnrollmentCaseFacts)
    (artifact : EncryptedParticipantArtifact) (artifactDigest : Digest) (role : Role)
    (circuitInputs : Digest) (record : ParticipantEnrollmentV5) :
    Except Thrown SignedCiphertextEnrollmentV5 := do
  revertIf (record.schemaVersion ≠ enrollmentV5Schema ∨ record.role ≠ role.text)
    (enrollmentError "malformed enrollment record")
  let rebuilt ← assembleEnrollmentRecord library facts artifact artifactDigest role circuitInputs
    record.signature
  revertIf (rebuilt ≠ record) (enrollmentError "enrollment record does not match")
  let enrollment ←
    buildParticipantEnrollmentV5 library facts artifact artifactDigest role circuitInputs
  pure ⟨enrollment, record.signature⟩

/-! ## The trust store of a case -/

def registerEnrollmentIssuer (runtime : Runtime) (publicKey : Bytes) (validFrom validUntil : ℤ) :
    Except Thrown Runtime := do
  revertIf (publicKey.length ≠ 32 ∨ validFrom < 0 ∨ validUntil < 0 ∨ validUntil ≤ validFrom)
    (enrollmentError "unknown enrollment issuer")
  let keyID := library.sha256 publicKey
  revertIf ((runtime.trustedIssuers keyID).any (·.revoked) = true)
    (enrollmentError "revoked enrollment issuer")
  let issuer : IssuerRecord :=
    ⟨publicKey, BitVec.ofInt 64 validFrom, BitVec.ofInt 64 validUntil, false⟩
  pure { runtime with
    trustedIssuers := Function.update runtime.trustedIssuers keyID (some issuer) }

def registerCaseEnrollmentIssuers (runtime : Runtime) (binding : FHECaseBinding) :
    Except Thrown Runtime := do
  let facts ← enrollmentCaseFactsFromBinding library binding
  let runtime ← registerEnrollmentIssuer library runtime facts.participantA.signingPublicKey
    facts.createdAtUnix facts.expiresAtUnix
  registerEnrollmentIssuer library runtime facts.participantB.signingPublicKey
    facts.createdAtUnix facts.expiresAtUnix

def requireIssuerIsRoleKey (signed : SignedCiphertextEnrollmentV5)
    (identity : ParticipantIdentity) : Except Thrown Unit :=
  revertIf (signed.enrollment.issuerKeyID ≠ library.sha256 identity.signingPublicKey)
    (enrollmentError "enrollment was not issued by the role's admitted key")

/-! ## The check of both -/

def verifyCaseEnrollmentsV5 (runtime : Runtime) (binding : FHECaseBinding)
    (participants : ValidatedFreshParticipants) (recordA recordB : ParticipantEnrollmentV5)
    (now : ℤ) : Except Thrown PairedEnrollmentsV5 := do
  let facts ← enrollmentCaseFactsFromBinding library binding
  let sideA ← participantCircuitSideDigest library participants.pledgeA
  let sideB ← participantCircuitSideDigest library participants.pledgeB
  let signedA ← reconstructParticipantEnrollmentV5 library facts participants.artifactA
    participants.digestA .a sideA recordA
  let signedB ← reconstructParticipantEnrollmentV5 library facts participants.artifactB
    participants.digestB .b sideB recordB
  let runtime ← registerCaseEnrollmentIssuers library runtime binding
  requireIssuerIsRoleKey library signedA facts.participantA
  requireIssuerIsRoleKey library signedB facts.participantB
  let _ ← (verifyEnrollmentV5 library.keccak256 library.ed25519Verify runtime signedA
    now).mapError enrollmentError
  let _ ← (verifyEnrollmentV5 library.keccak256 library.ed25519Verify runtime signedB
    now).mapError enrollmentError
  let paired ← (pairEnrollmentsV5 library.keccak256 signedA signedB).mapError enrollmentError
  revertIf (signedA.enrollment.authorizationClaim.vault ≠
      signedB.enrollment.authorizationClaim.vault)
    (enrollmentError "participants named different settlement vaults")
  revertIf (paired.sessionCommitment ≠ facts.caseBindingDigest ∨
      paired.ciphertextDigestA ≠ sideA ∨ paired.ciphertextDigestB ≠ sideB ∨
      paired.scopeCommitmentA ≠ facts.participantA.id ∨
      paired.scopeCommitmentB ≠ facts.participantB.id)
    (enrollmentError "paired enrollments do not authorize this case")
  pure paired

def loadCaseEnrollmentsV5 (seen : PublicObject → Option Bytes) :
    Except Thrown (ParticipantEnrollmentV5 × ParticipantEnrollmentV5) := do
  let (recordA, _) ← (readJSON library .participantEnrollment (seen (.enrollment .a))).mapError
    fun _ => enrollmentError "participant A record"
  let (recordB, _) ← (readJSON library .participantEnrollment (seen (.enrollment .b))).mapError
    fun _ => enrollmentError "participant B record"
  pure (recordA, recordB)

end

end Mordant.GovernedFhe
