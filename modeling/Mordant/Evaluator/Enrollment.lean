/-
# Ciphertext enrollments

An issuer signs, for one ciphertext, under which policy, for which input and until when it may
be evaluated.  The evaluator verifies the enrollments of both sides of a request against its own
trust store, and takes the digest that was signed as the enrollment's id.

Requests carry times with their nanoseconds, enrollments whole seconds.  A pledge and its
enrollment are there: a reference to nothing is excluded by type.
-/

import Mordant.Evaluator.Pledge

namespace Mordant.Evaluator

open Evm Foundation
open Coalition (AuthorizationClaim IdentityMode IssuerRecord Word64 identityModeWord
  identityPublicCommitment identityFullFHE256 policyVersion enrollmentAuthorizationCommitment)

/-- `time.Time`: nanoseconds since 1970. -/
abbrev Time := ℤ

/-- `Time.Unix`: whole seconds, rounded down. -/
def Time.unix (time : Time) : ℤ := time / 1000000000

def enrollmentVersion : BitVec 16 := 1

structure InputCommitmentContext where
  chainID : BitVec 256
  vault : Address
  policyID : Bytes32
  policyVersion : BitVec 32
  inputSlot : BitVec 8
  clientNonce : BitVec 256

structure CiphertextEnrollment where
  version : BitVec 16
  ciphertextDigest : Bytes32
  keyID : Bytes32
  parameterFingerprint : Bytes32
  policyVersion : BitVec 32
  identityMode : IdentityMode
  inputContext : InputCommitmentContext
  authorizationClaim : AuthorizationClaim
  authorizationCommitment : Bytes32
  issuerKeyID : Bytes32
  issuedAt : Word64
  validUntil : Word64
  nonce : Bytes32

structure SignedCiphertextEnrollment where
  enrollment : CiphertextEnrollment
  signature : Bytes

structure EvaluationRequest (C : Type) where
  keyID : Bytes
  policyVersion : BitVec 32
  nonce : Bytes32
  validUntil : Time
  identityMode : IdentityMode
  a : CipherPledge C
  b : CipherPledge C
  enrollmentA : Option SignedCiphertextEnrollment
  enrollmentB : Option SignedCiphertextEnrollment

structure IngressGrant where
  keyID : Bytes
  policyVersion : BitVec 32
  validUntil : Time

/-- `Runtime`, as far as an evaluation reads and writes it. -/
structure Runtime where
  /-- `Params.N`. -/
  ringDegree : ℕ
  maxLevel : ℤ
  keyID : Bytes
  keyIDBytes : Bytes32
  parameterFingerprint : Bytes32
  usedNonce : Bytes32 → Bool
  usedEnrollments : Bytes32 → Bool
  authorizedIngress : Bytes32 → Option IngressGrant
  issuedCiphertexts : Bytes32 → Bool
  trustedIssuers : Bytes32 → Option IssuerRecord

def validateEnrollmentShape (enrollment : CiphertextEnrollment) : Except String Unit := do
  revertIf (enrollment.version ≠ enrollmentVersion ∨ enrollment.ciphertextDigest = 0 ∨
      enrollment.keyID = 0 ∨ enrollment.parameterFingerprint = 0 ∨
      enrollment.policyVersion ≠ Coalition.policyVersion ∨
      enrollment.authorizationCommitment = 0 ∨ enrollment.issuerKeyID = 0 ∨
      enrollment.issuedAt = 0 ∨ enrollment.validUntil = 0 ∨
      enrollment.issuedAt > enrollment.validUntil ∨ enrollment.nonce = 0)
    "malformed ciphertext enrollment"
  revertIf (enrollment.identityMode ≠ identityPublicCommitment ∧
      enrollment.identityMode ≠ identityFullFHE256)
    "malformed ciphertext enrollment"
  let context := enrollment.inputContext
  let claim := enrollment.authorizationClaim
  revertIf (context.chainID = 0 ∨ context.vault = 0 ∨ context.policyID = 0 ∨
      context.policyVersion ≠ enrollment.policyVersion ∨ context.inputSlot > 1)
    "malformed ciphertext enrollment"
  revertIf (claim.subjectCommitment = 0 ∨ claim.role = 0 ∨ claim.vault ≠ context.vault ∨
      claim.policyID ≠ context.policyID ∨ claim.policyVersion ≠ enrollment.policyVersion ∨
      claim.validUntil = 0 ∨ claim.validUntil < enrollment.validUntil)
    "unauthorized ingress commitment"

def sameEnrollmentContext (a b : CiphertextEnrollment) : Prop :=
  a.inputContext.chainID = b.inputContext.chainID ∧ a.inputContext.vault = b.inputContext.vault ∧
    a.inputContext.policyID = b.inputContext.policyID ∧
    a.inputContext.policyVersion = b.inputContext.policyVersion

instance (a b : CiphertextEnrollment) : Decidable (sameEnrollmentContext a b) :=
  inferInstanceAs (Decidable (_ ∧ _))

section

variable {C : Type} (library : CiphertextLibrary C) (keccak256 : Bytes → Bytes32)

def enrollmentSigningDigest (enrollment : CiphertextEnrollment) : Bytes32 :=
  let context := enrollment.inputContext
  let claim := enrollment.authorizationClaim
  keccak256 (abiEncode
    [keccak256 (stringBytes "MordantCiphertextEnrollment/v1"), uintWord enrollment.version.toNat,
      enrollment.ciphertextDigest, enrollment.keyID, enrollment.parameterFingerprint,
      uintWord enrollment.policyVersion.toNat, identityModeWord enrollment.identityMode,
      context.chainID, addressWord context.vault, context.policyID,
      uintWord context.policyVersion.toNat, uintWord context.inputSlot.toNat,
      context.clientNonce, claim.subjectCommitment, claim.role, addressWord claim.vault,
      claim.policyID, uintWord claim.policyVersion.toNat, uintWord claim.validUntil.toNat,
      claim.nonce, enrollment.authorizationCommitment, enrollment.issuerKeyID,
      uintWord enrollment.issuedAt.toNat, uintWord enrollment.validUntil.toNat,
      enrollment.nonce])

def verifyExternalEnrollment (ed25519Verify : Bytes → Bytes → Bytes → Bool) (runtime : Runtime)
    (pledge : CipherPledge C) (signed : SignedCiphertextEnrollment)
    (request : EvaluationRequest C) (expectedSlot : BitVec 8) (now : Time) :
    Except String Bytes32 := do
  let enrollment := signed.enrollment
  validateEnrollmentShape enrollment
  revertIf (enrollment.keyID ≠ runtime.keyIDBytes ∨
      enrollment.parameterFingerprint ≠ runtime.parameterFingerprint ∨
      pledge.keyID ≠ runtime.keyID ∨
      pledge.parameterFingerprint ≠ runtime.parameterFingerprint)
    "wrong key id"
  revertIf (enrollment.policyVersion ≠ request.policyVersion ∨
      enrollment.identityMode ≠ request.identityMode ∨
      enrollment.inputContext.policyVersion ≠ request.policyVersion ∨
      enrollment.inputContext.inputSlot ≠ expectedSlot)
    "wrong policy version"
  revertIf (request.validUntil.unix < 0 ∨
      BitVec.ofInt 64 request.validUntil.unix > enrollment.validUntil)
    "request expired"
  let nowUnix : Word64 := BitVec.ofInt 64 now.unix
  revertIf (now.unix < 0 ∨ nowUnix < enrollment.issuedAt ∨ nowUnix > enrollment.validUntil)
    "request expired"
  revertIf ((cipherPledgeDigestBytes library keccak256 pledge).toOption ≠
      some enrollment.ciphertextDigest)
    "malformed ciphertext enrollment"
  let commitment := enrollmentAuthorizationCommitment keccak256 enrollment.authorizationClaim
    runtime.keyIDBytes
  revertIf (commitment.toOption ≠ some enrollment.authorizationCommitment ∨
      commitment.toOption ≠ some pledge.authorizationCommitment)
    "unauthorized ingress commitment"
  let issuer ← require "unknown enrollment issuer" (runtime.trustedIssuers enrollment.issuerKeyID)
  revertIf (issuer.revoked = true) "revoked enrollment issuer"
  revertIf (enrollment.issuedAt < issuer.validFrom ∨ enrollment.validUntil > issuer.validUntil ∨
      nowUnix < issuer.validFrom ∨ nowUnix > issuer.validUntil)
    "request expired"
  let digest := enrollmentSigningDigest keccak256 enrollment
  revertIf (ed25519Verify issuer.publicKey (wordBytes digest) signed.signature = false)
    "invalid enrollment signature"
  pure digest

/-- `externalEnrollmentIDs`: none where no side is enrolled, else one id for each side. -/
def externalEnrollmentIDs (ed25519Verify : Bytes → Bytes → Bytes → Bool) (runtime : Runtime)
    (request : EvaluationRequest C) (now : Time) : Except String (List Bytes32) :=
  match request.enrollmentA, request.enrollmentB with
  | none, none => pure []
  | some enrollmentA, some enrollmentB => do
    revertIf (¬ sameEnrollmentContext enrollmentA.enrollment enrollmentB.enrollment)
      "malformed ciphertext enrollment"
    let idA ← verifyExternalEnrollment library keccak256 ed25519Verify runtime request.a
      enrollmentA request 0 now
    let idB ← verifyExternalEnrollment library keccak256 ed25519Verify runtime request.b
      enrollmentB request 1 now
    revertIf (idA = idB) "ciphertext enrollment already used"
    pure [idA, idB]
  | _, _ => .error "malformed ciphertext enrollment"

end

end Mordant.Evaluator
