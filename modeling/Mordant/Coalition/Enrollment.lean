/-
# Session enrollments

An issuer signs, for one side of a session, which ciphertexts it submits, under which
policy and until when, and which side it expects to be compared with.  An operator
verifies both signatures against its own trust store and checks that the two enrollments
name each other.

What is signed is one hash over the fields of the enrollment, so where the hash does not
collide an issuer's signature covers every field.
-/

import Mordant.Coalition.SessionLedger

namespace Mordant.Coalition

open Evm Foundation

def circuitV5Version : BitVec 32 := 5
def policyVersion : BitVec 32 := 1
def enrollmentV5Version : BitVec 16 := 5

/-! ## What is signed -/

structure SessionBindingV5 where
  sessionCommitment : Digest
  sessionNullifier : Digest
  ownScopeCommitment : Digest
  counterpartyScopeCommitment : Digest
  governanceRecord : Digest
  sourceRecordCommitment : Digest
  authorizationEpoch : BitVec 32
  submissionBudgetEpoch : BitVec 32
  inputSlot : BitVec 8
  deriving DecidableEq

/-- `IdentityMode`: any text may be read. -/
abbrev IdentityMode := String

def identityPublicCommitment : IdentityMode := "public_salted_commitment"
def identityFullFHE256 : IdentityMode := "full_fhe_256"

structure AuthorizationClaim where
  subjectCommitment : Digest
  role : Digest
  vault : Address
  policyID : Digest
  policyVersion : BitVec 32
  validUntil : Word64
  nonce : BitVec 256
  deriving DecidableEq

structure CiphertextEnrollmentV5 where
  version : BitVec 16
  binding : SessionBindingV5
  circuitVersion : BitVec 32
  ciphertextDigest : Digest
  inputCommitment : Digest
  keyID : Digest
  parameterFingerprint : Digest
  policyID : Digest
  policyVersion : BitVec 32
  identityMode : IdentityMode
  authorizationClaim : AuthorizationClaim
  authorizationCommitment : Digest
  issuerKeyID : Digest
  issuedAt : Word64
  validUntil : Word64
  nonce : Digest
  deriving DecidableEq

structure SignedCiphertextEnrollmentV5 where
  enrollment : CiphertextEnrollmentV5
  signature : Bytes
  deriving DecidableEq

structure IssuerRecord where
  publicKey : Bytes
  validFrom : Word64
  validUntil : Word64
  revoked : Bool

/-- `Runtime`: the public evaluation keys and the enrollment issuers it trusts. -/
structure Runtime where
  keyID : String
  keyIDBytes : Digest
  parameterFingerprint : Digest
  holdsThresholdParties : Bool
  trustedIssuers : Digest → Option IssuerRecord

def SessionBindingV5.validate (binding : SessionBindingV5) : Except String Unit := do
  revertIf (binding.sessionCommitment = 0 ∨ binding.sessionNullifier = 0 ∨
      binding.ownScopeCommitment = 0 ∨ binding.counterpartyScopeCommitment = 0 ∨
      binding.governanceRecord = 0 ∨ binding.sourceRecordCommitment = 0 ∨
      binding.authorizationEpoch = 0 ∨ binding.submissionBudgetEpoch = 0 ∨
      binding.inputSlot > 1)
    "enrollment carries no session binding"
  revertIf (binding.ownScopeCommitment = binding.counterpartyScopeCommitment)
    "enrollment carries no session binding"

def CiphertextEnrollmentV5.validate (enrollment : CiphertextEnrollmentV5) :
    Except String Unit := do
  revertIf (enrollment.version ≠ enrollmentV5Version) "malformed ciphertext enrollment"
  enrollment.binding.validate
  revertIf (enrollment.circuitVersion ≠ circuitV5Version) "malformed ciphertext enrollment"
  revertIf (enrollment.ciphertextDigest = 0 ∨ enrollment.inputCommitment = 0 ∨
      enrollment.keyID = 0 ∨ enrollment.parameterFingerprint = 0 ∨ enrollment.policyID = 0 ∨
      enrollment.policyVersion ≠ Coalition.policyVersion ∨ enrollment.authorizationCommitment = 0 ∨
      enrollment.issuerKeyID = 0 ∨ enrollment.issuedAt = 0 ∨ enrollment.validUntil = 0 ∨
      enrollment.issuedAt > enrollment.validUntil ∨ enrollment.nonce = 0)
    "malformed ciphertext enrollment"
  revertIf (enrollment.identityMode ≠ identityFullFHE256) "malformed ciphertext enrollment"
  let claim := enrollment.authorizationClaim
  revertIf (claim.subjectCommitment = 0 ∨ claim.role = 0 ∨ claim.vault = 0 ∨
      claim.policyID ≠ enrollment.policyID ∨ claim.policyVersion ≠ enrollment.policyVersion ∨
      claim.validUntil = 0 ∨ claim.validUntil < enrollment.validUntil)
    "unauthorized ingress commitment"

def identityModeWord (mode : IdentityMode) : Bytes32 :=
  if mode = identityPublicCommitment then 1 else if mode = identityFullFHE256 then 2 else 0

section

variable (keccak256 : Bytes → Digest)

/-- The bytes that `SessionBindingV5.Digest` hashes. -/
def SessionBindingV5.encoded (binding : SessionBindingV5) : Bytes :=
  abiEncode
    [keccak256 (stringBytes "MordantSessionBinding/v5"), binding.sessionCommitment,
      binding.sessionNullifier, binding.ownScopeCommitment, binding.counterpartyScopeCommitment,
      binding.governanceRecord, binding.sourceRecordCommitment,
      uintWord binding.authorizationEpoch.toNat, uintWord binding.submissionBudgetEpoch.toNat,
      uintWord binding.inputSlot.toNat]

def SessionBindingV5.digest (binding : SessionBindingV5) : Digest :=
  keccak256 (binding.encoded keccak256)

/-- The bytes that `CiphertextEnrollmentV5.SigningDigest` hashes. -/
def CiphertextEnrollmentV5.encoded (enrollment : CiphertextEnrollmentV5) : Bytes :=
  let claim := enrollment.authorizationClaim
  abiEncode
    [keccak256 (stringBytes "MordantCiphertextEnrollment/v5"), uintWord enrollment.version.toNat,
      enrollment.binding.digest keccak256, uintWord enrollment.circuitVersion.toNat,
      enrollment.ciphertextDigest, enrollment.inputCommitment, enrollment.keyID,
      enrollment.parameterFingerprint, enrollment.policyID,
      uintWord enrollment.policyVersion.toNat, identityModeWord enrollment.identityMode,
      claim.subjectCommitment, claim.role, addressWord claim.vault, claim.policyID,
      uintWord claim.policyVersion.toNat, uintWord claim.validUntil.toNat, claim.nonce,
      enrollment.authorizationCommitment, enrollment.issuerKeyID,
      uintWord enrollment.issuedAt.toNat, uintWord enrollment.validUntil.toNat, enrollment.nonce]

def CiphertextEnrollmentV5.signingDigest (enrollment : CiphertextEnrollmentV5) : Digest :=
  keccak256 (enrollment.encoded keccak256)

def submitterAuthorizationType : String :=
  "ConfidentialSubmitterAuthorization(bytes32 subjectCommitment,bytes32 role,address vault," ++
    "bytes32 policyId,uint32 policyVersion,bytes32 keyId,uint64 validUntil,uint256 nonce)"

def enrollmentAuthorizationCommitment (claim : AuthorizationClaim) (keyID : Digest) :
    Except String Digest := do
  revertIf (keyID = 0 ∨ claim.subjectCommitment = 0 ∨ claim.role = 0 ∨ claim.vault = 0 ∨
      claim.policyID = 0 ∨ claim.policyVersion ≠ policyVersion ∨ claim.validUntil = 0)
    "unauthorized ingress commitment"
  pure (keccak256 (abiEncode
    [keccak256 (stringBytes submitterAuthorizationType), claim.subjectCommitment, claim.role,
      addressWord claim.vault, claim.policyID, uintWord claim.policyVersion.toNat, keyID,
      uintWord claim.validUntil.toNat, claim.nonce]))

/-! ## The two sides of a session -/

def pairEnrollmentsV5 (a b : SignedCiphertextEnrollmentV5) :
    Except String PairedEnrollmentsV5 := do
  let left := a.enrollment
  let right := b.enrollment
  left.validate
  right.validate
  let lb := left.binding
  let rb := right.binding
  let notPaired := "enrollments are not two halves of one session"
  revertIf (lb.sessionCommitment ≠ rb.sessionCommitment ∨
    lb.sessionNullifier ≠ rb.sessionNullifier) notPaired
  revertIf (lb.ownScopeCommitment ≠ rb.counterpartyScopeCommitment ∨
    rb.ownScopeCommitment ≠ lb.counterpartyScopeCommitment) notPaired
  revertIf (lb.ownScopeCommitment = rb.ownScopeCommitment ∨
    lb.governanceRecord = rb.governanceRecord ∨
    lb.sourceRecordCommitment = rb.sourceRecordCommitment) notPaired
  revertIf (lb.inputSlot ≠ 0 ∨ rb.inputSlot ≠ 1) notPaired
  revertIf (lb.authorizationEpoch ≠ rb.authorizationEpoch ∨
    lb.submissionBudgetEpoch ≠ rb.submissionBudgetEpoch) notPaired
  revertIf (left.keyID ≠ right.keyID ∨ left.parameterFingerprint ≠ right.parameterFingerprint ∨
    left.circuitVersion ≠ right.circuitVersion ∨ left.policyID ≠ right.policyID ∨
    left.policyVersion ≠ right.policyVersion ∨ left.identityMode ≠ right.identityMode) notPaired
  let replay := "ciphertext enrollment already used"
  revertIf (left.ciphertextDigest = right.ciphertextDigest ∨ left.nonce = right.nonce ∨
    left.inputCommitment = right.inputCommitment) replay
  let digestA := left.signingDigest keccak256
  let digestB := right.signingDigest keccak256
  revertIf (digestA = digestB) replay
  pure
    { sessionCommitment := lb.sessionCommitment
      sessionNullifier := lb.sessionNullifier
      enrollmentDigestA := digestA
      enrollmentDigestB := digestB
      scopeCommitmentA := lb.ownScopeCommitment
      scopeCommitmentB := rb.ownScopeCommitment
      inputCommitmentA := left.inputCommitment
      inputCommitmentB := right.inputCommitment
      ciphertextDigestA := left.ciphertextDigest
      ciphertextDigestB := right.ciphertextDigest }

def verifyEnrollmentV5 (ed25519Verify : Bytes → Bytes → Bytes → Bool) (runtime : Runtime)
    (signed : SignedCiphertextEnrollmentV5) (now : ℤ) : Except String Digest := do
  let enrollment := signed.enrollment
  enrollment.validate
  revertIf (enrollment.keyID ≠ runtime.keyIDBytes ∨
    enrollment.parameterFingerprint ≠ runtime.parameterFingerprint) "wrong key id"
  let nowUnix : Word64 := BitVec.ofInt 64 now
  revertIf (now < 0 ∨ nowUnix < enrollment.issuedAt ∨ nowUnix > enrollment.validUntil)
    "request expired"
  let commitment := enrollmentAuthorizationCommitment keccak256 enrollment.authorizationClaim
    runtime.keyIDBytes
  revertIf (commitment.toOption ≠ some enrollment.authorizationCommitment)
    "unauthorized ingress commitment"
  let issuer ← require "unknown enrollment issuer" (runtime.trustedIssuers enrollment.issuerKeyID)
  revertIf (issuer.revoked = true) "revoked enrollment issuer"
  revertIf (enrollment.issuedAt < issuer.validFrom ∨ enrollment.validUntil > issuer.validUntil ∨
    nowUnix < issuer.validFrom ∨ nowUnix > issuer.validUntil) "request expired"
  let digest := enrollment.signingDigest keccak256
  revertIf (ed25519Verify issuer.publicKey (wordBytes digest) signed.signature = false)
    "invalid enrollment signature"
  pure digest

end

/-! ## What a signature covers -/

section

variable {keccak256 : Bytes → Digest} {hashed : Set Bytes}

theorem SessionBindingV5.encoded_injective :
    Function.Injective (SessionBindingV5.encoded keccak256) := by
  intro binding binding' h
  have hwords := abiEncode_injective h
  simp only [List.cons.injEq, true_and, and_true] at hwords
  obtain ⟨hsession, hnullifier, hown, hcounterparty, hrecord, hsource, hauthorization, hbudget,
    hslot⟩ := hwords
  have hauthorization := uintWord_toNat_injective (by decide) hauthorization
  have hbudget := uintWord_toNat_injective (by decide) hbudget
  have hslot := uintWord_toNat_injective (by decide) hslot
  cases binding
  cases binding'
  simp_all only

theorem eq_identityFullFHE256 {mode : IdentityMode}
    (h : identityModeWord mode = identityModeWord identityFullFHE256) :
    mode = identityFullFHE256 := by
  by_contra hmode
  rw [identityModeWord, if_neg hmode] at h
  split at h
  · exact absurd h (by decide)
  · exact absurd h (by decide)

/-- An enrollment for encrypted identifiers is the only one with its signing digest. -/
theorem CiphertextEnrollmentV5.eq_of_signingDigest_eq {enrollment signed : CiphertextEnrollmentV5}
    (hinj : hashed.InjOn keccak256) (hmode : enrollment.identityMode = identityFullFHE256)
    (hmem : enrollment.encoded keccak256 ∈ hashed) (hmem' : signed.encoded keccak256 ∈ hashed)
    (hbinding : enrollment.binding.encoded keccak256 ∈ hashed)
    (hbinding' : signed.binding.encoded keccak256 ∈ hashed)
    (h : signed.signingDigest keccak256 = enrollment.signingDigest keccak256) :
    signed = enrollment := by
  have hwords := abiEncode_injective (hinj hmem' hmem h)
  simp only [List.cons.injEq, true_and, and_true] at hwords
  obtain ⟨hversion, hdigest, hcircuit, hciphertext, hinput, hkey, hparameter, hpolicy,
    hpolicyVersion,
    hidentity, hsubject, hrole, hvault, hclaimPolicy, hclaimVersion, hclaimUntil, hclaimNonce,
    hauthorization, hissuer, hissued, huntil, hnonce⟩ := hwords
  have hversion := uintWord_toNat_injective (by decide) hversion
  have hsession := SessionBindingV5.encoded_injective (hinj hbinding' hbinding hdigest)
  have hcircuit := uintWord_toNat_injective (by decide) hcircuit
  have hpolicyVersion := uintWord_toNat_injective (by decide) hpolicyVersion
  have hidentity := (eq_identityFullFHE256 (hmode ▸ hidentity)).trans hmode.symm
  have hvault := addressWord_injective hvault
  have hclaimVersion := uintWord_toNat_injective (by decide) hclaimVersion
  have hclaimUntil := uintWord_toNat_injective (by decide) hclaimUntil
  have hissued := uintWord_toNat_injective (by decide) hissued
  have huntil := uintWord_toNat_injective (by decide) huntil
  have hclaim : signed.authorizationClaim = enrollment.authorizationClaim := by
    cases hleft : signed.authorizationClaim
    cases hright : enrollment.authorizationClaim
    simp_all only
  cases signed
  cases enrollment
  simp_all only

end

end Mordant.Coalition
