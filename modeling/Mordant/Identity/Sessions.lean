/-
# Candidate and exact sessions

`MordantSessionPrecommitRegistry` keeps two kinds of sessions apart.  Anybody may
mark a session as one that ran the tolerant path; an issuer may pre-commit a
session as exact, once, if nobody marked it.
-/

import Mordant.Identity.Anchor

namespace Mordant.Identity

open Evm Foundation Match

structure ExactSessionPrecommitment where
  chainId : BitVec 256
  registry : Address
  sessionId : Bytes32
  strictAssetCommitment : Bytes32
  equivalenceOf : Bytes32
  supersedesCandidateSession : Bytes32
  issuerKeyId : Bytes32
  identityEpoch : BitVec 32
  validUntil : BitVec 64
  nonce : BitVec 256

structure Precommitment where
  strictAssetCommitment : Bytes32 := 0
  issuerKeyId : Bytes32 := 0
  supersedesCandidateSession : Bytes32 := 0
  recordedAt : ℕ := 0
  recorded : Bool := false

/-- Storage of the session registry. -/
structure SessionState where
  precommitments : Bytes32 → Precommitment := fun _ => {}
  candidateSessions : Bytes32 → Bool := fun _ => false
  consumedNonce : Bytes32 → BitVec 256 → Bool := fun _ _ => false

/-- The storage after a pre-commitment. -/
def precommitted (r : SessionState) (tx : Tx) (precommitment : ExactSessionPrecommitment) :
    SessionState :=
  { r with
    precommitments := Function.update r.precommitments precommitment.sessionId
      { strictAssetCommitment := precommitment.strictAssetCommitment
        issuerKeyId := precommitment.issuerKeyId
        supersedesCandidateSession := precommitment.supersedesCandidateSession
        recordedAt := toUint64 tx.timestamp
        recorded := true }
    consumedNonce := setNested r.consumedNonce precommitment.issuerKeyId precommitment.nonce true }

namespace Sessions

variable (crypto : Crypto) (self : Address)

/-- The constructor. -/
def construct (registry : Address) : Except IdentityError SessionState := do
  revertIf (registry = 0) .invalidPrecommitment
  pure {}

/-- `markCandidateSession`. It does not look at its caller. -/
def markCandidateSession (r : SessionState) (sessionId : Bytes32) :
    Except IdentityError SessionState := do
  revertIf (sessionId = 0) .invalidPrecommitment
  revertIf ((r.precommitments sessionId).recorded = true) (.sessionAlreadyPrecommitted sessionId)
  pure { r with candidateSessions := Function.update r.candidateSessions sessionId true }

def precommitTypeHash : Bytes32 := crypto.keccakText
  ("ExactSessionPrecommitment(uint256 chainId,address registry,bytes32 sessionId," ++
    "bytes32 strictAssetCommitment,bytes32 equivalenceOf," ++
    "bytes32 supersedesCandidateSession,bytes32 issuerKeyId,uint32 identityEpoch," ++
    "uint64 validUntil,uint256 nonce)")

def digest (tx : Tx) (precommitment : ExactSessionPrecommitment) : Bytes32 :=
  crypto.typedDataHash
    (crypto.domainSeparator "Mordant Exact Session Precommitment" "1" tx.chainId self)
    (crypto.hashWords
      ([precommitTypeHash crypto, precommitment.chainId, addressWord precommitment.registry,
          precommitment.sessionId, precommitment.strictAssetCommitment,
          precommitment.equivalenceOf] ++
        [precommitment.supersedesCandidateSession, precommitment.issuerKeyId,
          uintWord precommitment.identityEpoch.toNat, uintWord precommitment.validUntil.toNat,
          precommitment.nonce]))

def precommitExactSession (r : SessionState) (issuers : IssuerState) (tx : Tx)
    (precommitment : ExactSessionPrecommitment) (signature : Bytes) :
    Except IdentityError SessionState := do
  revertIf (precommitment.chainId.toNat ≠ tx.chainId ∨ precommitment.registry ≠ self ∨
    precommitment.sessionId = 0 ∨ precommitment.strictAssetCommitment = 0 ∨
    precommitment.issuerKeyId = 0 ∨ precommitment.identityEpoch = 0 ∨ precommitment.nonce = 0)
    .invalidPrecommitment
  revertIf (precommitment.validUntil.toNat < tx.timestamp) .invalidPrecommitment
  revertIf (r.candidateSessions precommitment.sessionId = true)
    (.candidateSessionCannotBePrecommitted precommitment.sessionId)
  revertIf (precommitment.supersedesCandidateSession ≠ 0 ∧
    precommitment.supersedesCandidateSession = precommitment.sessionId)
    (.candidateSessionCannotBePrecommitted precommitment.sessionId)
  revertIf ((r.precommitments precommitment.sessionId).recorded = true)
    (.sessionAlreadyPrecommitted precommitment.sessionId)
  revertIf (r.consumedNonce precommitment.issuerKeyId precommitment.nonce = true)
    (.nonceConsumed precommitment.issuerKeyId precommitment.nonce.toNat)
  let signer ← require (Crypto.recoveryError .malformedSignature .ecdsaInvalidSignature signature)
    (crypto.recoverStrict (digest crypto self tx precommitment) signature)
  (IssuerRegistry.requireAuthorized issuers precommitment.issuerKeyId signer
    precommitment.identityEpoch).mapError .issuer
  pure (precommitted r tx precommitment)

def isSessionPrecommitted (r : SessionState) (sessionId strictAssetCommitment : Bytes32) : Bool :=
  let record := r.precommitments sessionId
  record.recorded && record.strictAssetCommitment == strictAssetCommitment &&
    !r.candidateSessions sessionId

end Sessions

end Mordant.Identity
