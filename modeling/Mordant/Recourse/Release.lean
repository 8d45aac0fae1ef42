/-
# The two releases

What each adapter accepts.  A governed release is one Boolean signed for under a
single release authority; a coalition release is two facts under a threshold
manifest and a serving quorum.  Both are bridged by one secp256k1 attestor, who
signs every field.
-/

import Mordant.Recourse.Adapter

namespace Mordant.Recourse

open Evm Foundation

variable {W : Type} (crypto : Crypto) (env : Externals W)

/-- `domainSeparator`: cached for the chain of deployment, rebuilt on any other. -/
def domainSeparator (terms : AdapterTerms) (name : String) (world : W) : Bytes32 :=
  let build chainId := crypto.domainSeparator name "1" chainId terms.adapter
  let cachedDomainSeparator := build terms.deployedChainId
  if env.chainId world = terms.deployedChainId then cachedDomainSeparator
  else build (env.chainId world)

/-- The recovery and the two marks that follow the field checks. -/
def requireAttested (terms : AdapterTerms) (c : Chain W) (attestationDigest : Bytes32)
    (signature : Bytes) : Except AdapterError Unit := do
  revertIf (c.adapter.attestationConsumed attestationDigest = true)
    (.attestationConsumed attestationDigest)
  let recovered ← require .ecdsaFailure (crypto.ecdsaRecover attestationDigest signature)
  revertIf (recovered ≠ terms.attestor) (.badAttestor recovered)

/-! ## The governed release -/

structure GovernedRelease where
  runId : Bytes32
  fheCaseId : Bytes32
  caseBindingDigest : Bytes32
  assetIdentityDigest : Bytes32
  governedResultDigest : Bytes32
  resultCiphertextDigest : Bytes32
  participantArtifactDigestA : Bytes32
  participantArtifactDigestB : Bytes32
  holderA : Address
  holderB : Address
  payoutA : BitVec 256
  payoutB : BitVec 256
  conflict : Bool
  releaseAuthorityId : Bytes32
  releaseMode : Bytes32
  circuitHash : Bytes32
  parameterFingerprint : Bytes32
  nonce : BitVec 256
  issuedAt : BitVec 64
  expiry : BitVec 64

namespace GovernedRelease

/-- `RELEASE_TYPEHASH`. -/
def typeHash : Bytes32 := crypto.keccakText
  ("GovernedRelease(bytes32 runId,bytes32 fheCaseId,bytes32 caseBindingDigest," ++
    "bytes32 assetIdentityDigest,bytes32 governedResultDigest,bytes32 resultCiphertextDigest," ++
    "bytes32 participantArtifactDigestA,bytes32 participantArtifactDigestB,address holderA," ++
    "address holderB,uint256 payoutA,uint256 payoutB,bool conflict,bytes32 releaseAuthorityId," ++
    "bytes32 releaseMode,bytes32 circuitHash,bytes32 parameterFingerprint,uint256 nonce," ++
    "uint64 issuedAt,uint64 expiry)")

/-- What `_hashRelease` hashes first: the two halves concatenate to one encoding. -/
def structBytes (r : GovernedRelease) : Bytes :=
  let head := abiEncode [typeHash crypto, r.runId, r.fheCaseId, r.caseBindingDigest,
    r.assetIdentityDigest, r.governedResultDigest, r.resultCiphertextDigest,
    r.participantArtifactDigestA, r.participantArtifactDigestB, addressWord r.holderA,
    addressWord r.holderB]
  let tail := abiEncode [r.payoutA, r.payoutB, boolWord r.conflict, r.releaseAuthorityId,
    r.releaseMode, r.circuitHash, r.parameterFingerprint, r.nonce, uintWord r.issuedAt.toNat,
    uintWord r.expiry.toNat]
  head ++ tail

/-- `_hashRelease`. -/
def hashRelease (terms : AdapterTerms) (world : W) (r : GovernedRelease) : Bytes32 :=
  crypto.typedDataHash (domainSeparator crypto env terms "MordantRecourseAdapter" world)
    (crypto.keccak256 (r.structBytes crypto))

/-- What is recorded of a governed release. -/
def accepted (r : GovernedRelease) (attestationDigest : Bytes32) : AcceptedRelease where
  runId := r.runId
  resultDigest := r.governedResultDigest
  attestationDigest := attestationDigest
  holderA := r.holderA
  holderB := r.holderB
  payoutA := r.payoutA
  payoutB := r.payoutB
  conflict := r.conflict
  facts := [r.conflict]

/-- The checks of `consumeGovernedRelease` before the signature. -/
def checkFields (terms : AdapterTerms) (c : Chain W) (msg : Msg) (r : GovernedRelease) :
    Except AdapterError Unit := do
  revertIf ((c.adapter.caseByRun r.runId).state ≠ .none) (.runConsumed r.runId)
  revertIf (c.adapter.resultConsumed r.governedResultDigest = true)
    (.resultConsumed r.governedResultDigest)
  revertIf (r.assetIdentityDigest ≠ terms.assetIdentityDigest) (.badAsset r.assetIdentityDigest)
  revertIf (r.releaseAuthorityId ≠ terms.expectedAuthorityId)
    (.governedAuthorityMismatch r.releaseAuthorityId terms.expectedAuthorityId)
  revertIf (r.releaseMode ≠ terms.releaseMode) (.badReleaseMode r.releaseMode)
  revertIf (r.circuitHash ≠ terms.circuitHash ∨
    r.parameterFingerprint ≠ terms.parameterFingerprint) .badCircuit
  revertIf (r.expiry.toNat < msg.timestamp) (.expired r.expiry.toNat)
  revertIf (msg.timestamp < r.issuedAt.toNat) (.notYetIssued r.issuedAt.toNat)
  revertIf (r.runId = 0 ∨ r.governedResultDigest = 0) .zeroAmount

end GovernedRelease

def consumeGovernedRelease (terms : AdapterTerms) (c : Chain W) (msg : Msg) (r : GovernedRelease)
    (signature : Bytes) : Except AdapterError (Chain W) := do
  r.checkFields terms c msg
  let attestationDigest := r.hashRelease crypto env terms c.world
  requireAttested crypto terms c attestationDigest signature
  recordRelease terms c msg (r.accepted attestationDigest)

/-- `claim` of the governed adapter. -/
def governedClaim (terms : AdapterTerms) (c : Chain W) (runId : Bytes32) (holderIsA : Bool) :
    Except AdapterError (Chain W) :=
  claimThrough env terms c (fun _ _ => pure ()) runId holderIsA

/-- `MordantRecourseAdapter`. -/
def governed (terms : AdapterTerms) : Flavour W GovernedRelease where
  consumeRelease := consumeGovernedRelease crypto env terms
  claim := governedClaim env terms

/-! ## The coalition release -/

/-- The immutables of the coalition adapter. -/
structure CoalitionTerms extends AdapterTerms where
  requiredQuorum : BitVec 16

/-- The coalition constructor's checks: a quorum of one is not a coalition. -/
def CoalitionTerms.check (terms : CoalitionTerms) : Except AdapterError Unit := do
  terms.toAdapterTerms.check
  revertIf (terms.requiredQuorum.toNat < 2) (.quorumTooSmall terms.requiredQuorum.toNat 2)

structure CoalitionRelease where
  runId : Bytes32
  fheCaseId : Bytes32
  caseBindingDigest : Bytes32
  assetIdentityDigest : Bytes32
  coalitionResultDigest : Bytes32
  releaseTranscript : Bytes32
  participantArtifactDigestA : Bytes32
  participantArtifactDigestB : Bytes32
  holderA : Address
  holderB : Address
  payoutA : BitVec 256
  payoutB : BitVec 256
  /-- Integrity only. Never an economic input. -/
  sameEconomicAsset : Bool
  /-- The decision. -/
  policyConflict : Bool
  coalitionAuthorityId : Bytes32
  servingQuorum : BitVec 16
  releaseMode : Bytes32
  circuitHash : Bytes32
  parameterFingerprint : Bytes32
  nonce : BitVec 256
  issuedAt : BitVec 64
  expiry : BitVec 64

namespace CoalitionRelease

/-- `RELEASE_TYPEHASH`. -/
def typeHash : Bytes32 := crypto.keccakText
  ("CoalitionRelease(bytes32 runId,bytes32 fheCaseId,bytes32 caseBindingDigest," ++
    "bytes32 assetIdentityDigest,bytes32 coalitionResultDigest,bytes32 releaseTranscript," ++
    "bytes32 participantArtifactDigestA,bytes32 participantArtifactDigestB,address holderA," ++
    "address holderB,uint256 payoutA,uint256 payoutB,bool sameEconomicAsset," ++
    "bool policyConflict,bytes32 coalitionAuthorityId,uint16 servingQuorum,bytes32 releaseMode," ++
    "bytes32 circuitHash,bytes32 parameterFingerprint,uint256 nonce,uint64 issuedAt," ++
    "uint64 expiry)")

/-- `_hashRelease`: the two halves concatenate to one encoding. -/
def hashRelease (terms : AdapterTerms) (world : W) (r : CoalitionRelease) : Bytes32 :=
  let head := abiEncode [typeHash crypto, r.runId, r.fheCaseId, r.caseBindingDigest,
    r.assetIdentityDigest, r.coalitionResultDigest, r.releaseTranscript,
    r.participantArtifactDigestA, r.participantArtifactDigestB, addressWord r.holderA,
    addressWord r.holderB]
  let tail := abiEncode [r.payoutA, r.payoutB, boolWord r.sameEconomicAsset,
    boolWord r.policyConflict, r.coalitionAuthorityId, uintWord r.servingQuorum.toNat,
    r.releaseMode, r.circuitHash, r.parameterFingerprint, r.nonce, uintWord r.issuedAt.toNat,
    uintWord r.expiry.toNat]
  crypto.typedDataHash (domainSeparator crypto env terms "MordantCoalitionAdapter" world)
    (crypto.keccak256 (head ++ tail))

/-- What is recorded of a coalition release. -/
def accepted (r : CoalitionRelease) (attestationDigest : Bytes32) : AcceptedRelease where
  runId := r.runId
  resultDigest := r.coalitionResultDigest
  attestationDigest := attestationDigest
  holderA := r.holderA
  holderB := r.holderB
  payoutA := r.payoutA
  payoutB := r.payoutB
  conflict := r.policyConflict
  facts := [r.sameEconomicAsset, r.policyConflict]

/-- The checks of `consumeCoalitionRelease` before the signature. -/
def checkFields (terms : CoalitionTerms) (c : Chain W) (msg : Msg) (r : CoalitionRelease) :
    Except AdapterError Unit := do
  revertIf ((c.adapter.caseByRun r.runId).state ≠ .none) (.runConsumed r.runId)
  revertIf (c.adapter.resultConsumed r.coalitionResultDigest = true)
    (.resultConsumed r.coalitionResultDigest)
  revertIf (r.assetIdentityDigest ≠ terms.assetIdentityDigest) (.badAsset r.assetIdentityDigest)
  revertIf (r.coalitionAuthorityId ≠ terms.expectedAuthorityId)
    (.coalitionAuthorityMismatch r.coalitionAuthorityId terms.expectedAuthorityId)
  revertIf (r.servingQuorum < terms.requiredQuorum)
    (.quorumTooSmall r.servingQuorum.toNat terms.requiredQuorum.toNat)
  revertIf (r.policyConflict = true ∧ r.sameEconomicAsset = false)
    (.nonCanonicalDecision r.sameEconomicAsset r.policyConflict)
  revertIf (r.releaseMode ≠ terms.releaseMode) (.badReleaseMode r.releaseMode)
  revertIf (r.circuitHash ≠ terms.circuitHash ∨
    r.parameterFingerprint ≠ terms.parameterFingerprint) .badCircuit
  revertIf (r.expiry.toNat < msg.timestamp) (.expired r.expiry.toNat)
  revertIf (msg.timestamp < r.issuedAt.toNat) (.notYetIssued r.issuedAt.toNat)
  revertIf (r.runId = 0 ∨ r.coalitionResultDigest = 0 ∨ r.releaseTranscript = 0) .zeroAmount

end CoalitionRelease

def consumeCoalitionRelease (terms : CoalitionTerms) (c : Chain W) (msg : Msg)
    (r : CoalitionRelease) (signature : Bytes) : Except AdapterError (Chain W) := do
  r.checkFields terms c msg
  let attestationDigest := r.hashRelease crypto env terms.toAdapterTerms c.world
  requireAttested crypto terms.toAdapterTerms c attestationDigest signature
  recordRelease terms.toAdapterTerms c msg (r.accepted attestationDigest)

/-- `claim` of the coalition adapter, which asks the asset's own policy as well. -/
def coalitionClaim (terms : AdapterTerms) (c : Chain W) (runId : Bytes32) (holderIsA : Bool) :
    Except AdapterError (Chain W) :=
  claimThrough env terms c (fun holder amount =>
    revertIf (env.isAssetTransferAllowed c.world terms.settlementToken terms.adapter holder
      amount = false) (.transferPolicyDenied holder amount)) runId holderIsA

/-- `MordantCoalitionAdapter`. -/
def coalition (terms : CoalitionTerms) : Flavour W CoalitionRelease where
  consumeRelease := consumeCoalitionRelease crypto env terms
  claim := coalitionClaim env terms.toAdapterTerms

/-! ## Reachable adapters -/

/-- A constructed governed adapter after a run of committed calls. -/
def GovernedReaches (terms : AdapterTerms) (token : Ledger Address 256)
    (events : List (Event W GovernedRelease)) (c : Chain W) : Prop :=
  terms.check = .ok () ∧
    ∃ world, run (exec env terms (governed crypto env terms)) (deployed token world) events = .ok c

/-- A constructed coalition adapter after a run of committed calls. -/
def CoalitionReaches (terms : CoalitionTerms) (token : Ledger Address 256)
    (events : List (Event W CoalitionRelease)) (c : Chain W) : Prop :=
  terms.check = .ok () ∧
    ∃ world, run (exec env terms.toAdapterTerms (coalition crypto env terms))
      (deployed token world) events = .ok c

end Mordant.Recourse
