/-
# The match verifier

`MordantMatchVerifierV5`.  A result is accepted from the binder it names when
its core is well formed, its session was admitted on chain in an earlier block,
a transcript accompanies it, none of its six identities was consumed before, and
a quorum of validators signed it.
-/

import Mordant.Match.Governance

namespace Mordant.Match

open Evm Foundation
open Function (update)

structure RecomputationTranscript where
  /-- Digest of the release transcript the operators signed. -/
  transcriptCommitment : Bytes32
  /-- Digest over the ordered set of operator ids that recomputed. -/
  operatorSetDigest : Bytes32
  /-- How many operators independently recomputed and matched. -/
  recomputationQuorum : BitVec 16
  contextDigest : Bytes32
  deriving DecidableEq

/-- `MatchEnvelopeV5`. -/
structure MatchEnvelope where
  core : ResultCore
  resultCommitment : Bytes32
  transcript : RecomputationTranscript

/-- Storage of the verifier and its immutables. -/
structure VerifierState where
  owner : Address
  quorum : ℕ
  validatorSetId : Bytes32
  recomputationQuorum : BitVec 16
  validators : Address → Bool := fun _ => false
  currentPolicyVersion : Bytes32 → BitVec 32 := fun _ => 0
  consumedReplayKeys : Bytes32 → Bool := fun _ => false
  consumedDecisionKeys : Bytes32 → Bool := fun _ => false
  consumedSessions : Bytes32 → Bool := fun _ => false
  consumedNullifiers : Bytes32 → Bool := fun _ => false
  consumedOutputs : Bytes32 → Bool := fun _ => false
  consumedProviderProofs : Bytes32 → Bool := fun _ => false

namespace Verifier

variable (crypto : Crypto) (self : Address)

/-- The constructor's loop: every validator is new and not the zero address. -/
def addValidators (validators : Address → Bool) :
    List Address → Except MatchError (Address → Bool)
  | [] => pure validators
  | validator :: rest => do
    revertIf (validator = 0 ∨ validators validator = true) .zeroAddress
    addValidators (update validators validator true) rest

/-- `keccak256(abi.encode(block.chainid, address(this), initialValidators,
initialQuorum))`: the list sits behind an offset of four words. -/
def validatorSetIdOf (tx : Tx) (initialValidators : List Address) (initialQuorum : ℕ) : Bytes32 :=
  crypto.hashWords ([uintWord tx.chainId, addressWord self, uintWord 128, uintWord initialQuorum,
    uintWord initialValidators.length] ++ initialValidators.map addressWord)

/-- The constructor. -/
def construct (tx : Tx) (initialOwner governance : Address) (initialValidators : List Address)
    (initialQuorum : ℕ) (initialRecomputationQuorum : BitVec 16) :
    Except MatchError VerifierState := do
  revertIf (initialOwner = 0 ∨ governance = 0) .zeroAddress
  revertIf (initialQuorum = 0 ∨ initialValidators.length < initialQuorum) .invalidQuorum
  revertIf (initialRecomputationQuorum < 2) .invalidQuorum
  let validators ← addValidators (fun _ => false) initialValidators
  pure
    { owner := initialOwner
      quorum := initialQuorum
      recomputationQuorum := initialRecomputationQuorum
      validators := validators
      validatorSetId := validatorSetIdOf crypto self tx initialValidators initialQuorum }

def setPolicyVersion (v : VerifierState) (tx : Tx) (policyId : Bytes32) (version : BitVec 32) :
    Except MatchError VerifierState := do
  revertIf (tx.sender ≠ v.owner) (.unauthorized tx.sender)
  revertIf (policyId = 0 ∨ version = 0) (.policyNotConfigured policyId)
  pure { v with currentPolicyVersion := update v.currentPolicyVersion policyId version }

/-! ## Digests -/

def domainSeparator (tx : Tx) : Bytes32 :=
  crypto.domainSeparator "Mordant Confidential Match" "5" tx.chainId self

def resultDigest (tx : Tx) (core : ResultCore) : Bytes32 :=
  crypto.typedDataHash (domainSeparator crypto self tx) (core.structHash crypto)

def attestationTypeHash : Bytes32 := crypto.keccakText
  ("ConfidentialMatchAttestationV5(bytes32 validatorSetId,bytes32 resultDigest," ++
    "bytes32 recomputationContext)")

def attestationDigest (tx : Tx) (validatorSetId resultHash contextDigest : Bytes32) : Bytes32 :=
  crypto.typedDataHash (domainSeparator crypto self tx)
    (crypto.hashWords [attestationTypeHash crypto, validatorSetId, resultHash, contextDigest])

/-- `recomputationContext`: derived from the result core alone. -/
def recomputationContext (core : ResultCore) : Bytes32 :=
  crypto.hashWords [crypto.keccakText "mordant.v5-recomputation-context/1",
    core.evaluation.circuitHash, uintWord core.evaluation.circuitVersion.toNat,
    uintWord core.evaluation.releaseLayoutVersion.toNat, core.evaluation.parameterFingerprint,
    uintWord core.evaluation.evaluationKeyEpoch.toNat, core.evaluation.evaluationKeyDigest,
    core.evaluation.runtimeFingerprint, core.evaluation.outputCiphertextCommitment]

def replayKey (core : ResultCore) : Bytes32 :=
  crypto.hashWords [crypto.keccakText "mordant.v5-replay-key/1", core.chainId,
    addressWord core.verifier, core.policyId, uintWord core.policyVersion.toNat, core.nonce]

def decisionKey (core : ResultCore) : Bytes32 :=
  crypto.hashWords [crypto.keccakText "mordant.v5-decision-key/1",
    core.session.sessionCommitment, core.session.sessionNullifier,
    core.session.enrollmentDigestA, core.session.enrollmentDigestB, uintWord core.outcome.toNat]

/-! ## Acceptance -/

def assertSessionAdmitted (g : GovernanceState) (tx : Tx) (core : ResultCore) :
    Except MatchError Unit := do
  let admitted := g.commitments core.session.sessionCommitment
  revertIf (admitted.isCommitted = false)
    (.unknownSessionCommitment core.session.sessionCommitment)
  revertIf (tx.blockNumber ≤ admitted.committedInBlock)
    (.sessionNotYetCommitted core.session.sessionCommitment)
  revertIf (admitted.sessionNullifier ≠ core.session.sessionNullifier)
    (.sessionNullifierMismatch core.session.sessionNullifier admitted.sessionNullifier)

def assertTranscript (v : VerifierState) (core : ResultCore)
    (transcript : RecomputationTranscript) : Except MatchError Unit := do
  revertIf (transcript.transcriptCommitment = 0 ∨ transcript.operatorSetDigest = 0)
    .malformedTranscript
  revertIf (transcript.recomputationQuorum < v.recomputationQuorum)
    (.recomputationQuorumTooSmall transcript.recomputationQuorum.toNat
      v.recomputationQuorum.toNat)
  let expected := recomputationContext crypto core
  revertIf (transcript.contextDigest ≠ expected)
    (.recomputationContextMismatch transcript.contextDigest expected)

/-- `_consume`: six identities, each terminal. -/
def consume (v : VerifierState) (core : ResultCore) : Except MatchError VerifierState := do
  let replay := replayKey crypto core
  revertIf (v.consumedReplayKeys replay = true) (.replayAlreadyConsumed replay)
  let decision := decisionKey crypto core
  revertIf (v.consumedDecisionKeys decision = true) (.decisionAlreadyConsumed decision)
  let session := core.session.sessionCommitment
  revertIf (v.consumedSessions session = true) (.sessionAlreadyConsumed session)
  let nullifier := core.session.sessionNullifier
  revertIf (v.consumedNullifiers nullifier = true) (.nullifierAlreadyConsumed nullifier)
  let output := core.evaluation.outputCiphertextCommitment
  revertIf (v.consumedOutputs output = true) (.outputAlreadyConsumed output)
  let proof := core.evaluation.providerProofCommitment
  revertIf (v.consumedProviderProofs proof = true) (.providerProofAlreadyConsumed proof)
  pure
    { v with
      consumedReplayKeys := update v.consumedReplayKeys replay true
      consumedDecisionKeys := update v.consumedDecisionKeys decision true
      consumedSessions := update v.consumedSessions session true
      consumedNullifiers := update v.consumedNullifiers nullifier true
      consumedOutputs := update v.consumedOutputs output true
      consumedProviderProofs := update v.consumedProviderProofs proof true }

/-- The signature loop of `_verifyAttestation`: signers strictly increase. -/
def checkSigners (v : VerifierState) (digest : Bytes32) (previous : Address) :
    List Bytes → Except MatchError Unit
  | [] => pure ()
  | signature :: rest => do
    let signer ← require .malformedSignature (crypto.recoverStrict digest signature)
    revertIf (signer ≤ previous) (.signersNotStrictlyIncreasing previous signer)
    revertIf (v.validators signer = false) (.validatorNotActive signer)
    checkSigners v digest signer rest

/-- The 65-byte slices of an attestation. -/
def signatures (attestation : Bytes) : List Bytes :=
  (List.range (attestation.length / 65)).map fun i => (attestation.drop (i * 65)).take 65

def verifyAttestation (v : VerifierState) (tx : Tx) (core : ResultCore)
    (contextDigest : Bytes32) (attestation : Bytes) : Except MatchError Unit := do
  revertIf (attestation.length = 0 ∨ attestation.length % 65 ≠ 0) .malformedAttestation
  let count := attestation.length / 65
  revertIf (count < v.quorum) (.insufficientSignatures count v.quorum)
  let digest := attestationDigest crypto self tx v.validatorSetId
    (resultDigest crypto self tx core) contextDigest
  checkSigners crypto v digest 0 (signatures attestation)

/-- The checks of `acceptMatch` up to the admission of the session. -/
def checkResult (v : VerifierState) (g : GovernanceState) (tx : Tx) (core : ResultCore)
    (resultCommitment : Bytes32) : Except MatchError Unit := do
  revertIf (tx.sender ≠ core.binder) (.invalidBinder tx.sender core.binder)
  revertIf (core.chainId.toNat ≠ tx.chainId) (.wrongChain core.chainId.toNat tx.chainId)
  revertIf (core.schemaVersion.toNat < resultSchemaVersion)
    (.protocolVersionRetired core.schemaVersion.toNat)
  core.requireWellFormed self tx.timestamp
  core.requireCommitment crypto resultCommitment
  let configured := v.currentPolicyVersion core.policyId
  revertIf (configured = 0) (.policyNotConfigured core.policyId)
  revertIf (core.policyVersion ≠ configured)
    (.policyVersionMismatch core.policyVersion.toNat configured.toNat)
  assertSessionAdmitted g tx core

def acceptMatch (v : VerifierState) (g : GovernanceState) (tx : Tx) (envelope : MatchEnvelope)
    (attestation : Bytes) : Except MatchError (Bytes32 × VerifierState) := do
  let core := envelope.core
  checkResult crypto self v g tx core envelope.resultCommitment
  assertTranscript crypto v core envelope.transcript
  let v' ← consume crypto v core
  verifyAttestation crypto self v' tx core envelope.transcript.contextDigest attestation
  pure (envelope.resultCommitment, v')

end Verifier

end Mordant.Match
