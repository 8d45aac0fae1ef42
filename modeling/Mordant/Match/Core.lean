/-
# The confidential match result

The result core a validator quorum signs, with the rules every core has to meet
before any signature is looked at.  The errors of the whole fifth version are
declared here: a call that crosses contracts bubbles them up unchanged.
-/

import Mordant.Evm.Abi
import Mordant.Foundation.Call

namespace Mordant.Match

open Evm Foundation

/-- What a call sees of its caller, the block and the chain. -/
structure Tx extends Msg where
  chainId : ℕ

inductive Outcome
  | none | differentAsset | sameAssetNoPolicyConflict | sameAssetPolicyConflict | notComparable
  deriving DecidableEq, Repr

/-- The enum's ABI value. -/
def Outcome.toNat : Outcome → ℕ
  | .none => 0
  | .differentAsset => 1
  | .sameAssetNoPolicyConflict => 2
  | .sameAssetPolicyConflict => 3
  | .notComparable => 4

/-- The errors of the registries, the verifier and the binder. -/
inductive MatchError
  -- shared
  | unauthorized (account : Address) | zeroAddress | invalidConfiguration
  | wrongChain (supplied current : ℕ) | malformedSignature | ecdsaInvalidSignature
  | commitmentExists (key : Bytes32) | unknownCommitment (key : Bytes32)
  | nonceConsumed (scope : Bytes32) (nonce : ℕ)
  -- result core and outcome
  | emptyField | notDistinct | wrongSchema (supplied expected : ℕ)
  | wrongVerifier (supplied current : Address) | resultExpired (expiry currentTime : ℕ)
  | invalidResultCommitment (supplied expected : Bytes32)
  | outcomeInconsistent (outcome : Outcome) | policyConflictWithoutAssetMatch
  | resultNotBindable (outcome : Outcome) | releasedBitsDisagreeWithOutcome
  -- verifier
  | invalidQuorum | invalidBinder (caller binder : Address)
  | policyNotConfigured (policyId : Bytes32) | policyVersionMismatch (supplied current : ℕ)
  | protocolVersionRetired (supplied : ℕ) | unknownSessionCommitment (key : Bytes32)
  | sessionNullifierMismatch (supplied admitted : Bytes32) | sessionNotYetCommitted (key : Bytes32)
  | insufficientSignatures (supplied required : ℕ) | validatorNotActive (signer : Address)
  | signersNotStrictlyIncreasing (previous current : Address) | malformedAttestation
  | malformedTranscript | recomputationQuorumTooSmall (supplied required : ℕ)
  | recomputationContextMismatch (supplied expected : Bytes32)
  | replayAlreadyConsumed (key : Bytes32) | decisionAlreadyConsumed (key : Bytes32)
  | sessionAlreadyConsumed (key : Bytes32) | nullifierAlreadyConsumed (key : Bytes32)
  | outputAlreadyConsumed (key : Bytes32) | providerProofAlreadyConsumed (key : Bytes32)
  -- governance registry
  | invalidAuthorization | unknownRecord (recordDigest : Bytes32)
  | recordExists (recordDigest : Bytes32) | versionNotSequential (supplied expected : ℕ)
  | alreadyRetired (recordDigest : Bytes32) | alreadyHardRevoked (recordDigest : Bytes32)
  | controllerEmergencyRevoked (recordDigest : Bytes32) (hardRevokedAtBlock : ℕ)
  | recordNotStrictlyBeforeCommitment (recordDigest : Bytes32) (recordBlock commitBlock : ℕ)
  | relayerNotAuthorized (submitter : Address) | relayerIsController (submitter : Address)
  | commitmentConsumed (key : Bytes32) | nullifierConsumed (nullifier : Bytes32)
  | nullifierMismatch (recomputed published : Bytes32) | intentExpired (expiry currentTime : ℕ)
  | wrongRegistry (supplied current : Address) | sameScope (scope : Bytes32)
  | sameOrganization (organizationId : Bytes32) | sameController (controller : Address)
  | intentRecordMismatch (recordDigest : Bytes32)
  | intentNotBilateral (expected recovered : Address) | invalidIntent
  -- issuer and source registries
  | invalidIssuer | issuerAlreadyRegistered (issuerKeyId : Bytes32)
  | issuerRevoked (issuerKeyId : Bytes32) | ownableUnauthorizedAccount (account : Address)
  | ownableInvalidOwner (owner : Address)
  | submitterNotAuthorized (submitter : Address)
  | submitterIsTheSourceController (submitter : Address)
  | commitmentAlreadyRevealed (key : Bytes32) | schemeMismatch (supplied expected : ℕ)
  | attestationExpired (validUntil now : ℕ) | invalidAttestation
  | wrongFactory (supplied current : Address)
  -- binder
  | envelopeNotForThisBinder (supplied : Address)
  | unexpectedPolicy (policyId : Bytes32) (policyVersion : ℕ)
  | anchorNotDeployed (anchor : Address)
  | anchorNotFromAuthorizedFactory (anchor admitted : Address)
  | anchorSchemeMismatch (supplied expected : ℕ)
  | anchorTermsSchemeMismatch (supplied expected : ℕ)
  | anchorNotOutstanding (receivableState : ℕ) | anchorProtectionInactive (protectionState : ℕ)
  | anchorHasNoUnits | anchorCommitmentMismatch (observed revealed : Bytes32)
  | anchorSourceMismatch (observed expected : Bytes32)
  | sourceRecordMismatch (revealed expected : Bytes32)
  | sourceNotBeforeSession (sourceBlock sessionBlock : ℕ)
  | sessionCommitmentMismatch (resolved inResult : Bytes32)
  | sessionAlreadyBound (key : Bytes32) | resultAlreadyBound (key : Bytes32)
  | decisionAlreadyBound (key : Bytes32) | sourceAlreadyBound (key : Bytes32)
  | selfMatch (key : Bytes32) | consentScopeMismatch (supplied expected : Bytes32)
  | consentRecordNotForSession (scope governanceRecord : Bytes32)
  | disclosureConsentExpired (scope : Bytes32) (validUntil : ℕ)
  | disclosureVersionMismatch (supplied expected : ℕ)
  | consentNonceConsumed (scope : Bytes32) (nonce : ℕ)
  | consentNotSignedByController (expected recovered : Address)
  | externalCallFailed | panic
  deriving DecidableEq, Repr

instance : ArithmeticFault MatchError := ⟨.panic⟩

/-! ## The outcome of two released bits -/

def outcomeOf (sameEconomicAsset policyConflict : Bool) : Except MatchError Outcome := do
  revertIf (policyConflict = true ∧ sameEconomicAsset = false) .policyConflictWithoutAssetMatch
  if sameEconomicAsset = false then pure .differentAsset
  else if policyConflict then pure .sameAssetPolicyConflict
  else pure .sameAssetNoPolicyConflict

def requireOutcomeMatchesBits (outcome : Outcome) (sameEconomicAsset policyConflict : Bool) :
    Except MatchError Unit :=
  if outcome = .notComparable then
    revertIf (sameEconomicAsset = true ∨ policyConflict = true) (.outcomeInconsistent outcome)
  else do
    let implied ← outcomeOf sameEconomicAsset policyConflict
    revertIf (implied ≠ outcome) .releasedBitsDisagreeWithOutcome

def requireBindableOutcome (outcome : Outcome) (sameEconomicAsset policyConflict : Bool) :
    Except MatchError Unit := do
  requireOutcomeMatchesBits outcome sameEconomicAsset policyConflict
  revertIf (outcome ≠ .sameAssetPolicyConflict) (.resultNotBindable outcome)
  revertIf (sameEconomicAsset = false ∨ policyConflict = false) .releasedBitsDisagreeWithOutcome

/-! ## The result core -/

structure SessionBinding where
  sessionCommitment : Bytes32
  sessionNullifier : Bytes32
  governanceContext : Bytes32
  sourceRecordCommitmentA : Bytes32
  sourceRecordCommitmentB : Bytes32
  enrollmentDigestA : Bytes32
  enrollmentDigestB : Bytes32

structure EvaluationBinding where
  ciphertextDigestA : Bytes32
  ciphertextDigestB : Bytes32
  inputCommitmentA : Bytes32
  inputCommitmentB : Bytes32
  outputCiphertextCommitment : Bytes32
  circuitHash : Bytes32
  circuitVersion : BitVec 32
  releaseLayoutVersion : BitVec 16
  parameterFingerprint : Bytes32
  evaluationKeyEpoch : BitVec 32
  evaluationKeyDigest : Bytes32
  runtimeFingerprint : Bytes32
  providerProofCommitment : Bytes32

structure ResultCore where
  schemaVersion : BitVec 16
  chainId : BitVec 256
  verifier : Address
  binder : Address
  policyId : Bytes32
  policyVersion : BitVec 32
  session : SessionBinding
  evaluation : EvaluationBinding
  sameEconomicAsset : Bool
  policyConflict : Bool
  outcome : Outcome
  nonce : BitVec 256
  expiry : BitVec 64

def resultSchemaVersion : ℕ := 5
def releaseLayoutVersion : ℕ := 1
def circuitVersion : ℕ := 5

namespace ResultCore

variable (crypto : Crypto)

/-- `RESULT_CORE_TYPEHASH`. -/
def typeHash : Bytes32 := crypto.keccakText
  ("ConfidentialMatchResultV5Core(uint16 schemaVersion,uint256 chainId," ++
    "address verifier,address binder,bytes32 policyId,uint32 policyVersion," ++
    "bytes32 sessionCommitment,bytes32 sessionNullifier,bytes32 governanceContext," ++
    "bytes32 sourceRecordCommitmentA,bytes32 sourceRecordCommitmentB," ++
    "bytes32 enrollmentDigestA,bytes32 enrollmentDigestB,bytes32 ciphertextDigestA," ++
    "bytes32 ciphertextDigestB,bytes32 inputCommitmentA,bytes32 inputCommitmentB," ++
    "bool sameEconomicAsset,bool policyConflict,uint8 outcome," ++
    "bytes32 outputCiphertextCommitment,bytes32 circuitHash,uint32 circuitVersion," ++
    "uint16 releaseLayoutVersion,bytes32 parameterFingerprint," ++
    "uint32 evaluationKeyEpoch,bytes32 evaluationKeyDigest," ++
    "bytes32 runtimeFingerprint,bytes32 providerProofCommitment,uint256 nonce," ++
    "uint64 expiry)")

def structHash (core : ResultCore) : Bytes32 :=
  let head := abiEncode [typeHash crypto, uintWord core.schemaVersion.toNat, core.chainId,
    addressWord core.verifier, addressWord core.binder, core.policyId,
    uintWord core.policyVersion.toNat]
  let session := abiEncode [core.session.sessionCommitment, core.session.sessionNullifier,
    core.session.governanceContext, core.session.sourceRecordCommitmentA,
    core.session.sourceRecordCommitmentB, core.session.enrollmentDigestA,
    core.session.enrollmentDigestB]
  let inputs := abiEncode [core.evaluation.ciphertextDigestA, core.evaluation.ciphertextDigestB,
    core.evaluation.inputCommitmentA, core.evaluation.inputCommitmentB,
    boolWord core.sameEconomicAsset, boolWord core.policyConflict, uintWord core.outcome.toNat]
  let context := abiEncode [core.evaluation.outputCiphertextCommitment,
    core.evaluation.circuitHash, uintWord core.evaluation.circuitVersion.toNat,
    uintWord core.evaluation.releaseLayoutVersion.toNat, core.evaluation.parameterFingerprint,
    uintWord core.evaluation.evaluationKeyEpoch.toNat, core.evaluation.evaluationKeyDigest,
    core.evaluation.runtimeFingerprint, core.evaluation.providerProofCommitment, core.nonce,
    uintWord core.expiry.toNat]
  crypto.keccak256 (head ++ session ++ inputs ++ context)

def commitmentOf (core : ResultCore) : Bytes32 :=
  crypto.hashWords [crypto.keccakText "mordant.result-core-commitment/5", core.structHash crypto]

def requireWellFormed (core : ResultCore) (expectedVerifier : Address) (currentTime : ℕ) :
    Except MatchError Unit := do
  revertIf (core.schemaVersion.toNat ≠ resultSchemaVersion)
    (.wrongSchema core.schemaVersion.toNat resultSchemaVersion)
  revertIf (core.evaluation.circuitVersion.toNat ≠ circuitVersion)
    (.wrongSchema (core.evaluation.circuitVersion.toNat % 2 ^ 16) circuitVersion)
  revertIf (core.evaluation.releaseLayoutVersion.toNat ≠ releaseLayoutVersion)
    (.wrongSchema core.evaluation.releaseLayoutVersion.toNat releaseLayoutVersion)
  revertIf (core.verifier ≠ expectedVerifier) (.wrongVerifier core.verifier expectedVerifier)
  revertIf (core.binder = 0 ∨ core.verifier = 0) .emptyField
  revertIf (core.expiry = 0 ∨ core.expiry.toNat < currentTime)
    (.resultExpired core.expiry.toNat currentTime)
  revertIf (core.policyId = 0 ∨ core.nonce = 0) .emptyField
  let session := core.session
  revertIf (session.sessionCommitment = 0 ∨ session.sessionNullifier = 0 ∨
    session.governanceContext = 0 ∨ session.sourceRecordCommitmentA = 0 ∨
    session.sourceRecordCommitmentB = 0 ∨ session.enrollmentDigestA = 0 ∨
    session.enrollmentDigestB = 0) .emptyField
  revertIf (session.sourceRecordCommitmentA = session.sourceRecordCommitmentB ∨
    session.enrollmentDigestA = session.enrollmentDigestB) .notDistinct
  let evaluation := core.evaluation
  revertIf (evaluation.ciphertextDigestA = 0 ∨ evaluation.ciphertextDigestB = 0 ∨
    evaluation.inputCommitmentA = 0 ∨ evaluation.inputCommitmentB = 0 ∨
    evaluation.outputCiphertextCommitment = 0 ∨ evaluation.circuitHash = 0 ∨
    evaluation.parameterFingerprint = 0 ∨ evaluation.evaluationKeyDigest = 0 ∨
    evaluation.runtimeFingerprint = 0 ∨ evaluation.providerProofCommitment = 0 ∨
    evaluation.evaluationKeyEpoch = 0) .emptyField
  revertIf (evaluation.ciphertextDigestA = evaluation.ciphertextDigestB ∨
    evaluation.inputCommitmentA = evaluation.inputCommitmentB) .notDistinct
  requireOutcomeMatchesBits core.outcome core.sameEconomicAsset core.policyConflict

def requireCommitment (core : ResultCore) (supplied : Bytes32) : Except MatchError Unit :=
  revertIf (supplied ≠ core.commitmentOf crypto)
    (.invalidResultCommitment supplied (core.commitmentOf crypto))

end ResultCore

end Mordant.Match
