/-
# One threshold operator

An operator holds a sealed share and its own copy of the public evaluation keys.  Asked
to serve a session, it checks everything the coordinator sent against what it computes
itself, and answers with a verdict that lists the checks it made.  It generates a share
only for a ciphertext it recomputed, one for each released bit.

What the FHE library computes is collected in `FheLibrary`.
-/

import Mordant.Coalition.Enrollment

namespace Mordant.Coalition

open Evm Foundation

def parameterProfile : String := "mordant.bgv.identity-full-fhe-256.n15/v1"
def serviceID : String := "mordant.private-pledge-matching"
def serviceVersion : BitVec 32 := 1
def circuitID : String := "mordant.identity-full-fhe-256"
def releaseModeCoalitionV5 : String := "coalition-v5"

/-- A ciphertext, as it is serialized. -/
abbrev Ciphertext := Bytes

/-- `%x`. -/
def hexText (bytes : Bytes) : String :=
  String.ofList (bytes.flatMap fun b =>
    [Nat.digitChar (b.toNat / 16), Nat.digitChar (b.toNat % 16)])

def bytes32Hex (value : Digest) : String := "0x" ++ hexText (wordBytes value)

/-! ## Requests and answers -/

structure CircuitInputsV5 where
  policyBitsA : Ciphertext
  policyBitsB : Ciphertext
  currencyBitsA : Ciphertext
  currencyBitsB : Ciphertext
  receivableIDsA : Ciphertext
  receivableIDsB : Ciphertext

structure CircuitOutputsV5 where
  sameEconomicAsset : Ciphertext
  policyConflict : Ciphertext

structure ReleaseDescriptorV5 where
  sessionCommitment : Digest
  sessionNullifier : Digest
  enrollmentDigestA : Digest
  enrollmentDigestB : Digest
  inputsDigest : Digest
  outputsDigest : Digest
  circuitVersion : BitVec 32
  runtimeFingerprint : Digest
  keyID : Digest
  parameterFingerprint : Digest
  policyID : Digest
  policyVersion : BitVec 32
  expiresAt : Word64

def ReleaseDescriptorV5.validate (descriptor : ReleaseDescriptorV5) : Except String Unit :=
  revertIf (descriptor.sessionCommitment = 0 ∨ descriptor.sessionNullifier = 0 ∨
      descriptor.enrollmentDigestA = 0 ∨ descriptor.enrollmentDigestB = 0 ∨
      descriptor.enrollmentDigestA = descriptor.enrollmentDigestB ∨
      descriptor.inputsDigest = 0 ∨ descriptor.outputsDigest = 0 ∨
      descriptor.circuitVersion ≠ circuitV5Version ∨
      descriptor.runtimeFingerprint = 0 ∨ descriptor.keyID = 0 ∨
      descriptor.parameterFingerprint = 0 ∨ descriptor.policyID = 0 ∨
      descriptor.policyVersion ≠ Coalition.policyVersion ∨ descriptor.expiresAt = 0)
    "malformed ciphertext enrollment"

/-- `ReleaseDescriptor`, which the threshold layer signs over. -/
structure ReleaseDescriptor where
  sessionID : Digest
  keyID : Digest
  parameterFingerprint : Digest
  policyID : Digest
  policyVersion : BitVec 32
  inputCommitmentA : Digest
  inputCommitmentB : Digest
  resultNonce : BitVec 256
  validUntil : Word64
  resultCiphertextCommitment : Digest
  protocolBinding : Digest
  coalition : Word64 × Word64
  deriving DecidableEq

def validateReleaseDescriptor (descriptor : ReleaseDescriptor) : Except String Unit :=
  revertIf (descriptor.sessionID = 0 ∨ descriptor.keyID = 0 ∨
      descriptor.parameterFingerprint = 0 ∨ descriptor.policyID = 0 ∨
      descriptor.policyVersion ≠ policyVersion ∨ descriptor.inputCommitmentA = 0 ∨
      descriptor.inputCommitmentB = 0 ∨ descriptor.resultNonce = 0 ∨
      descriptor.validUntil = 0 ∨ descriptor.resultCiphertextCommitment = 0 ∨
      descriptor.protocolBinding = 0 ∨ descriptor.coalition.1 = 0 ∨
      descriptor.coalition.2 = 0 ∨ descriptor.coalition.1 = descriptor.coalition.2)
    "invalid threshold release descriptor"

structure OperatorReleaseRequestV5 where
  descriptor : ReleaseDescriptorV5
  enrollmentA : SignedCiphertextEnrollmentV5
  enrollmentB : SignedCiphertextEnrollmentV5
  inputs : CircuitInputsV5
  coalition : Word64 × Word64

def coalitionContains (coalition : Word64 × Word64) (point : Word64) : Prop :=
  coalition.1 = point ∨ coalition.2 = point

instance (coalition : Word64 × Word64) (point : Word64) :
    Decidable (coalitionContains coalition point) :=
  inferInstanceAs (Decidable (_ ∨ _))

structure ThresholdOperatorPublic where
  operatorID : Digest
  point : Word64
  signingPublicKey : Bytes
  deriving DecidableEq

/-- `ThresholdOperator`: what a sealed bundle opens to. -/
structure ThresholdOperator where
  keyID : Digest
  fingerprint : Digest
  share : Bytes
  signingKey : Bytes
  identity : ThresholdOperatorPublic

def ThresholdOperator.point (operator : ThresholdOperator) : Word64 := operator.identity.point

structure ThresholdManifest where
  keyID : Digest
  parameterFingerprint : Digest
  threshold : BitVec 16
  operators : List ThresholdOperatorPublic

structure ThresholdReleaseResponse where
  operatorID : Digest
  point : Word64
  sessionID : Digest
  protocolBinding : Digest
  shareDigest : Digest
  share : Bytes
  statementDigest : Digest
  signature : Bytes

/-- What an operator calls and does not implement. -/
structure FheLibrary where
  keccak256 : Bytes → Digest
  ed25519Verify : Bytes → Bytes → Bytes → Bool
  recomputeCircuitV5 : Runtime → CircuitInputsV5 → Except String CircuitOutputsV5
  ciphertextCommitment : Ciphertext → Except String Digest
  protocolBindingDigest : Digest → Ciphertext → Except String Digest
  keySwitchShare : ThresholdOperator → Word64 × Word64 → Ciphertext → Bytes → Except String Bytes
  thresholdResponseStatementDigest : ReleaseDescriptor → Digest → Word64 → Digest → Digest
  sign : Bytes → Bytes → Bytes
  combineReleaseBitV5 : ReleaseDescriptor → ThresholdManifest → Ciphertext →
    List ThresholdReleaseResponse → Except String (Bool × Digest)

/-! ## The verdict -/

structure OperatorCheckV5 where
  name : String
  passed : Bool
  detail : String

structure OperatorVerdictV5 where
  accepted : Bool := false
  checks : List OperatorCheckV5 := []
  recomputedInputsDigest : Digest := 0
  recomputedOutputsDigest : Digest := 0
  outputs : Option CircuitOutputsV5 := none

/-- A failed check: the verdict so far and the error. -/
structure Refusal where
  verdict : OperatorVerdictV5
  error : String

/-- Checks that add to a verdict, until one fails. -/
def Verifying (α : Type) : Type :=
  OperatorVerdictV5 → Except Refusal (α × OperatorVerdictV5)

namespace Verifying

instance : Monad Verifying where
  pure a := fun verdict => .ok (a, verdict)
  bind x f := fun verdict => x verdict >>= fun (a, next) => f a next

def modify (f : OperatorVerdictV5 → OperatorVerdictV5) : Verifying Unit :=
  fun verdict => .ok ((), f verdict)

def record (name : String) : Verifying Unit :=
  modify fun verdict => { verdict with checks := verdict.checks ++ [⟨name, true, ""⟩] }

def fail {α : Type} (name detail : String) : Verifying α := fun verdict =>
  .error
    { verdict := { verdict with checks := verdict.checks ++ [⟨name, false, detail⟩] }
      error := "operator release check failed: " ++ name ++ ": " ++ detail }

def failIf (p : Prop) [Decidable p] (name detail : String) : Verifying Unit :=
  if p then fail name detail else pure ()

/-- A call whose error fails the check. -/
def attempt {α : Type} (name : String) : Except String α → Verifying α
  | .ok a => pure a
  | .error detail => fail name detail

end Verifying

open Verifying

/-- `NewReleaseOperatorV5`, with the identity it derived as the approved one. -/
def newReleaseOperatorV5 (runtime : Runtime) (fingerprint : Digest) : Except String Unit := do
  revertIf (runtime.holdsThresholdParties = true) "invalid threshold operator material"
  revertIf (fingerprint = 0)
    "runtime dependency versions are not pinned: runtime identity was never derived"

section

variable (library : FheLibrary)

/-- `writeLengthPrefixed`. -/
def lengthPrefixed (payload : Bytes) : Bytes :=
  uint64Bytes (BitVec.ofNat 64 payload.length) ++ payload

/-- The bytes that `CircuitSideDigestV5` hashes. -/
def circuitSideEncoded (policy currency receivable : Ciphertext) : Bytes :=
  stringBytes "mordant.circuit-v5-side/1" ++
    [policy, currency, receivable].flatMap lengthPrefixed

def circuitSideDigestV5 (policy currency receivable : Ciphertext) : Digest :=
  library.keccak256 (circuitSideEncoded policy currency receivable)

def CircuitInputsV5.ordered (inputs : CircuitInputsV5) : List Ciphertext :=
  [inputs.policyBitsA, inputs.policyBitsB, inputs.currencyBitsA, inputs.currencyBitsB,
    inputs.receivableIDsA, inputs.receivableIDsB]

def CircuitInputsV5.digest (inputs : CircuitInputsV5) : Digest :=
  library.keccak256 (stringBytes "mordant.circuit-v5-input/1" ++
    inputs.ordered.flatMap lengthPrefixed)

def CircuitOutputsV5.digest (outputs : CircuitOutputsV5) : Digest :=
  library.keccak256 (stringBytes "mordant.circuit-v5-output/1" ++
    [outputs.sameEconomicAsset, outputs.policyConflict].flatMap lengthPrefixed)

/-- Checks 1 to 11 of `VerifyAndRecompute`: what was sent, against what is computed here. -/
def requestChecks (runtime : Runtime) (threshold : ThresholdOperator)
    (request : OperatorReleaseRequestV5) (now : ℤ) : Verifying Unit := do
  let descriptor := request.descriptor
  attempt "descriptor-shape" descriptor.validate
  record "descriptor-shape"
  failIf (descriptor.circuitVersion ≠ circuitV5Version) "circuit-version"
    ("descriptor " ++ toString descriptor.circuitVersion.toNat ++ ", operator " ++
      toString circuitV5Version.toNat)
  record "circuit-version"
  failIf (descriptor.keyID ≠ threshold.keyID) "key-epoch"
    "descriptor key id is not this operator's sealed key id"
  record "key-epoch"
  failIf (descriptor.parameterFingerprint ≠ threshold.fingerprint) "parameter-fingerprint"
    "descriptor parameters differ from the sealed parameters"
  record "parameter-fingerprint"
  failIf (now < 0 ∨ descriptor.expiresAt < BitVec.ofInt 64 now) "descriptor-freshness"
    "release descriptor expired"
  record "descriptor-freshness"
  let digestA ← attempt "enrollment-a-signature"
    (verifyEnrollmentV5 library.keccak256 library.ed25519Verify runtime request.enrollmentA now)
  let digestB ← attempt "enrollment-b-signature"
    (verifyEnrollmentV5 library.keccak256 library.ed25519Verify runtime request.enrollmentB now)
  record "enrollment-signatures"
  let paired ← attempt "bilateral-pairing"
    (pairEnrollmentsV5 library.keccak256 request.enrollmentA request.enrollmentB)
  record "bilateral-pairing"
  failIf (descriptor.sessionCommitment ≠ paired.sessionCommitment ∨
      descriptor.sessionNullifier ≠ paired.sessionNullifier ∨
      descriptor.enrollmentDigestA ≠ digestA ∨ descriptor.enrollmentDigestB ≠ digestB ∨
      digestA ≠ paired.enrollmentDigestA ∨ digestB ≠ paired.enrollmentDigestB)
    "descriptor-session-binding" "descriptor does not name the paired session and enrollments"
  record "descriptor-session-binding"
  let boundA := circuitSideDigestV5 library request.inputs.policyBitsA
    request.inputs.currencyBitsA request.inputs.receivableIDsA
  let boundB := circuitSideDigestV5 library request.inputs.policyBitsB
    request.inputs.currencyBitsB request.inputs.receivableIDsB
  failIf (boundA ≠ request.enrollmentA.enrollment.ciphertextDigest ∨
      boundB ≠ request.enrollmentB.enrollment.ciphertextDigest)
    "input-digests" "received ciphertexts are not the ones the enrollments authorize"
  failIf (boundA = boundB) "input-digests" "both sides submitted the same ciphertext set"
  record "input-digests"
  let inputsDigest := request.inputs.digest library
  failIf (inputsDigest ≠ descriptor.inputsDigest) "inputs-digest"
    "descriptor inputs digest does not match the received ciphertexts"
  modify fun verdict => { verdict with recomputedInputsDigest := inputsDigest }
  record "inputs-digest"
  failIf (¬ coalitionContains request.coalition threshold.point) "coalition-membership"
    "operator is not in the requested coalition"
  record "coalition-membership"

/-- Check 12: a session the ledger does not know, or knows as reserved. -/
def oneShot : Except LedgerError SessionRecord → Verifying Unit
  | .ok existing => failIf (existing.state ≠ sessionReserved) "operator-one-shot"
      ("session already in state " ++ toString existing.state)
  | .error .sessionUnknown => pure ()
  | .error error => fail "operator-one-shot" error.text

/-- Checks 13 and 14: the runtime, and the recomputation. -/
def recomputationChecks (runtime : Runtime) (fingerprint : Digest)
    (request : OperatorReleaseRequestV5) : Verifying Unit := do
  let descriptor := request.descriptor
  failIf (descriptor.runtimeFingerprint ≠ fingerprint) "runtime-fingerprint"
    ("descriptor runtime " ++ hexText (wordBytes descriptor.runtimeFingerprint) ++
      " is not this operator's " ++ hexText (wordBytes fingerprint))
  record "runtime-fingerprint"
  let outputs ← attempt "local-recomputation" (library.recomputeCircuitV5 runtime request.inputs)
  let outputsDigest := outputs.digest library
  modify fun verdict => { verdict with recomputedOutputsDigest := outputsDigest }
  if outputsDigest ≠ descriptor.outputsDigest then
    fun verdict => .error
      { verdict := { verdict with checks := verdict.checks ++
          [⟨"local-recomputation", false, "recomputed output differs from the proposed output"⟩] }
        error := "operator recomputation does not match the proposed output" }
  else
    record "local-recomputation"
    modify fun verdict => { verdict with outputs := some outputs, accepted := true }

/-- `VerifyAndRecompute`: the verdict, and the error beside it; `existing` is what the
operator's ledger says of the session. -/
def verifyAndRecompute (runtime : Runtime) (threshold : ThresholdOperator) (fingerprint : Digest)
    (request : OperatorReleaseRequestV5) (now : ℤ)
    (existing : Except LedgerError SessionRecord) : OperatorVerdictV5 × Option String :=
  let checks : Verifying Unit := do
    requestChecks library runtime threshold request now
    oneShot existing
    record "operator-one-shot"
    recomputationChecks library runtime fingerprint request
  match checks {} with
  | .ok (_, verdict) => (verdict, none)
  | .error refusal => (refusal.verdict, some refusal.error)

/-! ## Shares -/

def releaseSlotSessionID (sessionCommitment : Digest) (slot : BitVec 8) : Digest :=
  library.keccak256 (abiEncode
    [library.keccak256 (stringBytes "mordant.release-slot/1"), sessionCommitment,
      uintWord slot.toNat])

def releaseDescriptorForSlot (descriptor : ReleaseDescriptorV5) (ciphertext : Ciphertext)
    (coalition : Word64 × Word64) (slot : BitVec 8) (keyID : Digest) :
    Except String ReleaseDescriptor := do
  let commitment ← library.ciphertextCommitment ciphertext
  let binding ← library.protocolBindingDigest keyID ciphertext
  pure
    { sessionID := releaseSlotSessionID library descriptor.sessionCommitment slot
      keyID := descriptor.keyID
      parameterFingerprint := descriptor.parameterFingerprint
      policyID := descriptor.policyID
      policyVersion := descriptor.policyVersion
      inputCommitmentA := descriptor.enrollmentDigestA
      inputCommitmentB := descriptor.enrollmentDigestB
      resultNonce := uintWord (slot.toNat + 1)
      validUntil := descriptor.expiresAt
      resultCiphertextCommitment := commitment
      protocolBinding := binding
      coalition }

def ThresholdOperator.validateReleaseRequest (operator : ThresholdOperator)
    (descriptor : ReleaseDescriptor) (ciphertext : Ciphertext) : Except String Unit := do
  revertIf (operator.signingKey.length ≠ 64) "invalid threshold operator material"
  validateReleaseDescriptor descriptor
  revertIf (descriptor.keyID ≠ operator.keyID ∨
      descriptor.parameterFingerprint ≠ operator.fingerprint) "wrong key id"
  revertIf ((library.ciphertextCommitment ciphertext).toOption ≠
      some descriptor.resultCiphertextCommitment) "malformed encrypted pledge"
  revertIf ((library.protocolBindingDigest operator.keyID ciphertext).toOption ≠
      some descriptor.protocolBinding) "invalid threshold protocol binding"
  revertIf (¬ coalitionContains descriptor.coalition operator.point)
    "insufficient threshold shares"

def maxReleaseShareSize : ℕ := 64 * 2 ^ 20

/-- The rest of `GenerateReleaseShare`: a key-switch share, drawn with `coins`, and the
operator's signature over it. -/
def ThresholdOperator.respond (operator : ThresholdOperator) (descriptor : ReleaseDescriptor)
    (ciphertext : Ciphertext) (coins : Bytes) : Except String ThresholdReleaseResponse := do
  let share ← library.keySwitchShare operator descriptor.coalition ciphertext coins
  revertIf (share.length = 0 ∨ maxReleaseShareSize < share.length)
    "invalid threshold release share"
  let shareDigest := library.keccak256 share
  let statementDigest := library.thresholdResponseStatementDigest descriptor
    operator.identity.operatorID operator.point shareDigest
  pure
    { operatorID := operator.identity.operatorID
      point := operator.point
      sessionID := descriptor.sessionID
      protocolBinding := descriptor.protocolBinding
      shareDigest
      share
      statementDigest
      signature := library.sign operator.signingKey (wordBytes statementDigest) }

/-! ## The confirmation -/

def coalitionSettlementDomain : Bytes :=
  stringBytes "MordantCoalitionSettlementStatement/v1" ++ [0]

/-- Whether a message is short is decided by its first bytes. -/
local instance decidableShort (message : Bytes) (n : ℕ) : Decidable (message.length ≤ n) :=
  decidable_of_iff (message.drop n = []) List.drop_eq_nil_iff

def ThresholdOperator.signSettlementStatement (operator : ThresholdOperator) (message : Bytes) :
    Except String Bytes := do
  revertIf (operator.signingKey.length ≠ 64) "invalid threshold operator material"
  revertIf (message.length ≤ 32 ∨ ¬ coalitionSettlementDomain <+: message)
    "invalid threshold operator material"
  pure (library.sign operator.signingKey message)

def recombine (manifest : ThresholdManifest) (request : OperatorReleaseRequestV5)
    (ciphertext : Ciphertext) (responses : List ThresholdReleaseResponse) (slot : BitVec 8) :
    Except String Bool := do
  let descriptor ← releaseDescriptorForSlot library request.descriptor ciphertext
    request.coalition slot manifest.keyID
  let (released, transcript) ← library.combineReleaseBitV5 descriptor manifest ciphertext responses
  revertIf (transcript = 0) "insufficient threshold shares"
  pure released

/-- `%t`. -/
def boolText (b : Bool) : String := if b then "true" else "false"

def confirmReleasedBits (threshold : ThresholdOperator) (manifest : ThresholdManifest)
    (request : OperatorReleaseRequestV5) (verdict : OperatorVerdictV5)
    (sameAssetShares policyConflictShares : List ThresholdReleaseResponse)
    (claimedSameAsset claimedPolicyConflict : Bool) (statement : Bytes) : Except String Bytes := do
  let outputs ← require "operator release check failed"
    (if verdict.accepted then verdict.outputs else none)
  let sameAsset ← recombine library manifest request outputs.sameEconomicAsset sameAssetShares 0
  let policyConflict ←
    recombine library manifest request outputs.policyConflict policyConflictShares 1
  revertIf (sameAsset ≠ claimedSameAsset ∨ policyConflict ≠ claimedPolicyConflict)
    ("operator refuses to confirm the released bits: recombined (" ++ boolText sameAsset ++ "," ++
      boolText policyConflict ++ "), was shown (" ++ boolText claimedSameAsset ++ "," ++
      boolText claimedPolicyConflict ++ ")")
  threshold.signSettlementStatement library statement

end

/-! ## What an operator insists on -/

section

variable {library : FheLibrary} {runtime : Runtime} {threshold operator : ThresholdOperator}
  {fingerprint : Digest} {request : OperatorReleaseRequestV5} {now : ℤ}
  {existing : Except LedgerError SessionRecord} {descriptor : ReleaseDescriptor}
  {ciphertext : Ciphertext}

/-- A share is generated only for a coalition of two, and by one of them. -/
theorem validateReleaseRequest_ok
    (h : operator.validateReleaseRequest library descriptor ciphertext = .ok ()) :
    descriptor.coalition.1 ≠ descriptor.coalition.2 ∧
      coalitionContains descriptor.coalition operator.point := by
  simp only [ThresholdOperator.validateReleaseRequest, validateReleaseDescriptor, bind_ok_iff,
    revertIf_ok_iff, exists_const, not_or, not_not] at h
  obtain ⟨-, ⟨-, -, -, -, -, -, -, -, -, -, -, -, -, hdistinct⟩, -, -, -, hmember⟩ := h
  exact ⟨hdistinct, hmember⟩

theorem releaseDescriptorForSlot_coalition {descriptorV5 : ReleaseDescriptorV5}
    {coalition : Word64 × Word64} {slot : BitVec 8} {keyID : Digest}
    (h : releaseDescriptorForSlot library descriptorV5 ciphertext coalition slot keyID =
      .ok descriptor) : descriptor.coalition = coalition := by
  simp only [releaseDescriptorForSlot, bind_ok_iff, pure_ok_iff] at h
  obtain ⟨_, -, _, -, rfl⟩ := h
  rfl

end

end Mordant.Coalition
