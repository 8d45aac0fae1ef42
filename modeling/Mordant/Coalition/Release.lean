/-
# The coalition release

`CoalitionDecryptor.Release` as a program over the shared files of a case: the three
objects it creates in the public store, and the ledger file of each operator.  Calls run
in processes of their own, on operators of their own choice, and can be lost between any
two operations.

A share is generated in the memory of a process.  It is recorded here when it is
generated, with the call that had it generated and whether the result object existed.
The other objects of a case are created once and before; `CaseFiles` is what they decode
to.
-/

import Mordant.Coalition.Statement
import Mordant.Foundation.Interleaving

namespace Mordant.Coalition

open Evm Foundation

/-! ## Errors -/

/-- The errors a release wraps. -/
inductive Sentinel
  | coalition
  | quorumUnavailable
  | operatorDivergence
  | binding
  | artifact
  | store
  | releaseAmbiguous
  | evaluatorMismatch
  | enrollmentV5
  deriving DecidableEq

structure Thrown where
  sentinel : Sentinel
  detail : String := ""

/-! ## The objects of a case -/

def coalitionThreshold : ℕ := 2
def coalitionOperators : ℕ := 3
def coalitionThresholdManifestSchema : String := "mordant.fhe-coalition-threshold-manifest/1"
def coalitionResultSchema : String := "mordant.coalition-conflict-result/1"

/-- `FHECaseBinding`, as far as a release reads it. -/
structure FHECaseBinding where
  caseID : Digest
  assetIdentity : Digest
  policyID : Digest
  parameterFingerprint : Digest
  publicKeyDigest : Digest
  participantA : Digest
  participantB : Digest
  releaseMode : String
  releaseAuthorityID : Digest
  createdAtUnix : ℤ
  expiresAtUnix : ℤ

structure ThresholdOperatorRecord where
  operatorID : Digest
  point : Word64
  signingPublicKey : Bytes

structure CoalitionThresholdManifest where
  schemaVersion : String
  caseID : Digest
  keyID : Digest
  parameterFingerprint : Digest
  threshold : BitVec 16
  operators : List ThresholdOperatorRecord
  operatorTopology : String

/-- The loop of `CoalitionThresholdManifest.validate`; `seen` are the points so far. -/
def validateOperators (seen : List Word64) : List ThresholdOperatorRecord → Except Thrown Unit
  | [] => pure ()
  | operator :: rest => do
    revertIf (operator.operatorID = 0 ∨ operator.point = 0 ∨
        operator.signingPublicKey.length ≠ 32 ∨ operator.point ∈ seen)
      ⟨.coalition, "malformed operator record"⟩
    validateOperators (operator.point :: seen) rest

namespace CoalitionThresholdManifest

def validate (manifest : CoalitionThresholdManifest) : Except Thrown Unit := do
  revertIf (manifest.schemaVersion ≠ coalitionThresholdManifestSchema ∨ manifest.caseID = 0 ∨
      manifest.keyID = 0 ∨ manifest.parameterFingerprint = 0 ∨
      manifest.threshold.toNat ≠ coalitionThreshold ∨
      manifest.operators.length ≠ coalitionOperators ∨ manifest.operatorTopology = "")
    ⟨.coalition, "malformed threshold manifest"⟩
  validateOperators [] manifest.operators

def thresholdManifest (manifest : CoalitionThresholdManifest) : ThresholdManifest :=
  { keyID := manifest.keyID
    parameterFingerprint := manifest.parameterFingerprint
    threshold := manifest.threshold
    operators := manifest.operators.map fun record =>
      ⟨record.operatorID, record.point, record.signingPublicKey⟩ }

/-- `manifestContainsOperator`. -/
def containsOperator (manifest : CoalitionThresholdManifest) (identity : ThresholdOperatorPublic) :
    Bool :=
  manifest.operators.any fun record => record.point = identity.point &&
    record.operatorID = identity.operatorID &&
    record.signingPublicKey = identity.signingPublicKey

end CoalitionThresholdManifest

/-- `EvaluatedConflictArtifact`, as far as a release reads it. -/
structure EvaluatedConflictArtifact where
  participantArtifactDigests : Digest × Digest
  encoded : Bytes

/-- `CipherPledge`, as far as a release reads it. -/
structure CipherPledge where
  keyID : String
  policyBits : Ciphertext
  currencyBits : Ciphertext
  receivableIDBits : Ciphertext

structure ValidatedFreshParticipants where
  digestA : Digest
  digestB : Digest
  pledgeA : CipherPledge
  pledgeB : CipherPledge

/-- `CaseEnrollmentsV5`, as far as a release reads it. -/
structure CaseEnrollmentsV5 where
  paired : PairedEnrollmentsV5
  signedA : SignedCiphertextEnrollmentV5
  signedB : SignedCiphertextEnrollmentV5

structure CoalitionOperatorStatement where
  point : Word64
  slot : BitVec 8
  statementDigest : String
  signature : String
  deriving DecidableEq

structure CoalitionSettlementAttestation where
  point : Word64
  signature : Bytes
  deriving DecidableEq

structure CoalitionConflictResult where
  schemaVersion : String
  caseID : Digest
  caseBindingDigest : Digest
  assetIdentity : Digest
  serviceID : String
  serviceVersion : BitVec 32
  policyID : Digest
  policyVersion : BitVec 32
  circuitID : String
  circuitVersion : BitVec 32
  circuitDigest : Digest
  parameterProfile : String
  parameterFingerprint : Digest
  participantArtifactDigests : List Digest
  enrollmentDigestA : String
  enrollmentDigestB : String
  evaluatedArtifactDigest : Digest
  sameEconomicAsset : Bool
  policyConflict : Bool
  releaseMode : String
  releaseAuthorityID : Digest
  threshold : BitVec 16
  coalition : List Word64
  operatorTopology : String
  operatorStatements : List CoalitionOperatorStatement
  releaseTranscript : String
  settlementAttestations : List CoalitionSettlementAttestation
  runtimeFingerprint : String
  recomputedByAllOfQuorum : Bool
  releasedAtUnix : ℤ
  sourceProvenance : Digest
  deriving DecidableEq

structure CoalitionAdmission where
  schemaVersion : String
  caseID : Digest
  caseBindingDigest : Digest
  evaluatedArtifactDigest : Digest
  releaseMode : String
  admittedAtUnix : ℤ

structure CoalitionConsumed where
  schemaVersion : String
  caseID : Digest
  evaluatedArtifactDigest : Digest
  resultDigest : Digest
  consumedAtUnix : ℤ

def coalitionSettlementStatement (result : CoalitionConflictResult) (point : Word64) :
    CoalitionSettlementStatement :=
  { schemaVersion := coalitionSettlementStatementSchema
    caseID := result.caseID
    caseBindingDigest := result.caseBindingDigest
    assetIdentity := result.assetIdentity
    releaseAuthorityID := result.releaseAuthorityID
    releaseMode := result.releaseMode
    releaseTranscript := result.releaseTranscript
    coalition := result.coalition
    threshold := result.threshold
    sameEconomicAsset := result.sameEconomicAsset
    policyConflict := result.policyConflict
    point }

/-- What the other objects of a case decode to, and what is computed from them. -/
structure CaseFiles where
  loadCaseManifest : Except Thrown FHECaseBinding
  thresholdManifest : Option CoalitionThresholdManifest
  loadEvaluatedArtifact : FHECaseBinding →
    Except Thrown (EvaluatedConflictArtifact × Bytes × Digest)
  loadAndValidateFreshParticipants : FHECaseBinding → ℤ → Except Thrown ValidatedFreshParticipants
  loadEvaluationRuntime : FHECaseBinding → Except Thrown Runtime
  registerCaseEnrollmentIssuers : Runtime → FHECaseBinding → Except Thrown Runtime
  reconstructEnrollments : FHECaseBinding → ValidatedFreshParticipants →
    Except Thrown (SignedCiphertextEnrollmentV5 × SignedCiphertextEnrollmentV5)
  coalitionRuntimeIdentity : FHECaseBinding → Except Thrown Digest
  bindingDigest : FHECaseBinding → Except Thrown Digest
  manifestDigest : CoalitionThresholdManifest → Except Thrown Digest
  artifactDigest : EvaluatedConflictArtifact → Digest
  resultDigest : CoalitionConflictResult → Digest
  fixedCircuitDigest : Digest

/-! ## Shared state -/

/-- A ledger file: the root of the ledgers and the place of the operator's root in the list. -/
abbrev LedgerPath := String × ℕ

inductive ObjectName
  | admission
  | result
  | consumed

inductive ReleaseObject
  | admission (value : CoalitionAdmission)
  | result (value : CoalitionConflictResult)
  | consumed (value : CoalitionConsumed)

/-- A share that was generated. -/
structure Share (ι : Type) where
  call : ι
  point : Word64
  session : Digest
  slot : BitVec 8
  afterResult : Bool

/-- The release objects of the public store, the ledger files and who has them open, and
the shares generated so far. -/
structure Shared (ι : Type) where
  admission : Option CoalitionAdmission := none
  result : Option CoalitionConflictResult := none
  consumed : Option CoalitionConsumed := none
  ledgers : LedgerPath → SessionLedger := fun _ => {}
  holder : LedgerPath → Option ι := fun _ => none
  shares : List (Share ι) := []

/-- What a release does outside its own memory, and the generation of a share. -/
inductive ReleaseOp
  | objectExists (name : ObjectName)
  | create (object : ReleaseObject)
  | readResult
  | openLedger (path : LedgerPath)
  | closeLedger (path : LedgerPath)
  | getSession (path : LedgerPath) (sessionCommitment : Digest)
  | generateShare (point : Word64) (sessionCommitment : Digest) (slot : BitVec 8)

abbrev ReleaseOp.Answer : ReleaseOp → Type
  | .objectExists _ => Bool
  | .create _ => Except Thrown Unit
  | .readResult => Option CoalitionConflictResult
  | .openLedger _ => Bool
  | .closeLedger _ => Unit
  | .getSession _ _ => Except LedgerError SessionRecord
  | .generateShare _ _ _ => Unit

section

variable {ι : Type} [DecidableEq ι]

def Shared.objectExists (s : Shared ι) : ObjectName → Bool
  | .admission => s.admission.isSome
  | .result => s.result.isSome
  | .consumed => s.consumed.isSome

/-- `createJSON`: an object is created once. -/
def Shared.create (s : Shared ι) : ReleaseObject → Except Thrown Unit × Shared ι
  | .admission value =>
    if s.admission.isSome then (.error ⟨.store, ""⟩, s)
    else (.ok (), { s with admission := some value })
  | .result value =>
    if s.result.isSome then (.error ⟨.store, ""⟩, s)
    else (.ok (), { s with result := some value })
  | .consumed value =>
    if s.consumed.isSome then (.error ⟨.store, ""⟩, s)
    else (.ok (), { s with consumed := some value })

/-- What an operation of the call `i` answers and does. A ledger file that another call
has open does not open before the timeout. -/
def ReleaseOp.act (i : ι) : (op : ReleaseOp) → Shared ι → op.Answer × Shared ι
  | .objectExists name, s => (s.objectExists name, s)
  | .create object, s => s.create object
  | .readResult, s => (s.result, s)
  | .openLedger path, s =>
    if (s.holder path).isNone then
      (true, { s with holder := Function.update s.holder path (some i) })
    else (false, s)
  | .closeLedger path, s =>
    ((), if s.holder path = some i then
      { s with holder := Function.update s.holder path none } else s)
  | .getSession path sessionCommitment, s => ((s.ledgers path).get sessionCommitment, s)
  | .generateShare point sessionCommitment slot, s =>
    ((), { s with shares := s.shares ++ [⟨i, point, sessionCommitment, slot, s.result.isSome⟩] })

/-- The locks of a process are gone with it. -/
def Shared.lose (i : ι) (s : Shared ι) : Shared ι :=
  { s with holder := fun path => if s.holder path = some i then none else s.holder path }

def releaseEffects (ι : Type) [DecidableEq ι] : Effects ι (Shared ι) ReleaseOp ReleaseOp.Answer :=
  ⟨ReleaseOp.act, Shared.lose⟩

end

/-! ## One call -/

structure CoalitionDecryptorConfig where
  operatorRoots : List String
  ledgerRoot : String
  provenance : Digest
  now : ℤ

/-- A call of `Release`: its decryptor, its argument, what it finds at the operator roots,
and the randomness of its shares. -/
structure ReleaseCall where
  config : CoalitionDecryptorConfig
  expected : EvaluatedConflictArtifact
  openBundle : String → Except String ThresholdOperator
  coins : Word64 → BitVec 8 → Bytes

structure CoalitionOperator where
  runtime : Runtime
  threshold : ThresholdOperator
  fingerprint : Digest
  ledger : LedgerPath
  verdict : OperatorVerdictV5 := {}

def CoalitionOperator.point (held : CoalitionOperator) : Word64 := held.threshold.point

/-- What `Release` knows before it looks at the release objects. -/
structure Prepared where
  binding : FHECaseBinding
  manifest : CoalitionThresholdManifest
  bindingDigest : Digest
  artifactDigest : Digest
  participants : ValidatedFreshParticipants
  enrollments : CaseEnrollmentsV5
  inputs : CircuitInputsV5
  outputsDigest : Digest
  fingerprint : Digest
  descriptor : ReleaseDescriptorV5

abbrev ReleaseProgram (α : Type) : Type := Program ReleaseOp ReleaseOp.Answer Thrown α

def closeLedger (path : LedgerPath) : ReleaseProgram Unit :=
  Program.ask (ReleaseOp.closeLedger path)

def generateShare (point : Word64) (sessionCommitment : Digest) (slot : BitVec 8) :
    ReleaseProgram Unit :=
  Program.ask (ReleaseOp.generateShare point sessionCommitment slot)

def createJSON (object : ReleaseObject) : ReleaseProgram Unit := do
  let created ← Program.ask (.create object)
  Program.lift created

section

variable (library : FheLibrary) (files : CaseFiles)

def loadCoalitionThresholdManifest (binding : FHECaseBinding) :
    Except Thrown CoalitionThresholdManifest := do
  let manifest ← require ⟨.coalition, "governed FHE artifact rejected"⟩ files.thresholdManifest
  manifest.validate
  revertIf (manifest.caseID ≠ binding.caseID ∨
      manifest.parameterFingerprint ≠ binding.parameterFingerprint ∨
      manifest.keyID ≠ binding.publicKeyDigest)
    ⟨.coalition, "threshold manifest does not describe this case"⟩
  let digest ← files.manifestDigest manifest
  revertIf (digest ≠ binding.releaseAuthorityID)
    ⟨.coalition, "threshold manifest is not the case's release authority"⟩
  pure manifest

/-- `verifyCaseEnrollmentsV5`. The issuers are those of the binding, and the session is
the binding's digest. -/
def verifyCaseEnrollmentsV5 (runtime : Runtime) (binding : FHECaseBinding)
    (participants : ValidatedFreshParticipants) (now : ℤ) : Except Thrown CaseEnrollmentsV5 := do
  let caseBindingDigest ← files.bindingDigest binding
  let (signedA, signedB) ← files.reconstructEnrollments binding participants
  let runtime ← files.registerCaseEnrollmentIssuers runtime binding
  let verify (signed : SignedCiphertextEnrollmentV5) :=
    verifyEnrollmentV5 library.keccak256 library.ed25519Verify runtime signed now
  let _ ← (verify signedA).mapError fun error => ⟨.enrollmentV5, "participant A: " ++ error⟩
  let _ ← (verify signedB).mapError fun error => ⟨.enrollmentV5, "participant B: " ++ error⟩
  let paired ← (pairEnrollmentsV5 library.keccak256 signedA signedB).mapError fun error =>
    ⟨.enrollmentV5, error⟩
  revertIf (signedA.enrollment.authorizationClaim.vault ≠
      signedB.enrollment.authorizationClaim.vault)
    ⟨.enrollmentV5, "participants named different settlement vaults"⟩
  let side (pledge : CipherPledge) := circuitSideDigestV5 library pledge.policyBits
    pledge.currencyBits pledge.receivableIDBits
  revertIf (paired.sessionCommitment ≠ caseBindingDigest ∨
      paired.ciphertextDigestA ≠ side participants.pledgeA ∨
      paired.ciphertextDigestB ≠ side participants.pledgeB ∨
      paired.scopeCommitmentA ≠ binding.participantA ∨
      paired.scopeCommitmentB ≠ binding.participantB)
    ⟨.enrollmentV5, "paired enrollments do not authorize this case"⟩
  pure ⟨paired, signedA, signedB⟩

/-- `Release` up to the descriptor. -/
def prepare (call : ReleaseCall) : Except Thrown Prepared := do
  let now := call.config.now
  let binding ← files.loadCaseManifest.mapError fun _ => ⟨.binding, ""⟩
  revertIf (now < binding.createdAtUnix ∨ now > binding.expiresAtUnix) ⟨.binding, ""⟩
  revertIf (binding.releaseMode ≠ releaseModeCoalitionV5)
    ⟨.coalition, "case is not a coalition case"⟩
  let manifest ← loadCoalitionThresholdManifest files binding
  let (artifact, evaluatorResultBytes, artifactDigest) ← files.loadEvaluatedArtifact binding
  revertIf (files.artifactDigest call.expected ≠ files.artifactDigest artifact) ⟨.binding, ""⟩
  let bindingDigest ← files.bindingDigest binding
  let participants ← files.loadAndValidateFreshParticipants binding now
  revertIf ((participants.digestA, participants.digestB) ≠ artifact.participantArtifactDigests)
    ⟨.binding, ""⟩
  let runtime ← (files.loadEvaluationRuntime binding).mapError fun _ => ⟨.binding, ""⟩
  revertIf (participants.pledgeA.keyID ≠ runtime.keyID ∨
      participants.pledgeB.keyID ≠ runtime.keyID) ⟨.binding, ""⟩
  let enrollments ← verifyCaseEnrollmentsV5 library files runtime binding participants now
  let inputs : CircuitInputsV5 :=
    { policyBitsA := participants.pledgeA.policyBits
      policyBitsB := participants.pledgeB.policyBits
      currencyBitsA := participants.pledgeA.currencyBits
      currencyBitsB := participants.pledgeB.currencyBits
      receivableIDsA := participants.pledgeA.receivableIDBits
      receivableIDsB := participants.pledgeB.receivableIDBits }
  let proposed ← (library.recomputeCircuitV5 runtime inputs).mapError fun _ =>
    ⟨.coalition, "coordinator recomputation failed"⟩
  let outputsDigest := proposed.digest library
  revertIf (proposed.policyConflict ≠ evaluatorResultBytes)
    ⟨.evaluatorMismatch, "published evaluation does not match the recomputed circuit"⟩
  let fingerprint ← files.coalitionRuntimeIdentity binding
  pure
    { binding, manifest, bindingDigest, artifactDigest, participants, enrollments, inputs
      outputsDigest, fingerprint
      descriptor :=
        { sessionCommitment := enrollments.paired.sessionCommitment
          sessionNullifier := enrollments.paired.sessionNullifier
          enrollmentDigestA := enrollments.paired.enrollmentDigestA
          enrollmentDigestB := enrollments.paired.enrollmentDigestB
          inputsDigest := inputs.digest library
          outputsDigest
          circuitVersion := circuitV5Version
          runtimeFingerprint := fingerprint
          keyID := runtime.keyIDBytes
          parameterFingerprint := runtime.parameterFingerprint
          policyID := binding.policyID
          policyVersion
          expiresAt := BitVec.ofInt 64 binding.expiresAtUnix } }

/-! ### The operators -/

open Program

/-- One turn of the loop in `openOperators`: an operator, or why its root is skipped. -/
def openOperator (call : ReleaseCall) (prepared : Prepared) (index : ℕ) (root : String) :
    ReleaseProgram (Except String CoalitionOperator) :=
  match call.openBundle root with
  | .error reason => pure (.error reason)
  | .ok threshold =>
    match files.loadEvaluationRuntime prepared.binding with
    | .error error => pure (.error ("evaluator did not load: " ++ error.detail))
    | .ok runtime =>
      match files.registerCaseEnrollmentIssuers runtime prepared.binding with
      | .error error => pure (.error ("trust store not derivable: " ++ error.detail))
      | .ok runtime => do
        let path := (call.config.ledgerRoot, index + 1)
        let opened ← ask (.openLedger path)
        if opened = false then
          pure (.error "ledger did not open: open session ledger: timeout")
        else
          match newReleaseOperatorV5 runtime prepared.fingerprint with
          | .error error => do
            closeLedger path
            pure (.error ("operator refused to bind: " ++ error))
          | .ok _ =>
            if prepared.manifest.containsOperator threshold.identity = false then do
              closeLedger path
              pure (.error "share is not in this case's published threshold manifest")
            else
              pure (.ok
                { runtime, threshold, fingerprint := prepared.fingerprint, ledger := path })

/-- The loop of `openOperators`, from one root on. -/
def openEach (call : ReleaseCall) (prepared : Prepared) :
    ℕ → List String → ReleaseProgram (List CoalitionOperator × List String)
  | _, [] => pure ([], [])
  | index, root :: roots => do
    let opened ← openOperator files call prepared index root
    let (operators, unreachable) ← openEach call prepared (index + 1) roots
    match opened with
    | .ok held => pure (held :: operators, unreachable)
    | .error reason =>
      pure (operators, ("operator root " ++ toString (index + 1) ++ ": " ++ reason) :: unreachable)

/-- Close the ledger of every operator that was opened. -/
def closeLedgers : List CoalitionOperator → ReleaseProgram Unit
  | [] => pure ()
  | held :: rest => do
    closeLedger held.ledger
    closeLedgers rest

def openOperators (call : ReleaseCall) (prepared : Prepared) :
    ReleaseProgram (List CoalitionOperator) := do
  let (operators, unreachable) ← openEach files call prepared 0 call.config.operatorRoots
  if operators.length < coalitionThreshold then do
    closeLedgers operators
    lift (.error ⟨.quorumUnavailable, toString operators.length ++ " of " ++
      toString call.config.operatorRoots.length ++ " operators reachable, " ++
      toString coalitionThreshold ++ " required" ++
      String.join (unreachable.map fun reason => "; " ++ reason)⟩)
  else pure operators

/-- `refusalDetail` for one operator. -/
def refusalText (held : CoalitionOperator) (error : Option String) : Option String :=
  let failed := (held.verdict.checks.filter fun check => !check.passed).map fun check =>
    if check.detail = "" then check.name else check.name ++ "(" ++ check.detail ++ ")"
  let reason := ",".intercalate failed
  let reason := if reason = "" then error.getD "" else reason
  if reason = "" then none
  else some ("operator " ++ toString held.point.toNat ++ ": " ++ reason)

/-- Every operator looks the session up in its ledger, verifies and recomputes. -/
def verifyEach (request : OperatorReleaseRequestV5) (now : ℤ) :
    List CoalitionOperator → ReleaseProgram (List (CoalitionOperator × Option String))
  | [] => pure []
  | held :: rest => do
    let existing ← ask (.getSession held.ledger request.descriptor.sessionCommitment)
    let (verdict, error) := verifyAndRecompute library held.runtime held.threshold
      held.fingerprint request now existing
    let verified ← verifyEach request now rest
    pure (({ held with verdict }, error) :: verified)

/-- The divergence loop of `verifyQuorum`. -/
def checkDivergence (first proposedOutputs : Digest) :
    List CoalitionOperator → Except Thrown Unit
  | [] => pure ()
  | held :: rest => do
    revertIf (held.verdict.recomputedOutputsDigest ≠ first) ⟨.operatorDivergence, ""⟩
    revertIf (held.verdict.recomputedOutputsDigest ≠ proposedOutputs) ⟨.operatorDivergence,
      "operator " ++ toString held.point.toNat ++ " disagrees with the proposal"⟩
    checkDivergence first proposedOutputs rest

def verifyQuorum (operators : List CoalitionOperator) (request : OperatorReleaseRequestV5)
    (proposedOutputs : Digest) (now : ℤ) : ReleaseProgram (List CoalitionOperator) := do
  let verified ← verifyEach library request now operators
  let accepted := (verified.filter fun (held, error) =>
    error.isNone && held.verdict.accepted).map Prod.fst
  throwIf (accepted.length < coalitionThreshold) ⟨.quorumUnavailable,
    toString accepted.length ++ " of " ++ toString operators.length ++ " operators accepted" ++
      String.join ((verified.filterMap fun (held, error) => refusalText held error).map
        fun detail => "; " ++ detail)⟩
  let first := (accepted.head?.map (·.verdict.recomputedOutputsDigest)).getD 0
  lift (checkDivergence first proposedOutputs accepted)
  pure (accepted.take coalitionThreshold)

/-! ### The shares -/

/-- `shareFor`, with `GenerateReleaseShare`. -/
def shareFor (call : ReleaseCall) (request : OperatorReleaseRequestV5) (held : CoalitionOperator)
    (ciphertext : Ciphertext) (slot : BitVec 8) : ReleaseProgram ThresholdReleaseResponse := do
  let refused (error : String) : Thrown := ⟨.coalition,
    "operator " ++ toString held.point.toNat ++ " refused to share: " ++ error⟩
  let legacy ← lift ((releaseDescriptorForSlot library request.descriptor ciphertext
    request.coalition slot held.threshold.keyID).mapError refused)
  lift ((held.threshold.validateReleaseRequest library legacy ciphertext).mapError refused)
  generateShare held.point request.descriptor.sessionCommitment slot
  lift ((held.threshold.respond library legacy ciphertext (call.coins held.point slot)).mapError
    refused)

def releaseShares (call : ReleaseCall) (request : OperatorReleaseRequestV5)
    (held : CoalitionOperator) :
    ReleaseProgram (ThresholdReleaseResponse × ThresholdReleaseResponse) := do
  let outputs ← lift (require
    ⟨.coalition, "operator " ++ toString held.point.toNat ++
      " refused to share: operator release check failed"⟩
    (if held.verdict.accepted then held.verdict.outputs else none))
  let sameAsset ← shareFor library call request held outputs.sameEconomicAsset 0
  let policyConflict ← shareFor library call request held outputs.policyConflict 1
  pure (sameAsset, policyConflict)

/-- The loop of `releaseCoalitionBits`. -/
def releaseEach (call : ReleaseCall) (request : OperatorReleaseRequestV5) :
    List CoalitionOperator →
      ReleaseProgram (List (ThresholdReleaseResponse × ThresholdReleaseResponse))
  | [] => pure []
  | held :: rest => do
    let shares ← releaseShares library call request held
    let others ← releaseEach call request rest
    pure (shares :: others)

/-- The statement of one response. -/
def statementOf (response : ThresholdReleaseResponse) (slot : BitVec 8) :
    CoalitionOperatorStatement :=
  { point := response.point
    slot
    statementDigest := bytes32Hex response.statementDigest
    signature := "0x" ++ hexText response.signature }

def combineCoalitionBit (manifest : ThresholdManifest) (request : OperatorReleaseRequestV5)
    (ciphertext : Ciphertext) (shares : List ThresholdReleaseResponse) (slot : BitVec 8) :
    Except String Bool := do
  let descriptor ← releaseDescriptorForSlot library request.descriptor ciphertext
    request.coalition slot manifest.keyID
  let (confirmed, transcript) ← library.combineReleaseBitV5 descriptor manifest ciphertext shares
  revertIf (transcript = 0) "coalition release: empty threshold transcript"
  pure confirmed

/-- The rest of `releaseCoalitionBits`: the two bits. -/
def combineBits (manifest : ThresholdManifest) (request : OperatorReleaseRequestV5)
    (quorum : List CoalitionOperator)
    (shares : List (ThresholdReleaseResponse × ThresholdReleaseResponse)) :
    Except Thrown (Bool × Bool) := do
  let outputs ← require ⟨.coalition, "quorum carries no recomputed outputs"⟩
    (quorum.head?.bind (·.verdict.outputs))
  let sameAsset ← (combineCoalitionBit library manifest request outputs.sameEconomicAsset
    (shares.map Prod.fst) 0).mapError fun error => ⟨.coalition, "sameEconomicAsset: " ++ error⟩
  let policyConflict ← (combineCoalitionBit library manifest request outputs.policyConflict
    (shares.map Prod.snd) 1).mapError fun error => ⟨.coalition, "policyConflict: " ++ error⟩
  revertIf (policyConflict = true ∧ sameAsset = false)
    ⟨.coalition, "policy conflict without asset match"⟩
  pure (sameAsset, policyConflict)

/-! ### The result -/

/-- The result before the confirmation round. -/
def unconfirmedResult (call : ReleaseCall) (prepared : Prepared) (coalition : Word64 × Word64)
    (statements : List CoalitionOperatorStatement) (transcriptDigest : Digest)
    (sameEconomicAsset policyConflict : Bool) : CoalitionConflictResult :=
  { schemaVersion := coalitionResultSchema
    caseID := prepared.binding.caseID
    caseBindingDigest := prepared.bindingDigest
    assetIdentity := prepared.binding.assetIdentity
    serviceID
    serviceVersion
    policyID := prepared.binding.policyID
    policyVersion
    circuitID
    circuitVersion := circuitV5Version
    circuitDigest := files.fixedCircuitDigest
    parameterProfile
    parameterFingerprint := prepared.binding.parameterFingerprint
    participantArtifactDigests := [prepared.participants.digestA, prepared.participants.digestB]
    enrollmentDigestA := bytes32Hex prepared.descriptor.enrollmentDigestA
    enrollmentDigestB := bytes32Hex prepared.descriptor.enrollmentDigestB
    evaluatedArtifactDigest := prepared.artifactDigest
    sameEconomicAsset
    policyConflict
    releaseMode := releaseModeCoalitionV5
    releaseAuthorityID := prepared.binding.releaseAuthorityID
    threshold := BitVec.ofNat 16 coalitionThreshold
    coalition := [coalition.1, coalition.2]
    operatorTopology := prepared.manifest.operatorTopology
    operatorStatements := statements
    releaseTranscript := bytes32Hex transcriptDigest
    settlementAttestations := []
    runtimeFingerprint := bytes32Hex prepared.fingerprint
    recomputedByAllOfQuorum := true
    releasedAtUnix := call.config.now
    sourceProvenance := call.config.provenance }

/-- The confirmation round: every operator of the quorum recombines the bits. -/
def confirmEach (manifest : ThresholdManifest) (request : OperatorReleaseRequestV5)
    (result : CoalitionConflictResult)
    (shares : List (ThresholdReleaseResponse × ThresholdReleaseResponse)) :
    List CoalitionOperator → Except Thrown (List CoalitionSettlementAttestation)
  | [] => pure []
  | held :: rest => do
    let message := (coalitionSettlementStatement result held.point).signingMessage
    let signature ← (confirmReleasedBits library held.threshold manifest request held.verdict
      (shares.map Prod.fst) (shares.map Prod.snd) result.sameEconomicAsset result.policyConflict
      message).mapError fun error => ⟨.coalition, "operator " ++ toString held.point.toNat ++
        " would not confirm the released bits: " ++ error⟩
    let attestations ← confirmEach manifest request result shares rest
    pure (⟨held.point, signature⟩ :: attestations)

/-- What `Release` computes from the shares. -/
def composeResult (call : ReleaseCall) (prepared : Prepared) (request : OperatorReleaseRequestV5)
    (quorum : List CoalitionOperator)
    (shares : List (ThresholdReleaseResponse × ThresholdReleaseResponse)) :
    Except Thrown CoalitionConflictResult := do
  let manifest := prepared.manifest.thresholdManifest
  let (sameAsset, policyConflict) ← combineBits library manifest request quorum shares
  let responses := shares.flatMap fun (same, conflict) => [(same, (0 : BitVec 8)), (conflict, 1)]
  let statements := responses.map fun (response, slot) => statementOf response slot
  let transcript := request.descriptor.transcript request.coalition
    (BitVec.ofNat 16 coalitionThreshold)
    (responses.map fun (response, _) => response.statementDigest) sameAsset policyConflict
    (BitVec.ofInt 64 call.config.now)
  let transcriptDigest ← (transcript.digest library.keccak256).mapError fun error =>
    ⟨.coalition, error⟩
  let result := unconfirmedResult files call prepared request.coalition statements
    transcriptDigest sameAsset policyConflict
  let attestations ← confirmEach library manifest request result shares quorum
  pure { result with settlementAttestations := attestations }

/-- `Release` with its ledgers open. -/
def releaseWith (call : ReleaseCall) (prepared : Prepared) (operators : List CoalitionOperator) :
    ReleaseProgram CoalitionConflictResult :=
  match operators with
  | first :: second :: _ => do
    let request : OperatorReleaseRequestV5 :=
      { descriptor := prepared.descriptor
        enrollmentA := prepared.enrollments.signedA
        enrollmentB := prepared.enrollments.signedB
        inputs := prepared.inputs
        coalition := (first.point, second.point) }
    let quorum ← verifyQuorum library [first, second] request prepared.outputsDigest
      call.config.now
    let shares ← releaseEach library call request quorum
    let result ← lift (composeResult library files call prepared request quorum shares)
    createJSON (.result result)
    createJSON (.consumed
      { schemaVersion := coalitionResultSchema
        caseID := result.caseID
        evaluatedArtifactDigest := prepared.artifactDigest
        resultDigest := files.resultDigest result
        consumedAtUnix := call.config.now })
    pure result
  | _ => lift (.error ⟨.quorumUnavailable, ""⟩)

/-- The consumed marker and the admission. -/
def admitRelease (call : ReleaseCall) (prepared : Prepared) : ReleaseProgram Unit := do
  let consumed ← ask (.objectExists .consumed)
  throwIf (consumed = true) ⟨.releaseAmbiguous, ""⟩
  let admitted ← ask (.objectExists .admission)
  if admitted = true then pure ()
  else createJSON (.admission
    { schemaVersion := coalitionResultSchema
      caseID := prepared.binding.caseID
      caseBindingDigest := prepared.bindingDigest
      evaluatedArtifactDigest := prepared.artifactDigest
      releaseMode := releaseModeCoalitionV5
      admittedAtUnix := call.config.now })

/-- `NewCoalitionDecryptor` and `Release`. -/
def release (call : ReleaseCall) : ReleaseProgram CoalitionConflictResult := do
  throwIf (call.config.provenance = 0 ∨ call.config.operatorRoots.length < coalitionThreshold ∨
    call.config.ledgerRoot = "") ⟨.coalition, ""⟩
  let prepared ← lift (prepare library files call)
  admitRelease call prepared
  let operators ← openOperators files call prepared
  (releaseWith library files call prepared operators).deferring (closeLedgers operators)

/-- What an inspection of the case reports as its release. -/
def inspectRelease : ReleaseProgram CoalitionConflictResult := do
  let result ← ask .readResult
  let result ← lift (require ⟨.artifact, ""⟩ result)
  let consumed ← ask (.objectExists .consumed)
  throwIf (consumed = false) ⟨.releaseAmbiguous, "INCOMPLETE_RELEASE_ADMISSION"⟩
  pure result

/-- What a process is started for. -/
inductive CaseRequest
  | release (call : ReleaseCall)
  | inspect

def CaseRequest.program : CaseRequest → ReleaseProgram CoalitionConflictResult
  | .release call => Coalition.release library files call
  | .inspect => inspectRelease

end

end Mordant.Coalition
