/-
# One case and its two participants

A wallet takes its role in a case: the request is checked, the ledger records the role, the
engine keeps the claim, and the engine's own programs encrypt it and publish it in the
public directory of the case.  Each of these is a few atomic writes to files, and the
process that makes them can die between any two.

A request is a program over those files.  Reading a case reconciles it first: an operation
that is pending in the journal is finished where what it was to publish is there.
-/

import Mordant.Foundation.Durable
import Mordant.Protection.AdmissionProof

namespace Mordant.Protection

open Foundation Script
open Durable (reads throwIf modify lift)
open Function (update)

/-- `ExecutionStage`, from the first one that participants are admitted in to the one that
both their claims are in. -/
inductive ExecutionStage
  | matchPrepared
  | participantASubmitted
  | participantBPublished
  | participantBSubmitted
  deriving DecidableEq

/-- `ProductOperationPhase`, up to there. -/
inductive ProductOperationPhase
  | preparing
  /-- `SUBMITTING_A` and `SUBMITTING_B`. -/
  | submitting (role : ParticipantRole)
  | finalizing
  deriving DecidableEq

structure SupervisedPledgeWindow where
  activeFrom : ℤ
  activeUntil : ℤ

structure AdmittedParticipantClaim where
  participantWallet : Hex
  authorizationDigest : Hex
  claimCommitment : Hex
  authorizationNonce : Hex
  chainId : Number
  issuedAt : Number
  expiresAt : Number
  claim : SupervisedPledgeWindow

/-- `InternalState`, as far as the requests read it: the file `execution.json`. -/
structure InternalState where
  stage : ExecutionStage
  admittedClaims : ParticipantRole → Option AdmittedParticipantClaim
  /-- Whether the role's submission is on record. -/
  submissions : ParticipantRole → Bool

/-- The objects that participants add to the public directory of a case. -/
inductive PublicObject
  | bindingSignature (role : ParticipantRole)
  /-- The ciphertext. -/
  | submission (role : ParticipantRole)
  | submissionManifest (role : ParticipantRole)
  | enrollment (role : ParticipantRole)
  | caseManifest
  deriving DecidableEq

/-- The files of a case. -/
structure CaseDisk where
  /-- `.admission.lock`. -/
  lock : Bool
  /-- The records of the ledger. -/
  files : AdmissionFiles
  state : InternalState
  /-- The operation at the end of the journal, while it is pending. -/
  pending : Option ProductOperationPhase
  /-- The participants' signing keys. -/
  keys : ParticipantRole → Bool
  /-- A file `.mordant-create-*` in the public directory. -/
  temporary : Bool
  objects : PublicObject → Bool

/-- What a request throws, by what throws it. -/
inductive CaseThrown
  /-- A `ParticipantAdmissionError`. -/
  | service (code : String) (status : ℕ) (message : String)
  | ledger (inner : AdmissionThrown)
  | authorization (inner : AuthorizationThrown)
  /-- A `SupervisedPledgeWindowsError`. -/
  | pledgeWindow (code message : String)
  /-- A `ProtectionProductError`. -/
  | product (status : ℕ) (message : String)
  /-- A `ProductJournalError`. -/
  | journal (message : String)
  /-- What the policy service throws. -/
  | policy
  deriving DecidableEq

abbrev CaseProgram := Durable CaseDisk CaseThrown

structure ApassVerdict where
  eligible : Bool
  holderAddress : Text
  observedBlock : Number

/-- A case, and what the two modules that serve it are given: `AdmissionDependencies` and
`ProtectionRuntime`. -/
structure ParticipantCase where
  runtime : AuthorizationRuntime
  runId : Text
  /-- Of the service. -/
  directParticipantAdmissionEnabled : Bool
  /-- Of the engine. -/
  runtimeAdmissionEnabled : Bool
  verifyingService : Text
  chainId : Option Number
  /-- Not there where it throws. -/
  loadCanonicalRecourseConfiguration : Option CanonicalRecourseConfiguration
  /-- The active policy on a wallet at a time; it can change its mind. -/
  verifyApass : ℤ → Text → Option ApassVerdict
  verifyTypedData : Text → AdmissionTypedData → Text → Option Bool
  createdAtUnix : ℤ
  caseLifetimeSeconds : ℤ
  fheCaseId : Text
  protectionBindingDigest : Text
  cleanverseAssetDigest : Text
  /-- The public keys that the case publishes, in base64. -/
  signingKey : ParticipantRole → Text

def participantCaseLifetimeSeconds : ℤ := 30 * 60

def participantChallengeLifetimeSeconds : ℤ := 10 * 60

/-- The stage in which a role is admitted, and submits. -/
def ParticipantRole.expectedStage : ParticipantRole → ExecutionStage
  | .participantA => .matchPrepared
  | .participantB => .participantASubmitted

/-- The stage that publishing the role's submission leads to. -/
def ParticipantRole.publishedStage : ParticipantRole → ExecutionStage
  | .participantA => .participantASubmitted
  | .participantB => .participantBPublished

/-! ## The claim of a request -/

def exactInstant (value : Option Json) (code label : String) : Except CaseThrown ℤ :=
  match value with
  | some (.number n) => do
    revertIf (n.isInteger = false)
      (.pledgeWindow code (label ++ " must be a whole number"))
    revertIf (n.isSafeInteger = false)
      (.pledgeWindow code (label ++ " is outside the exactly representable range"))
    revertIf (n.lt (.ofInt 0) = true) (.pledgeWindow code (label ++ " must not be negative"))
    revertIf ((Number.ofInt Number.maxSafeInteger).lt n = true)
      (.pledgeWindow code (label ++ " is outside the supported circuit range"))
    pure (bigIntOf n)
  | _ => .error (.pledgeWindow code (label ++ " must be a number"))

/-- The name of a role's window. -/
def ParticipantRole.windowLabel : ParticipantRole → String
  | .participantA => "participantA"
  | .participantB => "participantB"

def assertSupervisedPledgeWindow (value : Json) (role : ParticipantRole) :
    Except CaseThrown SupervisedPledgeWindow := do
  let label := role.windowLabel
  revertIf (value.isObject = false ∨ value.hasExactKeys ["activeFrom", "activeUntil"] = false)
    (.pledgeWindow "PLEDGE_WINDOW_FIELDS"
      (label ++ " must carry exactly activeFrom and activeUntil"))
  let activeFrom ← exactInstant (value.get "activeFrom") "PLEDGE_WINDOW_FROM"
    (label ++ " activeFrom")
  let activeUntil ← exactInstant (value.get "activeUntil") "PLEDGE_WINDOW_UNTIL"
    (label ++ " activeUntil")
  revertIf (activeUntil ≤ activeFrom) (.pledgeWindow "PLEDGE_WINDOW_ORDER"
    (label ++ " activeFrom must be strictly before activeUntil"))
  pure ⟨activeFrom, activeUntil⟩

/-- A window as it is kept in a file. -/
def SupervisedPledgeWindow.json (window : SupervisedPledgeWindow) : Json :=
  .object [(lit "activeFrom", .number (.ofInt window.activeFrom)),
    (lit "activeUntil", .number (.ofInt window.activeUntil))]

/-! ## Reading a case -/

/-- What a run of one of the engine's programs that fails throws. -/
def programFailed (binary : String) : CaseThrown :=
  .product 500 ("Governed FHE " ++ binary ++ " operation failed")

/-- `ProductInspection`, as far as the reconciliation reads it. -/
structure ProductInspection where
  foundationPrivateComplete : Bool
  submission : ParticipantRole → Bool
  finalized : Bool

/-- `inspectCase`. A file that is left of an unfinished write makes the directory
unreadable; the foundation of a prepared case is complete. -/
def inspectCase (allowPrivateInspection : Bool) : CaseProgram ProductInspection :=
  .reads fun disk => do
    revertIf (disk.temporary = true) (programFailed "inspect")
    pure
      { foundationPrivateComplete := allowPrivateInspection && disk.pending = some .preparing
        submission := fun role => disk.objects (.submissionManifest role)
        finalized := disk.objects .caseManifest }

/-- The state after a role's submission is on record. -/
def InternalState.publish (state : InternalState) (role : ParticipantRole) : InternalState :=
  { state with
    stage := role.publishedStage
    submissions := update state.submissions role true }

/-- `reconcileProtectionProjection`: the state to go on from, if the operation was done. -/
def reconcileProtectionProjection (state : InternalState) (pending : ProductOperationPhase)
    (inspection : ProductInspection) : Option InternalState :=
  match pending with
  | .preparing =>
    if inspection.foundationPrivateComplete then some { state with stage := .matchPrepared }
    else none
  | .submitting role => if inspection.submission role then some (state.publish role) else none
  | .finalizing =>
    if inspection.finalized then some { state with stage := .participantBSubmitted } else none

def saveState (state : InternalState) : CaseProgram Unit :=
  .modify fun disk => { disk with state := state }

/-- `beginOperation`. An operation is the same as a pending one when it is of its phase. -/
def beginOperation (phase : ProductOperationPhase) : CaseProgram Unit := do
  match ← reads fun disk => pure disk.pending with
  | none => modify fun disk => { disk with pending := some phase }
  | some pending =>
    throwIf (pending ≠ phase)
      (.journal "Another durable operation requires reconciliation")

def finishOperation (phase : ProductOperationPhase) : CaseProgram Unit := do
  let pending ← reads fun disk => pure disk.pending
  throwIf (pending ≠ some phase)
    (.journal "Pending operation record was replaced or already terminal")
  modify fun disk => { disk with pending := none }

/-- The role's key is unlinked. -/
def removeKey (role : ParticipantRole) : CaseProgram Unit :=
  .modify fun disk => { disk with keys := update disk.keys role false }

/-- What is cleaned up after an operation was reconciled. -/
def removeSubmittedKey : ProductOperationPhase → CaseProgram Unit
  | .submitting role => do
    if ← reads fun disk => pure (disk.keys role) then removeKey role
  | _ => pure ()

def reconcileState (state : InternalState) (allowPrivateInspection : Bool) :
    CaseProgram InternalState := do
  let pending ← reads fun disk => pure disk.pending
  let inspection ← inspectCase allowPrivateInspection
  match pending with
  | none => pure state
  | some pending =>
    match reconcileProtectionProjection state pending inspection with
    | none => pure state
    | some reconstructed => do
      saveState reconstructed
      finishOperation pending
      removeSubmittedKey pending
      pure reconstructed

def loadState (allowPrivateInspection : Bool) : CaseProgram InternalState := do
  let state ← reads fun disk => pure disk.state
  reconcileState state allowPrivateInspection

/-! ## The engine's programs -/

/-- An object is written to a temporary file, linked to its name, and the temporary file is
unlinked. The directory is read before. -/
def createObject (binary : String) (object : PublicObject) : CaseProgram Unit := do
  let (temporary, present) ← reads fun disk => pure (disk.temporary, disk.objects object)
  throwIf (temporary = true ∨ present = true) (programFailed binary)
  modify fun disk => { disk with temporary := true }
  modify fun disk => { disk with objects := update disk.objects object true }
  modify fun disk => { disk with temporary := false }

def submitParticipant (role : ParticipantRole) : CaseProgram Unit := do
  let key ← reads fun disk => pure (disk.keys role)
  throwIf (key = false) (programFailed "client")
  createObject "client" (.bindingSignature role)
  createObject "client" (.submission role)
  createObject "client" (.submissionManifest role)
  createObject "client" (.enrollment role)

def finalizeCase : CaseProgram Unit := do
  let signed ← reads fun disk => pure
    (disk.objects (.bindingSignature .participantA) &&
      disk.objects (.bindingSignature .participantB))
  throwIf (signed = false) (programFailed "keygen")
  createObject "keygen" .caseManifest

section

variable (c : ParticipantCase)

/-! ## The configuration -/

/-- `canonicalDirectAdmissionConfiguration`. The chain of the configuration itself was
checked as it was parsed. -/
def canonicalDirectAdmissionConfiguration : Except CaseThrown CanonicalRecourseConfiguration := do
  revertIf (c.directParticipantAdmissionEnabled = false)
    (.service "DIRECT_ADMISSION_DISABLED" 403 "Direct participant admission is disabled")
  revertIf (c.chainId ≠ some (.ofInt monadTestnetChainId))
    (.service "DIRECT_ADMISSION_CHAIN" 403 "Direct participant admission requires chain 10143")
  require (.service "CANONICAL_CONFIGURATION" 503
    "The canonical direct-admission configuration is unavailable")
    c.loadCanonicalRecourseConfiguration

def assertDirectParticipantAdmissionEnabled : Except CaseThrown Unit := do
  revertIf (c.runtimeAdmissionEnabled = false)
    (.product 403 "Direct participant admission is disabled")
  let _ ← require (.product 503 "The canonical direct-admission configuration is unavailable")
    c.loadCanonicalRecourseConfiguration
  pure ()

/-- The canonical wallet of a role. -/
def CanonicalRecourseConfiguration.holder (configuration : CanonicalRecourseConfiguration) :
    ParticipantRole → Hex
  | .participantA => configuration.participants.holderA
  | .participantB => configuration.participants.holderB

def assertCanonicalParticipantWallet (configuration : CanonicalRecourseConfiguration)
    (role : ParticipantRole) (wallet : Text) : Except CaseThrown Hex := do
  let expected := configuration.holder role
  revertIf (c.runtime.toLowerCase wallet ≠ c.runtime.toLowerCase expected.text)
    (.service "CANONICAL_PARTICIPANT" 403
      ("That wallet is not the canonical " ++ role.text ++ " participant"))
  pure expected

def admissionAbandoned (files : AdmissionFiles) (now : ℤ) : Except CaseThrown Bool :=
  if now - c.createdAtUnix < c.caseLifetimeSeconds then .ok false
  else do
    let progress ← (admissionProgress files files c.runId).mapError .ledger
    pure (!progress.bothAdmitted)

/-- The record of a role, read from the disk. -/
def storedAdmission (role : ParticipantRole) : CaseProgram (Option ParticipantAdmissionRecord) :=
  .reads fun disk => (readAdmission disk.files c.runId role).mapError .ledger

/-! ## The context of an admission -/

structure ParticipantAdmissionContext where
  stage : ExecutionStage
  fheCaseId : Text
  assetIdentityDigest : Text
  protectionBindingDigest : Text
  participantSigningKey : Text

/-- `rawParticipantKey`, of a case that has its foundation: no key is made any more. -/
def rawParticipantKey (role : ParticipantRole) (admittedDigest : Option Hex) :
    CaseProgram Text := do
  if ← reads fun disk => pure (disk.keys role) then
    match admittedDigest with
    | none => pure (c.signingKey role)
    | some digest => do
      let retained ← lift
        ((participantSigningKeyDigest c.runtime (c.signingKey role)).mapError .authorization)
      throwIf (retained ≠ digest) (.product 409
        ("The retained " ++ role.text ++ " key is not the key that role's wallet admitted"))
      pure (c.signingKey role)
  else
    match admittedDigest with
    | some _ => lift (.error (.product 409 ("The " ++ role.text ++
        " key is missing and that role is already admitted; it cannot be reminted without" ++
        " a new admission")))
    | none =>
      lift (.error (.product 500 "Missing participant key after foundation admission"))

def readParticipantAdmissionContext (role : ParticipantRole) :
    CaseProgram ParticipantAdmissionContext := do
  lift (assertDirectParticipantAdmissionEnabled c)
  let state ← loadState false
  let admitted ← storedAdmission c role
  let key ← rawParticipantKey c role (admitted.bind (·.participantSigningKeyDigest))
  pure
    { stage := state.stage
      fheCaseId := c.fheCaseId
      assetIdentityDigest := c.cleanverseAssetDigest
      protectionBindingDigest := c.protectionBindingDigest
      participantSigningKey := key }

/-! ## A challenge -/

/-- `participantAdmissionChallenge`: what the wallet is asked to sign, with a nonce drawn for
it. One reading of the clock stands for those of a request. -/
def participantAdmissionChallenge (role : ParticipantRole) (participantWallet : Text)
    (claim : Json) (authorizationNonce : Hex) (now : ℤ) : CaseProgram AdmissionTypedData := do
  let canonical ← lift (canonicalDirectAdmissionConfiguration c)
  let canonicalWallet ←
    lift (assertCanonicalParticipantWallet c canonical role participantWallet)
  let abandoned ← reads fun disk => admissionAbandoned c disk.files now
  throwIf (abandoned = true)
    (.service "CASE_ABANDONED" 410 "This case is no longer accepting participants")
  let existing ← storedAdmission c role
  throwIf (existing.isSome = true)
    (.service "ROLE_OCCUPIED" 409 (role.text ++ " has already been admitted for this case"))
  let window ← lift (assertSupervisedPledgeWindow claim role)
  let context ← readParticipantAdmissionContext c role
  throwIf (context.stage ≠ role.expectedStage) (.service "ADMISSION_OUT_OF_ORDER" 409
    ("Participant " ++ role.text ++ " admission is out of order"))
  let digest ← lift
    ((participantSigningKeyDigest c.runtime context.participantSigningKey).mapError .authorization)
  let bytes32 (digest : Text) :=
    lift ((digestToBytes32 digest).mapError fun thrown => .authorization (.digest thrown))
  let fheCaseId ← bytes32 context.fheCaseId
  let protectionBindingDigest ← bytes32 context.protectionBindingDigest
  let assetIdentityDigest ← bytes32 context.assetIdentityDigest
  pure (participantAdmissionV2TypedData c.runtime
    { verifyingService := .text c.verifyingService
      runId := .text c.runId
      fheCaseId := fheCaseId.text
      protectionBindingDigest := protectionBindingDigest.text
      assetIdentityDigest := assetIdentityDigest.text
      role := role
      activeFrom := window.activeFrom
      activeUntil := window.activeUntil
      participantWallet := canonicalWallet.text
      authorizationNonce := authorizationNonce.text
      issuedAt := now
      expiresAt := now + participantChallengeLifetimeSeconds
      participantSigningKeyDigest := digest.text } (.ofInt monadTestnetChainId))

/-! ## An admission -/

/-- `AdmissionRequest`, for the case its code resolves to. -/
structure AdmissionRequest where
  role : ParticipantRole
  authorization : Json
  signature : Json
  claim : Json

/-- A text that begins as it should. -/
def hexOf? (text : Text) : Option Hex :=
  if h : lit "0x" <+: text then some ⟨text, h⟩ else none

/-- What is checked of a request once its context is known, and the record it asks for. -/
def admissionCandidate (configuration : CanonicalRecourseConfiguration)
    (request : AdmissionRequest) (claim : SupervisedPledgeWindow)
    (context : ParticipantAdmissionContext) (now : ℤ) :
    Except CaseThrown AdmissionCandidate := do
  let message ←
    (assertParticipantAdmissionV2Message request.authorization).mapError .authorization
  let bytes32 (digest : Text) : Except CaseThrown Hex :=
    (digestToBytes32 digest).mapError fun thrown => .authorization (.digest thrown)
  let fheCaseId ← bytes32 context.fheCaseId
  let protectionBindingDigest ← bytes32 context.protectionBindingDigest
  let assetIdentityDigest ← bytes32 context.assetIdentityDigest
  let signingKeyDigest ← (verifyParticipantAdmissionV2 c.runtime message request.signature
    { verifyingService := c.verifyingService
      runId := c.runId
      fheCaseId := fheCaseId
      protectionBindingDigest := protectionBindingDigest
      assetIdentityDigest := assetIdentityDigest
      role := request.role
      participantSigningKeyBase64 := context.participantSigningKey
      activeFrom := claim.activeFrom
      activeUntil := claim.activeUntil
      chainId := .ofInt monadTestnetChainId
      now := now } c.verifyTypedData).mapError .authorization
  let authorizationDigest ← require (.authorization .rejected)
    (c.runtime.hashAdmission
      (participantAdmissionV2TypedData c.runtime message (.ofInt monadTestnetChainId)))
  let claimCommitment ← (participantClaimCommitment c.runtime c.runId message.role
    claim.activeFrom claim.activeUntil).mapError .authorization
  let _ ← assertCanonicalParticipantWallet c configuration request.role message.participantWallet
  let verdict ← require .policy (c.verifyApass now message.participantWallet)
  revertIf (verdict.eligible = false) (.service "APASS_DENIED" 403
    "That wallet does not pass the active compliance policy")
  revertIf (c.runtime.toLowerCase verdict.holderAddress ≠
      c.runtime.toLowerCase message.participantWallet)
    (.service "APASS_IDENTITY" 403 "The compliance verdict did not bind the verified wallet")
  -- These three were checked to be hexadecimal above.
  let participantWallet ← require (.authorization .rejected) (hexOf? message.participantWallet)
  let authorizationNonce ← require (.authorization .rejected) (hexOf? message.authorizationNonce)
  let signature ← require (.authorization .rejected) (request.signature.asText.bind hexOf?)
  pure
    { runId := c.runId
      authorization := some request.authorization
      signature := some signature
      role := request.role
      participantWallet := participantWallet
      authorizationDigest := authorizationDigest
      claimCommitment := claimCommitment
      authorizationNonce := authorizationNonce
      chainId := .ofInt monadTestnetChainId
      issuedAt := .ofInt message.issuedAt
      expiresAt := .ofInt message.expiresAt
      participantSigningKeyDigest := some signingKeyDigest
      eligibilityBlock := verdict.observedBlock
      admittedAtUnix := .ofInt now }

/-- The ledger's part between taking the lock and removing it. -/
def recordRole (candidate : AdmissionCandidate) : CaseProgram AdmissionOutcome := do
  match ← storedAdmission c candidate.role with
  | some existing => lift ((recognize existing candidate).mapError .ledger)
  | none => do
    let other ← storedAdmission c candidate.role.other
    let record ←
      lift ((prepareRecord c.runtime.toRuntime candidate other).mapError .ledger)
    match ← reads fun disk => pure (disk.files candidate.role) with
    | .absent => do
      modify fun disk =>
        { disk with files := update disk.files candidate.role .begun }
      modify fun disk =>
        { disk with files := update disk.files candidate.role (.complete record) }
      pure ⟨record, true⟩
    | _ =>
      match ← storedAdmission c candidate.role with
      | some winner => lift ((recognize winner candidate).mapError .ledger)
      | none => lift (.error (.ledger (roleOccupied candidate.role)))

/-- `admitParticipantRole`, with nobody else at work. -/
def admitParticipantRole (candidate : AdmissionCandidate) : CaseProgram AdmissionOutcome := do
  let lock ← reads fun disk => pure disk.lock
  throwIf (lock = true) (.ledger admissionBusy)
  modify fun disk => { disk with lock := true }
  (recordRole c candidate).thenAlways fun disk => { disk with lock := false }

def assertVerifiedDurableAdmission (files : AdmissionFiles) (role : ParticipantRole)
    (admission : AdmittedParticipantClaim) : Except CaseThrown Unit := do
  let durable ← (readAdmission files c.runId role).mapError .ledger
  let durable ← require (.product 409
    ("Participant " ++ role.text ++ " has no verified durable admission")) durable
  let claim ← assertSupervisedPledgeWindow admission.claim.json role
  let recomputedClaimCommitment ← (participantClaimCommitment c.runtime c.runId role
    claim.activeFrom claim.activeUntil).mapError .authorization
  let configuration ← require
    (.product 503 "The canonical direct-admission configuration is unavailable")
    c.loadCanonicalRecourseConfiguration
  revertIf
    (durable.chainId.strictEq (.ofInt monadTestnetChainId) = false ∨
      admission.chainId.strictEq (.ofInt monadTestnetChainId) = false ∨
      c.runtime.toLowerCase durable.participantWallet.text ≠
        c.runtime.toLowerCase (configuration.holder role).text ∨
      c.runtime.toLowerCase durable.participantWallet.text ≠
        c.runtime.toLowerCase admission.participantWallet.text ∨
      durable.authorizationDigest ≠ admission.authorizationDigest ∨
      durable.claimCommitment ≠ admission.claimCommitment ∨
      durable.authorizationNonce ≠ admission.authorizationNonce ∨
      durable.chainId.strictEq admission.chainId = false ∨
      durable.issuedAt.strictEq admission.issuedAt = false ∨
      durable.expiresAt.strictEq admission.expiresAt = false ∨
      durable.claimCommitment ≠ recomputedClaimCommitment)
    (.product 409
      ("Participant " ++ role.text ++ " durable admission does not match this pledge"))

def admitParticipantClaim (role : ParticipantRole) (admission : AdmittedParticipantClaim) :
    CaseProgram Unit := do
  lift (assertDirectParticipantAdmissionEnabled c)
  let state ← loadState true
  match state.admittedClaims role with
  | some existing => do
    throwIf
      (existing.authorizationDigest ≠ admission.authorizationDigest ∨
        existing.claimCommitment ≠ admission.claimCommitment ∨
        existing.participantWallet ≠ admission.participantWallet ∨
        existing.authorizationNonce ≠ admission.authorizationNonce)
      (.product 409 (role.text ++ " has already been admitted for this case"))
    reads fun disk => assertVerifiedDurableAdmission c disk.files role admission
  | none => do
    throwIf (state.stage ≠ role.expectedStage)
      (.product 409 ("Participant " ++ role.text ++ " admission is out of order"))
    reads fun disk => assertVerifiedDurableAdmission c disk.files role admission
    saveState { state with
      admittedClaims := update state.admittedClaims role (some admission) }

def finalizeParticipantSubmissions (state : InternalState) : CaseProgram Unit := do
  if state.stage = .participantBSubmitted then pure ()
  else do
    throwIf (state.stage ≠ .participantBPublished)
      (.product 409 "Participant B publication is required before finalization")
    beginOperation .finalizing
    finalizeCase
    saveState { state with stage := .participantBSubmitted }
    finishOperation .finalizing

def submitParticipantPledge (role : ParticipantRole) : CaseProgram Unit := do
  let state ← loadState true
  lift (assertDirectParticipantAdmissionEnabled c)
  let admitted ← lift (require (.product 409
    ("Participant " ++ role.text ++ " has no verified durable admission"))
    (state.admittedClaims role))
  reads fun disk => assertVerifiedDurableAdmission c disk.files role admitted
  if role = .participantB ∧ state.stage = .participantBPublished then
    finalizeParticipantSubmissions state
  else if state.submissions role then pure ()
  else do
    throwIf (state.stage ≠ role.expectedStage)
      (.product 409 ("Participant " ++ role.text ++ " submission is out of order"))
    beginOperation (.submitting role)
    submitParticipant role
    removeKey role
    saveState (state.publish role)
    finishOperation (.submitting role)
    if role = .participantB then finalizeParticipantSubmissions (state.publish role)

structure AdmissionResult where
  runId : Text
  role : ParticipantRole
  participantWallet : Hex
  eligibilityBlock : Number
  /-- False when this authorization had been admitted already. -/
  newlyAdmitted : Bool
  stage : ExecutionStage

/-- What the engine is asked to keep of an admission. -/
def AdmissionCandidate.claim (candidate : AdmissionCandidate) (window : SupervisedPledgeWindow) :
    AdmittedParticipantClaim where
  participantWallet := candidate.participantWallet
  authorizationDigest := candidate.authorizationDigest
  claimCommitment := candidate.claimCommitment
  authorizationNonce := candidate.authorizationNonce
  chainId := candidate.chainId
  issuedAt := candidate.issuedAt
  expiresAt := candidate.expiresAt
  claim := window

def admitParticipant (request : AdmissionRequest) (now : ℤ) : CaseProgram AdmissionResult := do
  let canonical ← lift (canonicalDirectAdmissionConfiguration c)
  let abandoned ← reads fun disk => admissionAbandoned c disk.files now
  throwIf (abandoned = true)
    (.service "CASE_ABANDONED" 410 "This case is no longer accepting participants")
  let claim ← lift (assertSupervisedPledgeWindow request.claim request.role)
  let context ← readParticipantAdmissionContext c request.role
  let existing ← storedAdmission c request.role
  throwIf (existing.isNone = true ∧ context.stage ≠ request.role.expectedStage)
    (.service "ADMISSION_OUT_OF_ORDER" 409
      ("Participant " ++ request.role.text ++ " admission is out of order"))
  let candidate ← lift (admissionCandidate c canonical request claim context now)
  let outcome ← admitParticipantRole c candidate
  admitParticipantClaim c request.role (candidate.claim claim)
  submitParticipantPledge c request.role
  let view ← loadState false
  pure
    { runId := c.runId
      role := request.role
      participantWallet := candidate.participantWallet
      eligibilityBlock := candidate.eligibilityBlock
      newlyAdmitted := outcome.admitted
      stage := view.stage }

/-! ## What a case goes through -/

/-- A request. -/
inductive ParticipantRequest
  /-- For something to sign. -/
  | challenge (role : ParticipantRole) (participantWallet : Text) (claim : Json)
      (authorizationNonce : Hex)
  | admission (request : AdmissionRequest)
  /-- For a view of the case. -/
  | read

/-- The role that a request asks for. -/
def ParticipantRequest.role? : ParticipantRequest → Option ParticipantRole
  | .challenge role _ _ _ => some role
  | .admission request => some request.role
  | .read => none

/-- The wallet that makes a request: the one it names, or the one in the struct it signed. -/
def ParticipantRequest.wallet? : ParticipantRequest → Option Text
  | .challenge _ participantWallet _ _ => some participantWallet
  | .admission request => (request.authorization.get "participantWallet").bind Json.asText
  | .read => none

/-- What a request does. -/
def serve (request : ParticipantRequest) (now : ℤ) : CaseProgram Unit :=
  match request with
  | .challenge role participantWallet claim authorizationNonce => do
    let _ ← participantAdmissionChallenge c role participantWallet claim authorizationNonce now
    pure ()
  | .admission request => do
    let _ ← admitParticipant c request now
    pure ()
  | .read => do
    let _ ← loadState false
    pure ()

/-- A case that was prepared, where the journal may not know it yet. -/
def CaseDisk.prepared (journalled : Bool) : CaseDisk where
  lock := false
  files := fun _ => .absent
  state := ⟨.matchPrepared, fun _ => none, fun _ => false⟩
  pending := if journalled then none else some .preparing
  keys := fun _ => true
  temporary := false
  objects := fun _ => false

/-- A disk that requests can leave, one after another, each of them at any time and with a
process that may die at any of its writes. -/
inductive Reached : CaseDisk → Prop
  | prepared (journalled : Bool) : Reached (.prepared journalled)
  | serve {disk next : CaseDisk} (request : ParticipantRequest) (now : ℤ) (h : Reached disk)
      (hleaves : (serve c request now).Leaves disk next) : Reached next

end

end Mordant.Protection
