/-
# Preparing a bridge payload

Two paths lead to a payload: the retained one, for the one committed adapter, and
the direct one, for an adapter deployed for a case.  Both reconcile what they read
from the chain with the committed configuration, take the payouts from it, and
build the payload of whatever Boolean was signed.
-/

import Mordant.Protection.Payload

namespace Mordant.Protection

open Foundation Script

def monadTestnetChainId : ℤ := 10143

/-- `AdapterV2ReadOnlyState`. -/
structure AdapterState where
  address : Hex
  chainId : ℤ
  codeHash : Hex
  runtimeBytes : ℤ
  settlementToken : Hex
  cviVerifier : Hex
  attestor : Hex
  facility : Hex
  assetIdentityDigest : Hex
  expectedGovernedReleaseAuthorityId : Hex
  releaseMode : Hex
  circuitHash : Hex
  parameterFingerprint : Hex
  availableReserve : ℤ
  openReserved : ℤ
  entitledUnpaid : ℤ
  tokenBalance : ℤ
  solvent : Bool
  domainSeparator : Hex
  roleHolder : ℤ
  roleFacility : ℤ

/-- `AdapterReader`, retries included: what each read answers, or that it was refused. -/
structure AdapterReader where
  readAdapterState : Option AdapterState
  isEligible : Hex → Hex → ℤ → Option Bool
  isAssetTransferAllowed : Hex → Hex → Hex → Hex → ℤ → Option Bool
  readOwner : Option Hex
  readCureWindow : Option ℤ
  readRuntimeCode : Option Hex
  hashRelease : GovernedBridgePayload → Option Hex
  resultConsumed : Hex → Option Bool

/-- The participants of a committed configuration; its parser refuses payouts that are
not positive. -/
structure CommittedParticipants where
  holderA : Hex
  holderB : Hex
  negativeControl : Hex
  uncontrolledApassWallet : Hex
  payoutA : ℤ
  payoutB : ℤ
  payoutA_pos : 0 < payoutA
  payoutB_pos : 0 < payoutB

/-- `CanonicalRecourseConfiguration`, as far as the checks read it. -/
structure CanonicalRecourseConfiguration where
  runtimeBytes : ℤ
  settlementToken : Hex
  verifier : Hex
  attestor : Hex
  facility : Hex
  participants : CommittedParticipants
  cureWindowSeconds : ℤ

/-- `CanonicalAdapterV2`. -/
structure CanonicalAdapter where
  address : Hex
  chainId : ℤ
  codeHash : Hex
  runtimeBytes : ℤ
  settlementToken : Hex
  cviVerifier : Hex
  attestor : Hex
  facility : Hex
  assetIdentityDigest : Hex
  releaseAuthorityId : Hex
  releaseMode : Hex
  circuitHash : Hex
  parameterFingerprint : Hex
  availableReserve : ℤ
  openReserved : ℤ
  entitledUnpaid : ℤ
  tokenBalance : ℤ
  domainSeparator : Hex
  roleHolder : ℤ
  roleFacility : ℤ

/-- `CanonicalRecourseBridgeArtifacts`, as far as a preparation reads them. -/
structure CanonicalArtifacts where
  configuration : CanonicalRecourseConfiguration
  adapter : CanonicalAdapter

/-- `CaseAdapterDeploymentProof`, as far as the check reads it. -/
structure CaseAdapterDeploymentProof where
  runtimeBytes : ℤ
  deployedCodeHash : Hex
  settlementToken : Hex
  cviVerifier : Hex
  attestor : Hex
  facility : Hex
  owner : Hex
  assetIdentityDigest : Hex
  expectedGovernedReleaseAuthorityId : Hex
  releaseMode : Hex
  circuitHash : Hex
  parameterFingerprint : Hex
  cureWindow : ℤ

/-- What a caller asks a payload for. -/
structure BridgeWindow where
  nonce : ℤ
  issuedAt : Number
  expiry : Number

/-- What both checks return of a payload. -/
structure CheckedAdapter where
  adapter : AdapterState
  payload : GovernedBridgePayload
  typedDataDigest : Hex
  structHash : Hex

/-- What the adapter pins, as its state shows it. -/
def AdapterState.pins (state : AdapterState) : AdapterPins where
  address := state.address
  chainId := state.chainId
  assetIdentityDigest := state.assetIdentityDigest
  releaseAuthorityId := state.expectedGovernedReleaseAuthorityId
  releaseMode := state.releaseMode
  circuitHash := state.circuitHash
  parameterFingerprint := state.parameterFingerprint

/-- The input both paths build a payload from: pins from the adapter, payouts from the
configuration, the Boolean from the release. -/
def bridgeInput (state : AdapterState) (participants : CommittedParticipants)
    (release : VerifiedGovernedRelease) (window : BridgeWindow) : BridgeInput where
  release := release
  participants :=
    { holderA := participants.holderA
      holderB := participants.holderB
      payoutA := participants.payoutA
      payoutB := participants.payoutB }
  pins := state.pins
  interpretation := .pinsGovernedAuthority
  nonce := window.nonce
  issuedAt := window.issuedAt
  expiry := window.expiry

section

variable (runtime : BridgeRuntime) (reader : AdapterReader)

def sameHex (left right : Hex) : Bool := sameAddress runtime.toRuntime left.text right.text

/-- `requireStateAddress` and `requireStateHex`. -/
def requireState (actual expected : Hex) (label : String) : Except PrepareThrown Unit :=
  revertIf (sameHex runtime actual expected = false) (.compatibility "ADAPTER_INCOMPATIBLE"
    ("The live Adapter V2 " ++ label ++ " disagrees with the committed canonical handoff"))

/-- A comparison of numbers with the same refusal. -/
def requireStateNumber (actual expected : ℤ) (label : String) : Except PrepareThrown Unit :=
  revertIf (actual ≠ expected) (.compatibility "ADAPTER_INCOMPATIBLE"
    ("The live Adapter V2 " ++ label ++ " disagrees with the committed canonical handoff"))

/-- The state of the committed adapter against the handoff. -/
def checkCommittedState (state : AdapterState) (expected : CanonicalAdapter) :
    Except PrepareThrown Unit := do
  requireState runtime state.address expected.address "address"
  requireStateNumber state.chainId monadTestnetChainId "chainId"
  requireStateNumber state.chainId expected.chainId "chainId"
  requireState runtime state.codeHash expected.codeHash "deployed code hash"
  requireStateNumber state.runtimeBytes expected.runtimeBytes "runtime byte length"
  requireState runtime state.settlementToken expected.settlementToken "settlement token"
  requireState runtime state.cviVerifier expected.cviVerifier "CVI verifier"
  requireState runtime state.attestor expected.attestor "attestor"
  requireState runtime state.facility expected.facility "facility"
  requireState runtime state.assetIdentityDigest expected.assetIdentityDigest
    "asset identity pin"
  requireState runtime state.expectedGovernedReleaseAuthorityId expected.releaseAuthorityId
    "governed authority pin"
  requireState runtime state.releaseMode expected.releaseMode "release mode pin"
  requireState runtime state.circuitHash expected.circuitHash "circuit hash pin"
  requireState runtime state.parameterFingerprint expected.parameterFingerprint
    "parameter fingerprint pin"
  requireState runtime state.domainSeparator expected.domainSeparator "domain separator"
  requireStateNumber state.roleHolder expected.roleHolder "holder role"
  requireStateNumber state.roleFacility expected.roleFacility "facility role"
  revertIf (state.solvent = false ∨
      state.tokenBalance < state.availableReserve + state.openReserved + state.entitledUnpaid)
    (.compatibility "INSOLVENT"
      "Adapter V2 is not solvent for its full reserve and liability accounting")
  revertIf (state.availableReserve ≠ expected.availableReserve ∨
      state.openReserved ≠ expected.openReserved ∨
      state.entitledUnpaid ≠ expected.entitledUnpaid ∨
      state.tokenBalance ≠ expected.tokenBalance)
    (.compatibility "ADAPTER_INCOMPATIBLE" ("The live Adapter V2 full reserve accounting " ++
      "disagrees with the committed canonical handoff"))

/-- The loop over the excluded wallets. -/
def checkExcluded (participants : CommittedParticipants) (thrown : PrepareThrown) :
    Except PrepareThrown Unit :=
  revertIf ([participants.negativeControl, participants.uncontrolledApassWallet].any
    (fun excluded => sameHex runtime excluded participants.holderA ||
      sameHex runtime excluded participants.holderB) = true) thrown

/-- `isEligible` of the adapter's verifier. -/
def readEligible (state : AdapterState) (account : Hex) (role : ℤ) : Except PrepareThrown Bool :=
  require .rejected (reader.isEligible state.cviVerifier account role)

/-- `isAssetTransferAllowed` for a payout. -/
def readAllowed (state : AdapterState) (recipient : Hex) (amount : ℤ) :
    Except PrepareThrown Bool :=
  require .rejected (reader.isAssetTransferAllowed state.cviVerifier state.settlementToken
    state.address recipient amount)

/-- The live eligibility of the committed participants. -/
def checkCommittedEligibility (state : AdapterState) (participants : CommittedParticipants) :
    Except PrepareThrown Unit := do
  let holderA ← readEligible reader state participants.holderA state.roleHolder
  let holderB ← readEligible reader state participants.holderB state.roleHolder
  let facility ← readEligible reader state state.facility state.roleFacility
  let negativeControl ← readEligible reader state participants.negativeControl state.roleHolder
  let uncontrolled ← readEligible reader state participants.uncontrolledApassWallet state.roleHolder
  let transferA ← readAllowed reader state participants.holderA participants.payoutA
  let transferB ← readAllowed reader state participants.holderB participants.payoutB
  revertIf (holderA = false ∨ holderB = false) (.compatibility "PARTICIPANT_INELIGIBLE"
    "Every canonical holder must be currently eligible")
  revertIf (facility = false) (.compatibility "FACILITY_INELIGIBLE"
    "The committed facility must currently hold Adapter V2 ROLE_FACILITY")
  revertIf (negativeControl = true) (.compatibility "NEGATIVE_CONTROL_ELIGIBLE"
    "The canonical negative control must remain ineligible for ROLE_HOLDER")
  revertIf (uncontrolled = false) (.compatibility "UNCONTROLLED_APASS_INELIGIBLE"
    ("The retained uncontrolled A-Pass wallet must remain eligible without becoming a " ++
      "participant"))
  revertIf (transferA = false ∨ transferB = false) (.compatibility "TRANSFER_POLICY"
    "Every canonical payout transfer must be currently permitted")

/-- What `checkAdapterV2Compatibility` looks at before it builds a payload. -/
def checkCommitted (canonical : CanonicalArtifacts) : Except PrepareThrown AdapterState := do
  let state ← require .rejected reader.readAdapterState
  checkCommittedState runtime state canonical.adapter
  let participants := canonical.configuration.participants
  revertIf (sameHex runtime participants.holderA participants.holderB = true)
    (.compatibility "CANONICAL_PARTICIPANTS" "The canonical holders are not distinct")
  checkExcluded runtime participants (.compatibility "CANONICAL_EXCLUDED_PARTICIPANT"
    "An excluded wallet is configured as a participant")
  checkCommittedEligibility reader state participants
  pure state

/-- What both paths do with the payload: hash it, and ask the adapter. -/
def checkPayload (state : AdapterState) (payload : GovernedBridgePayload)
    (consumedThrown digestThrown : PrepareThrown) : Except PrepareThrown CheckedAdapter := do
  let typedDataDigest ← require .rejected (runtime.hashTypedData payload)
  let structHash ← require .rejected (governedReleaseStructHash runtime payload)
  let onChainDigest ← require .rejected (reader.hashRelease payload)
  let consumed ← require .rejected (reader.resultConsumed payload.message.governedResultDigest)
  revertIf (consumed = true) consumedThrown
  revertIf (sameHex runtime onChainDigest typedDataDigest = false) digestThrown
  pure ⟨state, payload, typedDataDigest, structHash⟩

def checkAdapterV2Compatibility (canonical : CanonicalArtifacts)
    (release : VerifiedGovernedRelease) (window : BridgeWindow) :
    Except PrepareThrown CheckedAdapter := do
  let state ← checkCommitted runtime reader canonical
  let payload ← buildGovernedBridgePayload runtime
    (bridgeInput state canonical.configuration.participants release window)
  checkPayload runtime reader state payload
    (.compatibility "RESULT_CONSUMED"
      "The governed result has already been consumed by Adapter V2")
    (.compatibility "DIGEST_MISMATCH"
      "Adapter V2 hashRelease disagrees with the independently encoded typed-data digest")

/-! ## An adapter deployed for a case -/

/-- What the direct path knows of verified evidence besides the release. -/
structure VerifiedHolders where
  holderA : Text
  holderB : Text

/-- A comparison of the direct path. -/
def requireSame (actual expected : Hex) (code message : String) : Except PrepareThrown Unit :=
  revertIf (sameHex runtime actual expected = false) (.execution code message)

/-- The live code and the addresses of a case's adapter. -/
def checkCaseCode (state : AdapterState) (expected : CanonicalRecourseConfiguration)
    (proof : CaseAdapterDeploymentProof) : Except PrepareThrown Unit := do
  revertIf (state.chainId ≠ monadTestnetChainId)
    (.execution "CHAIN_MISMATCH" "The adapter is not on Monad testnet")
  revertIf (sameAddress runtime.toRuntime state.address.text supersededAdapterAddress = true)
    (.execution "SUPERSEDED_ADAPTER" "The configured adapter is the superseded deployment")
  revertIf (state.runtimeBytes ≠ expected.runtimeBytes)
    (.execution "ADAPTER_CODE" "Adapter runtime byte length differs from the reviewed artifact")
  revertIf (proof.runtimeBytes ≠ state.runtimeBytes)
    (.execution "ADAPTER_CODE" "The deployment proof describes a different runtime length")
  let liveCode ← require .rejected reader.readRuntimeCode
  requireSame runtime (runtime.keccakHex liveCode) proof.deployedCodeHash "ADAPTER_CODE"
    "The live adapter runtime is not the runtime the deployment proof covers"
  revertIf ((liveCode.text.length : ℤ) - 2 ≠ 2 * proof.runtimeBytes)
    (.execution "ADAPTER_CODE"
      "The live adapter runtime length disagrees with the deployment proof")
  requireSame runtime state.settlementToken expected.settlementToken "ADAPTER_TOKEN"
    "The case-specific adapter settles a different token"
  requireSame runtime state.cviVerifier expected.verifier "ADAPTER_VERIFIER"
    "The case-specific adapter uses a different compliance verifier"
  requireSame runtime state.facility expected.facility "ADAPTER_FACILITY"
    "The case-specific adapter names a different facility"
  requireSame runtime state.attestor expected.attestor "ADAPTER_ATTESTOR"
    "The case-specific adapter names a different bridge attestor"

/-- A pin of the run against a digest of the verified release. -/
def requirePin (pin : Hex) (digest : Text) (code message : String) : Except PrepareThrown Unit := do
  let expected ← digestToBytes32 digest
  revertIf (runtime.toLowerCase pin.text ≠ expected.text) (.execution code message)

/-- The run's pins, from the verified release. -/
def checkCasePins (state : AdapterState) (release : VerifiedGovernedRelease) :
    Except PrepareThrown Unit := do
  requirePin runtime state.assetIdentityDigest release.assetIdentity "ADAPTER_ASSET"
    "The adapter asset pin is not the signed receivable"
  requirePin runtime state.expectedGovernedReleaseAuthorityId release.releaseAuthorityId
    "ADAPTER_AUTHORITY" "The adapter authority pin is not this run's signed governed authority"
  requirePin runtime state.circuitHash release.circuitDigest "ADAPTER_CIRCUIT"
    "The adapter circuit pin is not the signed circuit digest"
  requirePin runtime state.parameterFingerprint release.parameterFingerprint
    "ADAPTER_PARAMETERS" "The adapter parameter pin is not the signed parameter fingerprint"

/-- A live immutable against its deployment proof. -/
def requireProven (live proven : Hex) (name : String) : Except PrepareThrown Unit :=
  requireSame runtime live proven "ADAPTER_IMMUTABLE"
    ("The live adapter " ++ name ++ " disagrees with its deployment proof")

/-- The immutables of a case's adapter. -/
def checkCaseImmutables (state : AdapterState) (expected : CanonicalRecourseConfiguration)
    (proof : CaseAdapterDeploymentProof) : Except PrepareThrown Unit := do
  let liveOwner ← require .rejected reader.readOwner
  let liveCureWindow ← require .rejected reader.readCureWindow
  requireProven runtime state.settlementToken proof.settlementToken "settlementToken"
  requireProven runtime state.cviVerifier proof.cviVerifier "cviVerifier"
  requireProven runtime state.attestor proof.attestor "attestor"
  requireProven runtime state.facility proof.facility "facility"
  requireProven runtime liveOwner proof.owner "owner"
  requireProven runtime state.assetIdentityDigest proof.assetIdentityDigest
    "assetIdentityDigest"
  requireProven runtime state.expectedGovernedReleaseAuthorityId
    proof.expectedGovernedReleaseAuthorityId "governedAuthority"
  requireProven runtime state.releaseMode proof.releaseMode "releaseMode"
  requireProven runtime state.circuitHash proof.circuitHash "circuitHash"
  requireProven runtime state.parameterFingerprint proof.parameterFingerprint
    "parameterFingerprint"
  revertIf (liveCureWindow ≠ proof.cureWindow) (.execution "ADAPTER_IMMUTABLE"
    "The live adapter cureWindow disagrees with its deployment proof")
  revertIf (liveCureWindow ≠ expected.cureWindowSeconds) (.execution "ADAPTER_CURE_WINDOW"
    "The case-specific adapter does not use the reviewed cure window")

/-- Solvency and participants of a case's adapter. -/
def checkCaseParticipants (state : AdapterState) (participants : CommittedParticipants)
    (holders : VerifiedHolders) : Except PrepareThrown Unit := do
  revertIf (state.solvent = false ∨
      state.tokenBalance < state.availableReserve + state.openReserved + state.entitledUnpaid)
    (.execution "INSOLVENT" ("The case-specific adapter is not solvent for its reserve and " ++
      "liability accounting"))
  revertIf (state.openReserved ≠ 0 ∨ state.entitledUnpaid ≠ 0) (.execution "OPEN_LIABILITY"
    "The case-specific adapter must carry no open or entitled liability")
  revertIf (state.availableReserve < participants.payoutA + participants.payoutB)
    (.execution "INSUFFICIENT_RESERVE"
      "The case-specific adapter reserve does not cover the canonical payouts")
  revertIf (sameHex runtime participants.holderA participants.holderB = true)
    (.execution "CANONICAL_PARTICIPANTS" "The canonical holders are not distinct")
  revertIf (sameAddress runtime.toRuntime holders.holderA participants.holderA.text = false ∨
      sameAddress runtime.toRuntime holders.holderB participants.holderB.text = false)
    (.execution "CANONICAL_PARTICIPANTS"
      "The admitted participants are not the canonical holders")
  checkExcluded runtime participants (.execution "CANONICAL_EXCLUDED_PARTICIPANT"
    "An excluded wallet is configured as a participant")

/-- The live eligibility on the direct path, which does not ask for the uncontrolled
A-Pass wallet. -/
def checkCaseEligibility (state : AdapterState) (participants : CommittedParticipants) :
    Except PrepareThrown Unit := do
  let holderA ← readEligible reader state participants.holderA state.roleHolder
  let holderB ← readEligible reader state participants.holderB state.roleHolder
  let facility ← readEligible reader state state.facility state.roleFacility
  let negativeControl ← readEligible reader state participants.negativeControl state.roleHolder
  let transferA ← readAllowed reader state participants.holderA participants.payoutA
  let transferB ← readAllowed reader state participants.holderB participants.payoutB
  revertIf (holderA = false ∨ holderB = false) (.execution "PARTICIPANT_INELIGIBLE"
    "Every canonical holder must be currently eligible")
  revertIf (facility = false) (.execution "FACILITY_INELIGIBLE"
    "The facility must currently hold Adapter V2 ROLE_FACILITY")
  revertIf (negativeControl = true) (.execution "NEGATIVE_CONTROL_ELIGIBLE"
    "The canonical negative control must remain ineligible for ROLE_HOLDER")
  revertIf (transferA = false ∨ transferB = false) (.execution "TRANSFER_POLICY"
    "Every canonical payout transfer must be currently permitted")

/-- What `checkDirectParticipantAdapter` looks at before it builds a payload. -/
def checkCase (configuration : CanonicalRecourseConfiguration) (holders : VerifiedHolders)
    (release : VerifiedGovernedRelease) (proof : CaseAdapterDeploymentProof) :
    Except PrepareThrown AdapterState := do
  let state ← require .rejected reader.readAdapterState
  checkCaseCode runtime reader state configuration proof
  checkCasePins runtime state release
  checkCaseImmutables runtime reader state configuration proof
  checkCaseParticipants runtime state configuration.participants holders
  checkCaseEligibility reader state configuration.participants
  pure state

def checkDirectParticipantAdapter (configuration : CanonicalRecourseConfiguration)
    (holders : VerifiedHolders) (release : VerifiedGovernedRelease) (window : BridgeWindow)
    (proof : CaseAdapterDeploymentProof) : Except PrepareThrown CheckedAdapter := do
  let state ← checkCase runtime reader configuration holders release proof
  let payload ← buildGovernedBridgePayload runtime
    (bridgeInput state configuration.participants release window)
  checkPayload runtime reader state payload
    (.execution "RESULT_CONSUMED"
      "The governed result has already been consumed by this adapter")
    (.execution "DIGEST_MISMATCH"
      "Adapter hashRelease disagrees with the independently encoded typed-data digest")

end

/-! ## Preparations -/

section

variable (runtime : BridgeRuntime) (reader : AdapterReader)

/-- How `bridgeError` sees what a preparation throws. -/
def PrepareThrown.failure : PrepareThrown → LoadFailure
  | .execution code message => .execution code message
  | .compatibility code message => .compatibility code message
  | _ => .other

def intentDigestOf (adapter : Hex) (chainId : ℤ)
    (typedDataDigest signer governedResultDigest : Hex) : Hex :=
  ⟨lit "0x" ++ runtime.sha256 (lit "MordantBridgeIntent/v2" ++ [0] ++ stringifyObject
    [("adapter", stringifyText (runtime.toLowerCase adapter.text)),
      ("chainId", stringifyInt chainId),
      ("governedResultDigest", stringifyText (runtime.toLowerCase governedResultDigest.text)),
      ("signer", stringifyText (runtime.toLowerCase signer.text)),
      ("typedDataDigest", stringifyText (runtime.toLowerCase typedDataDigest.text))]),
    List.prefix_append _ _⟩

/-- The object both paths return, for a signer. -/
def CheckedAdapter.prepared (checked : CheckedAdapter) (signer : Hex) : PreparedBridge where
  payload := checked.payload
  typedDataDigest := checked.typedDataDigest
  structHash := checked.structHash
  intentDigest := intentDigestOf runtime checked.adapter.address checked.adapter.chainId
    checked.typedDataDigest signer checked.payload.message.governedResultDigest
  adapterAddress := checked.adapter.address
  adapterChainId := checked.adapter.chainId
  signerAddress := signer

/-- A failure as the executor reports it. -/
def reported {α : Type} (result : Except LoadFailure α) (code message : String) :
    Except BridgeThrown α :=
  result.mapError fun error => bridgeError error code message

/-- `buildPrepared`, from what loading the artifacts and verifying the evidence came to. -/
def buildPrepared (configured : Hex) (loadCanonical : Except LoadFailure CanonicalArtifacts)
    (verifyEvidence : CanonicalArtifacts → Except LoadFailure VerifiedGovernedRelease)
    (window : BridgeWindow) (settlement : Option SettlementAuthorityInput) :
    Except BridgeThrown PreparedState := do
  let canonical ← reported loadCanonical "CANONICAL_LOAD"
    "The canonical V2 artifacts could not be loaded"
  revertIf (sameHex runtime configured canonical.adapter.address = false)
    (.execution "ADAPTER_MISMATCH"
      "The configured adapter is not the adapter in the committed V2 artifacts")
  revertIf (canonical.adapter.chainId ≠ monadTestnetChainId) (.execution "CHAIN_MISMATCH"
    "The committed bridge artifacts are not pinned to Monad testnet")
  let release ← reported (verifyEvidence canonical) "GOVERNED_EVIDENCE"
    "The governed public evidence was rejected"
  let checked ← reported ((checkAdapterV2Compatibility runtime reader canonical release
    window).mapError PrepareThrown.failure) "ADAPTER_READ"
    "The Adapter V2 compatibility check failed"
  pure ⟨checked.prepared runtime canonical.adapter.attestor, settlement⟩

/-- `buildPreparedDirect`, from what loading the configuration and verifying evidence,
admissions and deployment proof came to. -/
def buildPreparedDirect (configured : Hex)
    (loadConfiguration : Except LoadFailure CanonicalRecourseConfiguration)
    (verify : CanonicalRecourseConfiguration →
      Except BridgeThrown (VerifiedHolders × VerifiedGovernedRelease))
    (loadProof : Except LoadFailure CaseAdapterDeploymentProof) (window : BridgeWindow)
    (settlement : Option SettlementAuthorityInput) : Except BridgeThrown PreparedState := do
  let configuration ← reported loadConfiguration "CANONICAL_LOAD"
    "The canonical V2 configuration could not be loaded"
  let (holders, release) ← verify configuration
  let checked ← reported (loadProof >>= fun proof =>
    (checkDirectParticipantAdapter runtime reader configuration holders release window
      proof).mapError PrepareThrown.failure) "ADAPTER_READ"
    "The case-specific adapter compatibility check failed"
  revertIf (sameHex runtime checked.adapter.address configured = false)
    (.execution "ADAPTER_MISMATCH" "The reconciled adapter is not the configured adapter")
  pure ⟨checked.prepared runtime checked.adapter.attestor, settlement⟩

end

/-! ## Both outcomes -/

section

variable {runtime : BridgeRuntime} {reader : AdapterReader} {state : AdapterState}
  {participants : CommittedParticipants} {release : VerifiedGovernedRelease}
  {window : BridgeWindow} {payload : GovernedBridgePayload} {checked : CheckedAdapter}
  {configuration : CanonicalRecourseConfiguration}

/-- What a bridge needs besides the checks of its path: a release that reconciles with
the adapter's pins, a forward window, a result that is not consumed, and an adapter
that hashes what is built as the libraries do. -/
structure BridgeReady (runtime : BridgeRuntime) (reader : AdapterReader) (state : AdapterState)
    (release : VerifiedGovernedRelease) (window : BridgeWindow) : Prop where
  formed : release.WellFormed
  reconciled : reconcileAdapter runtime release state.pins .pinsGovernedAuthority = .ok []
  forward : ForwardWindow window.issuedAt window.expiry
  unconsumed : ∀ digest, digestToBytes32 release.governedResultDigest = .ok digest →
    reader.resultConsumed digest = some false
  parity : ∀ participants payload,
    buildGovernedBridgePayload runtime (bridgeInput state participants release window) =
      .ok payload →
    ∃ digest typedDataDigest structHash, reader.hashRelease payload = some digest ∧
      runtime.hashTypedData payload = some typedDataDigest ∧
      governedReleaseStructHash runtime payload = some structHash ∧
      sameHex runtime digest typedDataDigest = true

/-- The payload the adapter needs to record the outcome: the signed Boolean, with the
committed payouts of a conflict and with none of a refusal. -/
structure Delivers (release : VerifiedGovernedRelease) (participants : CommittedParticipants)
    (payload : GovernedBridgePayload) : Prop where
  conflict : payload.message.conflict = release.conflict
  payoutA : payload.message.payoutA = if release.conflict then participants.payoutA else 0
  payoutB : payload.message.payoutB = if release.conflict then participants.payoutB else 0

/-- A ready payload passes what both paths check of it. -/
theorem BridgeReady.checkPayload {thrown thrown' : PrepareThrown}
    (hready : BridgeReady runtime reader state release window)
    (hpayload : buildGovernedBridgePayload runtime (bridgeInput state participants release window) =
      .ok payload) :
    ∃ checked, Protection.checkPayload runtime reader state payload thrown thrown' = .ok checked ∧
      checked.payload = payload ∧ checked.adapter = state := by
  obtain ⟨digest, typedDataDigest, structHash, hdigest, htyped, hstruct, hsame⟩ :=
    hready.parity participants payload hpayload
  have hconsumed := hready.unconsumed _ (buildGovernedBridgePayload_ok hpayload).2.2.2
  refine ⟨⟨state, payload, typedDataDigest, structHash⟩, ?_, rfl, rfl⟩
  apply bind_ok_iff.mpr
  refine ⟨typedDataDigest, require_ok_iff.mpr htyped, ?_⟩
  apply bind_ok_iff.mpr
  refine ⟨structHash, require_ok_iff.mpr hstruct, ?_⟩
  apply bind_ok_iff.mpr
  refine ⟨digest, require_ok_iff.mpr hdigest, ?_⟩
  apply bind_ok_iff.mpr
  refine ⟨false, require_ok_iff.mpr hconsumed, ?_⟩
  apply revertIf_bind_ok_iff.mpr
  refine ⟨Bool.false_ne_true, ?_⟩
  apply revertIf_bind_ok_iff.mpr
  refine ⟨?_, rfl⟩
  rw [hsame]
  exact Bool.true_eq_false.mp

/-- The adapter a check returns is the one it was given. -/
theorem checkPayload_adapter {thrown thrown' : PrepareThrown}
    (h : checkPayload runtime reader state payload thrown thrown' = .ok checked) :
    checked.adapter = state := by
  simp only [checkPayload, bind_ok_iff, pure_ok_iff] at h
  obtain ⟨_, -, _, -, _, -, _, -, _, -, _, -, rfl⟩ := h
  rfl

/-- With positive payouts, the payout rule holds of a conflict and of nothing else. -/
theorem payoutRule_committed (participants : CommittedParticipants) (conflict : Bool) :
    PayoutRule conflict participants.payoutA participants.payoutB ↔ conflict = true := by
  have hA := participants.payoutA_pos
  have hB := participants.payoutB_pos
  cases conflict with
  | true =>
      have hsum : participants.payoutA + participants.payoutB ≠ 0 := by omega
      exact ⟨fun _ => rfl, fun _ => hsum⟩
  | false =>
      constructor
      · rintro ⟨hzero, -⟩
        exact absurd hzero (by omega)
      · intro hfalse
        exact absurd hfalse Bool.false_ne_true

/-- A payload is built for the committed payouts exactly when a conflict was signed. -/
theorem BridgeReady.payload_iff (hready : BridgeReady runtime reader state release window)
    (participants : CommittedParticipants) :
    (∃ payload, buildGovernedBridgePayload runtime
      (bridgeInput state participants release window) = .ok payload) ↔
        release.conflict = true := by
  apply Iff.trans (@buildGovernedBridgePayload_iff runtime
    (bridgeInput state participants release window) hready.formed hready.reconciled hready.forward)
  exact payoutRule_committed participants release.conflict

/-- What is built for the committed payouts delivers a conflict. -/
theorem delivers_of_built (hconflict : release.conflict = true)
    (hpayload : buildGovernedBridgePayload runtime (bridgeInput state participants release window) =
      .ok payload) : Delivers release participants payload := by
  obtain ⟨hsigned, hA, hB, -⟩ := buildGovernedBridgePayload_ok hpayload
  constructor
  · exact hsigned
  · rw [hA, if_pos hconflict]
    rfl
  · rw [hB, if_pos hconflict]
    rfl

/-- The retained path, up to the payload: everything it checks passes. -/
structure RetainedReady (runtime : BridgeRuntime) (reader : AdapterReader) (configured : Hex)
    (canonical : CanonicalArtifacts) (release : VerifiedGovernedRelease) (window : BridgeWindow)
    (state : AdapterState) : Prop extends BridgeReady runtime reader state release window where
  configured : sameHex runtime configured canonical.adapter.address = true
  chain : canonical.adapter.chainId = monadTestnetChainId
  committed : checkCommitted runtime reader canonical = .ok state

/-- The direct path, up to the payload: everything it checks passes. -/
structure DirectReady (runtime : BridgeRuntime) (reader : AdapterReader) (configured : Hex)
    (configuration : CanonicalRecourseConfiguration) (holders : VerifiedHolders)
    (release : VerifiedGovernedRelease) (proof : CaseAdapterDeploymentProof)
    (window : BridgeWindow) (state : AdapterState) : Prop
    extends BridgeReady runtime reader state release window where
  configured : sameHex runtime state.address configured = true
  deployed : checkCase runtime reader configuration holders release proof = .ok state

/-- The retained check returns a payload exactly when a conflict was signed. -/
theorem checkAdapterV2Compatibility_iff {configured : Hex} {canonical : CanonicalArtifacts}
    (hready : RetainedReady runtime reader configured canonical release window state) :
    (∃ checked, checkAdapterV2Compatibility runtime reader canonical release window =
      .ok checked ∧ Delivers release canonical.configuration.participants checked.payload) ↔
        release.conflict = true := by
  simp only [checkAdapterV2Compatibility, bind_ok_iff, hready.committed, Except.ok.injEq,
    exists_eq_left']
  constructor
  · rintro ⟨checked, ⟨payload, hpayload, -⟩, -⟩
    exact (hready.payload_iff _).mp ⟨payload, hpayload⟩
  · intro hconflict
    obtain ⟨payload, hpayload⟩ :=
      (hready.payload_iff canonical.configuration.participants).mpr hconflict
    obtain ⟨checked, hchecked, rfl, -⟩ := hready.toBridgeReady.checkPayload hpayload
    exact ⟨checked, ⟨_, hpayload, hchecked⟩, delivers_of_built hconflict hpayload⟩

/-- So does the direct check. -/
theorem checkDirectParticipantAdapter_iff {configured : Hex} {holders : VerifiedHolders}
    {proof : CaseAdapterDeploymentProof}
    (hready : DirectReady runtime reader configured configuration holders release proof window
      state) :
    (∃ checked, checkDirectParticipantAdapter runtime reader configuration holders release window
      proof = .ok checked ∧ checked.adapter = state ∧
        Delivers release configuration.participants checked.payload) ↔
          release.conflict = true := by
  simp only [checkDirectParticipantAdapter, bind_ok_iff, hready.deployed, Except.ok.injEq,
    exists_eq_left']
  constructor
  · rintro ⟨checked, ⟨payload, hpayload, -⟩, -⟩
    exact (hready.payload_iff _).mp ⟨payload, hpayload⟩
  · intro hconflict
    obtain ⟨payload, hpayload⟩ := (hready.payload_iff configuration.participants).mpr hconflict
    obtain ⟨checked, hchecked, rfl, hstate⟩ := hready.toBridgeReady.checkPayload hpayload
    exact ⟨checked, ⟨_, hpayload, hchecked⟩, hstate, delivers_of_built hconflict hpayload⟩

theorem reported_ok_iff {α : Type} {result : Except LoadFailure α} {code message : String} {a : α} :
    reported result code message = .ok a ↔ result = .ok a :=
  mapError_ok_iff

/-- **The two outcomes of a bridge.** With the committed payouts, which are positive,
either path returns the payload its outcome needs exactly when a conflict was signed. -/
theorem bridge_delivers_iff {configured : Hex} (canonical : CanonicalArtifacts)
    (holders : VerifiedHolders) (proof : CaseAdapterDeploymentProof)
    (settlement : Option SettlementAuthorityInput) :
    (RetainedReady runtime reader configured canonical release window state →
      ((∃ prepared, buildPrepared runtime reader configured (.ok canonical) (fun _ => .ok release)
          window settlement = .ok prepared ∧
        Delivers release canonical.configuration.participants prepared.prepared.payload) ↔
          release.conflict = true)) ∧
    (DirectReady runtime reader configured canonical.configuration holders release proof window
        state →
      ((∃ prepared, buildPreparedDirect runtime reader configured (.ok canonical.configuration)
          (fun _ => .ok (holders, release)) (.ok proof) window settlement = .ok prepared ∧
        Delivers release canonical.configuration.participants prepared.prepared.payload) ↔
          release.conflict = true)) := by
  constructor
  · intro hready
    rw [← checkAdapterV2Compatibility_iff hready]
    simp only [buildPrepared, bind_ok_iff, reported_ok_iff, revertIf_ok_iff, mapError_ok_iff,
      pure_ok_iff, hready.configured, hready.chain, Except.ok.injEq, exists_eq_left']
    constructor
    · rintro ⟨prepared, ⟨_, -, _, -, checked, hchecked, rfl⟩, hdelivers⟩
      exact ⟨checked, hchecked, hdelivers⟩
    · rintro ⟨checked, hchecked, hdelivers⟩
      exact ⟨_, ⟨(), Bool.true_eq_false.mp, (), not_not.mpr rfl, checked, hchecked, rfl⟩,
        hdelivers⟩
  · intro hready
    rw [← checkDirectParticipantAdapter_iff hready]
    simp only [buildPreparedDirect, bind_ok_iff, reported_ok_iff, revertIf_ok_iff,
      mapError_ok_iff, pure_ok_iff, Except.ok.injEq, exists_eq_left']
    constructor
    · rintro ⟨prepared, ⟨checked, hchecked, _, hconfigured, rfl⟩, hdelivers⟩
      have hcheck := hchecked
      simp only [checkDirectParticipantAdapter, bind_ok_iff, hready.deployed, Except.ok.injEq,
        exists_eq_left'] at hcheck
      obtain ⟨payload, -, hpayload⟩ := hcheck
      exact ⟨checked, hchecked, checkPayload_adapter hpayload, hdelivers⟩
    · rintro ⟨checked, hchecked, hstate, hdelivers⟩
      refine ⟨_, ⟨checked, hchecked, (), ?_, rfl⟩, hdelivers⟩
      rw [hstate, hready.configured]
      exact Bool.true_eq_false.mp

/-- A signed refusal is refused a payload only for the committed payouts. -/
theorem BridgeReady.refused (hready : BridgeReady runtime reader state release window)
    (hconflict : release.conflict = false) (participants : CommittedParticipants) :
    buildGovernedBridgePayload runtime (bridgeInput state participants release window) =
      .error (.governedBridge "PAYOUT_ON_NO_CONFLICT"
        "A signed false Boolean cannot carry a payout") := by
  have hpaid : participants.payoutA ≠ 0 := by
    have hA := participants.payoutA_pos
    omega
  have hrule : (bridgeInput state participants release window).release.conflict = false ∧
      ((bridgeInput state participants release window).participants.payoutA ≠ 0 ∨
        (bridgeInput state participants release window).participants.payoutB ≠ 0) :=
    ⟨hconflict, .inl hpaid⟩
  obtain ⟨hissued, hexpiry, hforward⟩ := hready.forward
  apply bind_error_iff.mpr
  refine .inr ⟨[], hready.reconciled, ?_⟩
  apply bind_error_iff.mpr
  refine .inr ⟨(), revertIf_ok_iff.mpr (Nat.lt_irrefl 0), ?_⟩
  apply bind_error_iff.mpr
  refine .inr ⟨(), revertIf_ok_iff.mpr ?_, ?_⟩
  · simp only [bridgeInput, hissued, hexpiry, hforward, Bool.true_eq_false, Bool.false_eq_true,
      or_self, not_false_eq_true]
  · exact bind_error_iff.mpr (.inl (revertIf_error_iff.mpr ⟨hrule, rfl⟩))

theorem checkCommitted_state {canonical : CanonicalArtifacts}
    (h : checkCommitted runtime reader canonical = .ok state) :
    reader.readAdapterState = some state := by
  simp only [checkCommitted, bind_ok_iff, require_ok_iff, pure_ok_iff] at h
  obtain ⟨_, hread, _, -, _, -, _, -, _, -, rfl⟩ := h
  exact hread

theorem checkCase_state {holders : VerifiedHolders} {proof : CaseAdapterDeploymentProof}
    (h : checkCase runtime reader configuration holders release proof = .ok state) :
    reader.readAdapterState = some state := by
  simp only [checkCase, bind_ok_iff, require_ok_iff, pure_ok_iff] at h
  obtain ⟨_, hread, _, -, _, -, _, -, _, -, _, -, rfl⟩ := h
  exact hread

end

/-! ## A refusal and a conflict of one case

Everything is in order, and two releases differ in the signed Boolean alone. -/

namespace Sample

def digitsOf (pair : String) : Text := (List.replicate 32 (lit pair)).flatten

def hexOf (pair : String) : Hex := ⟨lit "0x" ++ digitsOf pair, List.prefix_append _ _⟩

def addressOf (pair : String) : Hex :=
  ⟨lit "0x" ++ (List.replicate 20 (lit pair)).flatten, List.prefix_append _ _⟩

/-- 64 digits of a number. -/
def wordOf (n : ℕ) : Text := (List.range 64).map fun i => hexDigit (n / 16 ^ (63 - i) % 16)

/-- The word of a value. -/
def encodeValue : AbiValue → Text
  | .bytes32 value => value.text.drop 2
  | .address value => List.replicate 24 48 ++ (value.text.drop 2).map lowerUnit
  | .uint value => wordOf value.toNat
  | .bool value => wordOf value.toNat

/-- The hash of the other text below. -/
def otherHash : Hex :=
  hex "0x5e5f1a6c601ddff4a7d452bf8cf5c106c0efb68a0d0e17832da59c95a6ac0a8d" (by decide)

/-- The hashes of what is hashed for the conflict below. -/
def bridgeRuntime : BridgeRuntime where
  toStoreRuntime :=
    { storeRuntime with
      sha256 := fun _ => lit "995368e550098376c716e59eef8ef11ba5be19e26f5c68a71e2bb9471820d555"
      keccakText := fun text =>
        if text = lit "run-a" then runHash
        else if text = lit "governed-decryptor-v1" then
          hex "0x29d74d033f25761ba7e8fbb0e872d7420cb42498951e9a85e3993b7ef59600fa" (by decide)
        else otherHash }
  keccakHex value :=
    if value.text = lit "0x6001" then
      hex "0x309c67890bde4c575dc23d2cc3b5c3a3d599e312e980e9b61b5bc8f3cd87c8bb" (by decide)
    else hex "0xfe1e3518db3a16b0a5d41631ad07c11348faa9fdb4dc6fc05d69ec1589189679" (by decide)
  encodeAbiParameters values :=
    some ⟨lit "0x" ++ (values.map encodeValue).flatten, List.prefix_append _ _⟩
  hashTypedData _ := some
    (hex "0xcefb8b7a9b7fffcfd98e32edb1a01bd58b182ef12b8fb538456d260aa8aa1044" (by decide))

theorem bridge_lower_hex (text : Text) (h : lit "0x" <+: text) :
    lit "0x" <+: bridgeRuntime.toLowerCase text :=
  bridgeRuntime.lower_hex text h

def adapterState : AdapterState where
  address := addressOf "11"
  chainId := monadTestnetChainId
  codeHash := hex "0x309c67890bde4c575dc23d2cc3b5c3a3d599e312e980e9b61b5bc8f3cd87c8bb" (by decide)
  runtimeBytes := 2
  settlementToken := addressOf "12"
  cviVerifier := addressOf "13"
  attestor := addressOf "15"
  facility := addressOf "14"
  assetIdentityDigest := hexOf "a1"
  expectedGovernedReleaseAuthorityId := hexOf "a2"
  releaseMode :=
    hex "0x29d74d033f25761ba7e8fbb0e872d7420cb42498951e9a85e3993b7ef59600fa" (by decide)
  circuitHash := hexOf "a3"
  parameterFingerprint := hexOf "a4"
  availableReserve := 2
  openReserved := 0
  entitledUnpaid := 0
  tokenBalance := 2
  solvent := true
  domainSeparator :=
    hex "0x01289701dfc970ab0786dc904701adcefdabd843399442e29e13db8f9d17bb8c" (by decide)
  roleHolder := 1
  roleFacility := 3

def committedParticipants : CommittedParticipants where
  holderA := addressOf "44"
  holderB := addressOf "55"
  negativeControl := addressOf "66"
  uncontrolledApassWallet := addressOf "77"
  payoutA := 1
  payoutB := 1
  payoutA_pos := Int.one_pos
  payoutB_pos := Int.one_pos

def artifacts : CanonicalArtifacts where
  configuration :=
    { runtimeBytes := 2
      settlementToken := adapterState.settlementToken
      verifier := adapterState.cviVerifier
      attestor := adapterState.attestor
      facility := adapterState.facility
      participants := committedParticipants
      cureWindowSeconds := 600 }
  adapter :=
    { address := adapterState.address
      chainId := monadTestnetChainId
      codeHash := adapterState.codeHash
      runtimeBytes := 2
      settlementToken := adapterState.settlementToken
      cviVerifier := adapterState.cviVerifier
      attestor := adapterState.attestor
      facility := adapterState.facility
      assetIdentityDigest := adapterState.assetIdentityDigest
      releaseAuthorityId := adapterState.expectedGovernedReleaseAuthorityId
      releaseMode := adapterState.releaseMode
      circuitHash := adapterState.circuitHash
      parameterFingerprint := adapterState.parameterFingerprint
      availableReserve := 2
      openReserved := 0
      entitledUnpaid := 0
      tokenBalance := 2
      domainSeparator := adapterState.domainSeparator
      roleHolder := 1
      roleFacility := 3 }

def deployment : CaseAdapterDeploymentProof where
  runtimeBytes := 2
  deployedCodeHash := adapterState.codeHash
  settlementToken := adapterState.settlementToken
  cviVerifier := adapterState.cviVerifier
  attestor := adapterState.attestor
  facility := adapterState.facility
  owner := adapterState.facility
  assetIdentityDigest := adapterState.assetIdentityDigest
  expectedGovernedReleaseAuthorityId := adapterState.expectedGovernedReleaseAuthorityId
  releaseMode := adapterState.releaseMode
  circuitHash := adapterState.circuitHash
  parameterFingerprint := adapterState.parameterFingerprint
  cureWindow := 600

def adapterReader : AdapterReader where
  readAdapterState := some adapterState
  isEligible _ account _ := some (account ≠ committedParticipants.negativeControl)
  isAssetTransferAllowed _ _ _ _ _ := some true
  readOwner := some adapterState.facility
  readCureWindow := some 600
  readRuntimeCode := some (hex "0x6001" (by decide))
  hashRelease := bridgeRuntime.hashTypedData
  resultConsumed _ := some false

def releaseOf (conflict : Bool) : VerifiedGovernedRelease where
  runId := lit "run-a"
  fheCaseId := lit "sha256:" ++ digitsOf "c1"
  caseBindingDigest := lit "sha256:" ++ digitsOf "c2"
  assetIdentity := lit "sha256:" ++ digitsOf "a1"
  governedResultDigest := lit "sha256:" ++ digitsOf "cd"
  resultCiphertextDigest := lit "sha256:" ++ digitsOf "c5"
  participantArtifactDigestA := lit "sha256:" ++ digitsOf "b1"
  participantArtifactDigestB := lit "sha256:" ++ digitsOf "b2"
  circuitDigest := lit "sha256:" ++ digitsOf "a3"
  parameterFingerprint := lit "sha256:" ++ digitsOf "a4"
  releaseAuthorityId := lit "sha256:" ++ digitsOf "a2"
  releaseMode := lit "governed-decryptor-v1"
  conflict := conflict

def bridgeWindow : BridgeWindow := ⟨7, .ofInt 1000, .ofInt 1600⟩

def holders : VerifiedHolders :=
  ⟨committedParticipants.holderA.text, committedParticipants.holderB.text⟩

/-- Both releases are ready. -/
theorem bridgeReady (conflict : Bool) :
    BridgeReady bridgeRuntime adapterReader adapterState (releaseOf conflict) bridgeWindow where
  formed := by
    cases conflict <;> constructor <;> decide +kernel
  reconciled := by
    cases conflict <;> decide +kernel
  forward := by
    unfold ForwardWindow
    decide +kernel
  unconsumed _ _ := rfl
  parity _ _ _ := ⟨_, _, _, rfl, rfl, rfl, by simp only [sameHex, sameAddress, decide_true]⟩

theorem retainedReady (conflict : Bool) :
    RetainedReady bridgeRuntime adapterReader adapterState.address artifacts (releaseOf conflict)
      bridgeWindow adapterState where
  toBridgeReady := bridgeReady conflict
  configured := by decide +kernel
  chain := rfl
  committed := by
    obtain ⟨state, hstate⟩ := toBool_eq_true_iff.mp
      (show (checkCommitted bridgeRuntime adapterReader artifacts).toBool = true by
        decide +kernel)
    obtain rfl := Option.some.inj (checkCommitted_state hstate)
    exact hstate

theorem directReady (conflict : Bool) :
    DirectReady bridgeRuntime adapterReader adapterState.address artifacts.configuration holders
      (releaseOf conflict) deployment bridgeWindow adapterState where
  toBridgeReady := bridgeReady conflict
  configured := by decide +kernel
  deployed := by
    obtain ⟨state, hstate⟩ := toBool_eq_true_iff.mp
      (show (checkCase bridgeRuntime adapterReader artifacts.configuration holders
        (releaseOf conflict) deployment).toBool = true by cases conflict <;> decide +kernel)
    obtain rfl := Option.some.inj (checkCase_state hstate)
    exact hstate

end Sample

/-- The signed refusal obtains a payload on neither path, for its payouts alone. -/
theorem signed_refusal_rejected :
    RetainedReady Sample.bridgeRuntime Sample.adapterReader Sample.adapterState.address
        Sample.artifacts (Sample.releaseOf false) Sample.bridgeWindow Sample.adapterState ∧
      DirectReady Sample.bridgeRuntime Sample.adapterReader Sample.adapterState.address
        Sample.artifacts.configuration Sample.holders (Sample.releaseOf false) Sample.deployment
        Sample.bridgeWindow Sample.adapterState ∧
      buildGovernedBridgePayload Sample.bridgeRuntime (bridgeInput Sample.adapterState
        Sample.committedParticipants (Sample.releaseOf false) Sample.bridgeWindow) =
          .error (.governedBridge "PAYOUT_ON_NO_CONFLICT"
            "A signed false Boolean cannot carry a payout") ∧
      (∀ prepared, buildPrepared Sample.bridgeRuntime Sample.adapterReader
        Sample.adapterState.address (.ok Sample.artifacts) (fun _ => .ok (Sample.releaseOf false))
          Sample.bridgeWindow none ≠ .ok prepared) ∧
      ∀ prepared, buildPreparedDirect Sample.bridgeRuntime Sample.adapterReader
        Sample.adapterState.address (.ok Sample.artifacts.configuration)
          (fun _ => .ok (Sample.holders, Sample.releaseOf false)) (.ok Sample.deployment)
          Sample.bridgeWindow none ≠ .ok prepared := by
  have hretained := Sample.retainedReady false
  have hdirect := Sample.directReady false
  refine ⟨hretained, hdirect, hretained.toBridgeReady.refused rfl _, ?_, ?_⟩
  · intro prepared hprepared
    exact absurd (toBool_eq_true_iff.mpr ⟨prepared, hprepared⟩) (by decide +kernel)
  · intro prepared hprepared
    exact absurd (toBool_eq_true_iff.mpr ⟨prepared, hprepared⟩) (by decide +kernel)

/-- The signed conflict of the same case obtains one on both. -/
theorem bridge_delivers_sample :
    (∃ prepared, buildPrepared Sample.bridgeRuntime Sample.adapterReader
        Sample.adapterState.address (.ok Sample.artifacts) (fun _ => .ok (Sample.releaseOf true))
          Sample.bridgeWindow none = .ok prepared ∧
        Delivers (Sample.releaseOf true) Sample.committedParticipants prepared.prepared.payload) ∧
      ∃ prepared, buildPreparedDirect Sample.bridgeRuntime Sample.adapterReader
        Sample.adapterState.address (.ok Sample.artifacts.configuration)
          (fun _ => .ok (Sample.holders, Sample.releaseOf true)) (.ok Sample.deployment)
          Sample.bridgeWindow none = .ok prepared ∧
        Delivers (Sample.releaseOf true) Sample.committedParticipants prepared.prepared.payload :=
  have hiff := bridge_delivers_iff Sample.artifacts Sample.holders Sample.deployment none
  ⟨(hiff.1 (Sample.retainedReady true)).mpr rfl, (hiff.2 (Sample.directReady true)).mpr rfl⟩

end Mordant.Protection
