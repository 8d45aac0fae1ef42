/-
# The bridge executor's gate

`simulate` is where the bridge turns a preparation into a signature candidate.
Before it loads the attestor's key it holds every release that moves value
against the settlement authority the preparation was given.

Objects the executor recognizes by identity are handles.  Whether the key was
loaded is part of the outcome, since loading it is an effect that a later refusal
does not undo.
-/

import Mordant.Protection.Settlement

namespace Mordant.Protection

open Foundation Script

/-- What the executor throws: its own error, or one it passes on. -/
inductive BridgeThrown
  | execution (code message : String)
  | other
  deriving DecidableEq

/-- The message of a `GovernedBridgePayload`. -/
structure GovernedReleaseMessage where
  runId : Hex
  fheCaseId : Hex
  caseBindingDigest : Hex
  assetIdentityDigest : Hex
  governedResultDigest : Hex
  resultCiphertextDigest : Hex
  participantArtifactDigestA : Hex
  participantArtifactDigestB : Hex
  holderA : Hex
  holderB : Hex
  payoutA : ℤ
  payoutB : ℤ
  conflict : Bool
  releaseAuthorityId : Hex
  releaseMode : Hex
  circuitHash : Hex
  parameterFingerprint : Hex
  nonce : ℤ
  issuedAt : ℤ
  expiry : ℤ

/-- `GovernedBridgePayload`: the typed data that is signed. Its name, version and
types are constants. -/
structure GovernedBridgePayload where
  chainId : ℤ
  verifyingContract : Hex
  message : GovernedReleaseMessage

/-- `PreparedBridge`. Of the adapter's state only its address and its chain are
read from here on. -/
structure PreparedBridge where
  payload : GovernedBridgePayload
  typedDataDigest : Hex
  structHash : Hex
  intentDigest : Hex
  adapterAddress : Hex
  adapterChainId : ℤ
  signerAddress : Hex

/-- `SettlementAuthorityInput`: what a caller offers for a release that moves money. -/
structure SettlementAuthorityInput where
  plan : SettlementPlan
  authorization : SettlementAuthorization

structure PreparedState where
  prepared : PreparedBridge
  settlement : Option SettlementAuthorityInput

structure SimulationState where
  prepared : PreparedBridge
  signature : Hex
  simulatedAtUnix : ℤ

structure SimulatedBridge where
  intentDigest : Hex
  typedDataDigest : Hex
  signerAddress : Hex
  simulatedAtUnix : ℤ

/-- What an executor remembers, by the identity of the objects it issued. -/
structure Executor where
  preparedStates : ℕ → Option PreparedState
  simulationStates : ℕ → Option SimulationState

structure SigningCapability where
  signerAddress : Hex
  /-- A signature, or a rejected promise. -/
  sign : GovernedBridgePayload → Option Hex

/-- How loading the key fails. -/
inductive LoadFailure
  | execution (code message : String)
  | compatibility (code message : String)
  | other

/-- What one call of `simulate` finds outside. -/
structure BridgeDependencies where
  loadSigner : Except LoadFailure SigningCapability
  /-- Whether the adapter accepts the call, retries included. -/
  simulates : GovernedBridgePayload → Hex → Hex → Bool
  now : ℤ

/-- The outcome of a call of `simulate`. -/
structure SimulateOutcome where
  keyLoaded : Bool
  executor : Executor
  result : Except BridgeThrown SimulatedBridge

/-- `bridgeError`: the executor's own errors and those of the compatibility check
keep their code. -/
def bridgeError (error : LoadFailure) (fallbackCode fallbackMessage : String) : BridgeThrown :=
  match error with
  | .execution code message => .execution code message
  | .compatibility code message => .execution code message
  | .other => .execution fallbackCode fallbackMessage

/-- `validSignature`: 65 bytes in hexadecimal. -/
def validSignature (signature : Hex) : Bool :=
  signature.text.length = 132 && (signature.text.drop 2).all fun unit => (digitOf 16 unit).isSome

/-- The release facts `simulate` hands to the gate. -/
def PreparedBridge.facts (prepared : PreparedBridge) : AuthorizedReleaseFacts where
  adapter := prepared.adapterAddress
  chainId := prepared.adapterChainId
  governedResultDigest := prepared.payload.message.governedResultDigest
  runId := prepared.payload.message.runId
  holderA := prepared.payload.message.holderA
  holderB := prepared.payload.message.holderB
  payoutA := prepared.payload.message.payoutA
  payoutB := prepared.payload.message.payoutB
  conflict := prepared.payload.message.conflict

/-- What the payload pays in all. -/
def PreparedBridge.total (prepared : PreparedBridge) : ℤ :=
  prepared.payload.message.payoutA + prepared.payload.message.payoutB

section

variable (runtime : Runtime) (outside : BridgeDependencies)

/-- The settlement errors the executor renames, and the one it passes on. -/
def settlementError : SettlementThrown → BridgeThrown
  | .authority code message => .execution ("SETTLEMENT_" ++ code)
      ("The settlement authorization does not cover this release: " ++ message)
  | .syntaxError => .other

/-- `simulate` up to the point where it loads the key. -/
def settlementGate (state : PreparedState) : Except BridgeThrown Unit :=
  if 0 < state.prepared.total then do
    let settlement ← require (.execution "SETTLEMENT_NOT_AUTHORIZED"
      ("Adapter V2 signing requires a settlement authorization; " ++
        "a governed conflict alone never authorizes payment")) state.settlement
    match assertSettlementAuthorization runtime settlement.authorization settlement.plan
        state.prepared.facts with
    | .ok () => pure ()
    | .error thrown => throw (settlementError thrown)
  else pure ()

/-- `simulate` from there to the signature candidate the adapter accepts. -/
def simulateCandidate (prepared : PreparedBridge) : Except BridgeThrown Hex := do
  let signing ← match outside.loadSigner with
    | .ok signing => pure signing
    | .error error => throw (bridgeError error "ATTESTOR_KEY_INVALID"
        "The bridge attestor key could not be loaded")
  revertIf (sameAddress runtime signing.signerAddress.text prepared.signerAddress.text = false)
    (.execution "SIGNER_MISMATCH"
      "The configured bridge attestor key does not match the committed Adapter V2 attestor")
  let candidate ← require (.execution "SIGNATURE_FAILED"
    "The bridge attestor could not create a simulation candidate") (signing.sign prepared.payload)
  revertIf (validSignature candidate = false) (.execution "SIGNATURE_FORMAT"
    "The bridge attestor produced an unexpected signature shape")
  revertIf (outside.simulates prepared.payload candidate signing.signerAddress = false)
    (.execution "SIMULATION_FAILED" "Adapter V2 rejected the bridge authorization simulation")
  pure candidate

/-- `simulate`. One preparation yields at most one permit, kept under the handle
of the object returned. -/
def simulate (executor : Executor) (handle permit : ℕ) : SimulateOutcome :=
  match executor.preparedStates handle with
  | none => ⟨false, executor, .error (.execution "PREPARED_UNTRUSTED"
      "The bridge preparation was not issued by this executor")⟩
  | some state => match settlementGate runtime state with
    | .error thrown => ⟨false, executor, .error thrown⟩
    | .ok () => match simulateCandidate runtime outside state.prepared with
      | .error thrown => ⟨true, executor, .error thrown⟩
      | .ok candidate => ⟨true,
          { preparedStates := Function.update executor.preparedStates handle none
            simulationStates := Function.update executor.simulationStates permit
              (some ⟨state.prepared, candidate, outside.now⟩) },
          .ok ⟨state.prepared.intentDigest, state.prepared.typedDataDigest,
            state.prepared.signerAddress, outside.now⟩⟩

end

section

variable {runtime : Runtime} {outside : BridgeDependencies} {executor : Executor}
variable {handle permit : ℕ} {state : PreparedState}

/-- A release that moves value passes with a settlement authority that covers it. -/
theorem settlementGate_ok_iff (hpays : 0 < state.prepared.total) :
    settlementGate runtime state = .ok () ↔ ∃ settlement, state.settlement = some settlement ∧
      assertSettlementAuthorization runtime settlement.authorization settlement.plan
        state.prepared.facts = .ok () := by
  rw [settlementGate, if_pos hpays, require_bind_ok_iff]
  apply exists_congr
  intro settlement
  apply and_congr_right
  intro _
  cases assertSettlementAuthorization runtime settlement.authorization settlement.plan
      state.prepared.facts with
  | ok u => exact ⟨fun _ => rfl, fun _ => rfl⟩
  | error thrown => exact ⟨(fun hthrown => nomatch hthrown), fun hthrown => nomatch hthrown⟩

/-- The key is loaded for a preparation exactly when the gate lets it through. -/
theorem simulate_keyLoaded_iff (hstate : executor.preparedStates handle = some state) :
    (simulate runtime outside executor handle permit).keyLoaded = true ↔
      settlementGate runtime state = .ok () := by
  simp only [simulate, hstate]
  cases settlementGate runtime state with
  | error thrown => exact ⟨(fun hloaded => nomatch hloaded), fun hthrown => nomatch hthrown⟩
  | ok u =>
      constructor
      · intro _
        rfl
      · intro _
        cases simulateCandidate runtime outside state.prepared with
        | error thrown => rfl
        | ok candidate => rfl

end

/-- Every release the gate lets through for this authorization and plan pays what
the plan says. -/
def GatePins (runtime : Runtime) (authorization : SettlementAuthorization)
    (plan : SettlementPlan) : Prop :=
  ∀ release, assertSettlementAuthorization runtime authorization plan release = .ok () →
    release.economics runtime = plan.economics runtime

/-- Whenever an executor has this authorization and plan for a preparation that
moves value and loads the key for it, the release pays what the plan says. -/
def BridgePins (runtime : Runtime) (authorization : SettlementAuthorization)
    (plan : SettlementPlan) : Prop :=
  ∀ (outside : BridgeDependencies) (executor : Executor) (handle permit : ℕ)
    (state : PreparedState), executor.preparedStates handle = some state →
    state.settlement = some ⟨plan, authorization⟩ → 0 < state.prepared.total →
    (simulate runtime outside executor handle permit).keyLoaded = true →
    state.prepared.facts.economics runtime = plan.economics runtime

section

variable {runtime : Runtime} {authorization : SettlementAuthorization} {plan : SettlementPlan}

/-- A preparation of the release an authorization is for. -/
def SettlementAuthorization.preparation (authorization : SettlementAuthorization)
    (payoutA payoutB : ℤ) : PreparedBridge where
  payload :=
    { chainId := authorization.chainId
      verifyingContract := authorization.adapter
      message :=
        { runId := authorization.runId
          fheCaseId := authorization.runId
          caseBindingDigest := authorization.runId
          assetIdentityDigest := authorization.runId
          governedResultDigest := authorization.governedResultDigest
          resultCiphertextDigest := authorization.runId
          participantArtifactDigestA := authorization.runId
          participantArtifactDigestB := authorization.runId
          holderA := authorization.holderA
          holderB := authorization.holderB
          payoutA := payoutA
          payoutB := payoutB
          conflict := true
          releaseAuthorityId := authorization.runId
          releaseMode := authorization.runId
          circuitHash := authorization.runId
          parameterFingerprint := authorization.runId
          nonce := 0
          issuedAt := 0
          expiry := 0 } }
  typedDataDigest := authorization.planHash
  structHash := authorization.planHash
  intentDigest := authorization.planHash
  adapterAddress := authorization.adapter
  adapterChainId := authorization.chainId
  signerAddress := authorization.adapter

theorem gatePins_iff : GatePins runtime authorization plan ↔
    (Names runtime authorization plan →
      authorization.economics runtime = plan.economics runtime) := by
  constructor
  · intro hpins hnames
    obtain ⟨payoutA, payoutB, -, -, hpassed⟩ := hnames.ownRelease
    exact (released_economics_iff hpassed).mp (hpins _ hpassed)
  · intro hagrees release hpassed
    apply (released_economics_iff hpassed).mpr
    exact hagrees (assertSettlementAuthorization_ok_iff.mp hpassed).1

/-- The authorization pays something. -/
def SettlementAuthorization.Pays (authorization : SettlementAuthorization) : Prop :=
  ∃ payoutA payoutB, bigInt authorization.payoutA = some payoutA ∧
    bigInt authorization.payoutB = some payoutB ∧ 0 < payoutA + payoutB

theorem bridgePins_iff : BridgePins runtime authorization plan ↔
    (Names runtime authorization plan → authorization.Pays →
      authorization.economics runtime = plan.economics runtime) := by
  constructor
  · rintro hpins hnames ⟨payoutA, payoutB, hA, hB, hpositive⟩
    obtain ⟨payoutA', payoutB', hA', hB', hpassed⟩ := hnames.ownRelease
    obtain rfl := Option.some.inj (hA.symm.trans hA')
    obtain rfl := Option.some.inj (hB.symm.trans hB')
    -- the authorization's own release, prepared under the authorization
    let state : PreparedState :=
      ⟨authorization.preparation payoutA payoutB, some ⟨plan, authorization⟩⟩
    let executor : Executor := ⟨fun _ => some state, fun _ => none⟩
    have hmoves : 0 < state.prepared.total := hpositive
    have hgate : settlementGate runtime state = .ok () :=
      (settlementGate_ok_iff hmoves).mpr ⟨_, rfl, hpassed⟩
    have hpinned := hpins ⟨.error .other, fun _ _ _ => false, 0⟩ executor 0 0 state rfl rfl
      hmoves ((simulate_keyLoaded_iff rfl).mpr hgate)
    exact (released_economics_iff hpassed).mp hpinned
  · intro hagrees outside executor handle permit state hstate hsettlement hpositive hloaded
    obtain ⟨settlement, hsome, hpassed⟩ :=
      (settlementGate_ok_iff hpositive).mp ((simulate_keyLoaded_iff hstate).mp hloaded)
    obtain rfl := Option.some.inj (hsettlement.symm.trans hsome)
    obtain ⟨hnames, -, hpaid⟩ := assertSettlementAuthorization_ok_iff.mp hpassed
    have hpays : authorization.Pays :=
      ⟨_, _, congrArg Economics.payoutA hpaid, congrArg Economics.payoutB hpaid, hpositive⟩
    exact (released_economics_iff hpassed).mpr (hagrees hnames hpays)

/-- **The settlement gate.** An authorization that names a plan pins every release
to the plan exactly when its own copy of the economic terms is the plan's; the
same decides whether the bridge loads the key for pinned releases only. -/
theorem settlement_gate_iff (runtime : Runtime) (authorization : SettlementAuthorization)
    (plan : SettlementPlan) :
    (GatePins runtime authorization plan ↔
      (Names runtime authorization plan →
        authorization.economics runtime = plan.economics runtime)) ∧
    (BridgePins runtime authorization plan ↔
      (Names runtime authorization plan → authorization.Pays →
        authorization.economics runtime = plan.economics runtime)) :=
  ⟨gatePins_iff, bridgePins_iff⟩

end

/-! ## A substituted authorization

A plan pays two holders one unit each.  Its authorization is derived and then
changed: another holder is named and paid four thousand.  The plan hash and the
profile digest, which the gate compares, are left as they are. -/

namespace Sample

/-- ASCII lower-casing, and the digest of the one text hashed below. -/
def runtime : Runtime where
  toLowerCase := List.map lowerUnit
  lower_hex text hstarts := by
    have hlower : (lit "0x").map lowerUnit = lit "0x" := by decide
    rw [← hlower]
    exact hstarts.map lowerUnit
  sha256 _ := lit "ddbbda46ae9dc514bfed2baebc02fab02ccfab305483e45af19c4bb874ed5587"

def hex (text : String) (hstarts : lit "0x" <+: lit text) : Hex := ⟨lit text, hstarts⟩

def plan : SettlementPlan where
  settlementProfileDigest :=
    hex "0x7777777777777777777777777777777777777777777777777777777777777777" (by decide)
  governedResultDigest :=
    hex "0xcdcdcdcdcdcdcdcdcdcdcdcdcdcdcdcdcdcdcdcdcdcdcdcdcdcdcdcdcdcdcdcd" (by decide)
  runId :=
    hex "0xefefefefefefefefefefefefefefefefefefefefefefefefefefefefefefefef" (by decide)
  releaseAuthorityId :=
    lit "0xabababababababababababababababababababababababababababababababab"
  adapter := hex "0x1111111111111111111111111111111111111111" (by decide)
  chainId := 10143
  holderA := hex "0x4444444444444444444444444444444444444444" (by decide)
  holderB := hex "0x5555555555555555555555555555555555555555" (by decide)
  payoutA := lit "1"
  payoutB := lit "1"
  cureWindowSeconds := 600

def stranger : Hex := hex "0x9999999999999999999999999999999999999999" (by decide)

def substituted : SettlementAuthorization :=
  { deriveSettlementAuthorization runtime plan with holderB := stranger, payoutB := lit "4000" }

/-- A preparation of what the changed authorization pays. -/
def prepared : PreparedState := ⟨substituted.preparation 1 4000, some ⟨plan, substituted⟩⟩

def executor : Executor := ⟨fun handle => if handle = 0 then some prepared else none, fun _ => none⟩

def blankSignature : Hex := ⟨lit "0x" ++ List.replicate 130 48, List.prefix_append _ _⟩

/-- The attestor's key is there, and the adapter accepts the call. -/
def outside : BridgeDependencies where
  loadSigner := .ok ⟨prepared.prepared.signerAddress, fun _ => some blankSignature⟩
  simulates _ _ _ := true
  now := 0

end Sample

/-- The changed authorization passes the gate, and the bridge loads its key and
obtains a candidate for a release that pays a stranger. -/
theorem substituted_settlement_passes :
    assertSettlementAuthorization Sample.runtime Sample.substituted Sample.plan
        Sample.prepared.prepared.facts = .ok () ∧
      Sample.prepared.prepared.facts.economics Sample.runtime ≠
        Sample.plan.economics Sample.runtime ∧
      (simulate Sample.runtime Sample.outside Sample.executor 0 1).keyLoaded = true ∧
      (simulate Sample.runtime Sample.outside Sample.executor 0 1).result.toBool = true := by
  decide +kernel

end Mordant.Protection
