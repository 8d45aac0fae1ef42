/-
# The matching system

The five contracts together.  A system is deployed by its constructors and then
runs through events: a call by any outside account, or a change of the outside
world.  The contracts call each other only from inside `bindRecourse`.
-/

import Mordant.Match.Binder

namespace Mordant.Match

open Evm Foundation

/-- The constructor arguments of the four contracts the binder consults. -/
structure Genesis where
  tx : Tx
  issuerOwner : Address
  governor : Address
  sourceGovernor : Address
  verifierOwner : Address
  validators : List Address
  quorum : BitVec 256
  recomputationQuorum : BitVec 16

/-- The external functions that change state. -/
inductive Call
  -- issuer registry
  | registerIssuer (signer : Address) (fromEpoch : BitVec 32)
  | revokeIssuer (issuerKeyId : Bytes32)
  | advanceEpoch (issuerKeyId : Bytes32) (epoch : BitVec 32)
  | transferOwnership (newOwner : Address)
  | renounceOwnership
  -- governance registry
  | authorize (request : AuthorizationRequest)
  | retire (recordDigest : Bytes32)
  | emergencyRevoke (recordDigest : Bytes32)
  | setAuthorizedRelayer (relayer : Address) (allowed : Bool)
  | setAuthorizedBinder (binder : Address) (allowed : Bool)
  | commitSession (sessionCommitment sessionNullifier : Bytes32)
  | resolveSession (reveal : SessionReveal)
  -- source registry
  | setAuthorizedSubmitter (submitter : Address) (allowed : Bool)
  | setAuthorizedRevealer (revealer : Address) (allowed : Bool)
  | commitSource (sourceRecordCommitment : Bytes32)
  | revealSource (reveal : SourceReveal)
  -- verifier
  | setPolicyVersion (policyId : Bytes32) (version : BitVec 32)
  | acceptMatch (envelope : MatchEnvelope) (attestation : Bytes)
  -- binder
  | bindRecourse (request : Binder.BindRequest)

/-- What can happen next. -/
inductive Event (W : Type)
  | call (tx : Tx) (call : Call)
  | outside (world : W)

/-- The addresses of the deployed contracts. -/
def Deployment.contracts (d : Deployment) : List Address :=
  [d.issuerRegistry, d.governance, d.sources, d.verifier, d.binder]

section

variable {W : Type} (crypto : Crypto) (env : Externals W) (d : Deployment)

/-- Run all constructors. -/
def deploy (genesis : Genesis) (world : W) : Except MatchError (System W) := do
  let issuers ← IssuerRegistry.construct genesis.issuerOwner
  let governance ← Governance.construct genesis.governor
  let sources ← Sources.construct genesis.sourceGovernor d.issuerRegistry
  let verifier ← Verifier.construct crypto d.verifier genesis.tx genesis.verifierOwner d.governance
    genesis.validators genesis.quorum.toNat genesis.recomputationQuorum
  Binder.check d
  pure
    { issuers := issuers
      governance := governance
      sources := sources
      verifier := verifier
      binder := {}
      world := world }

/-- Commit a new issuer registry. -/
def System.withIssuers (s : System W) (r : Except MatchError IssuerState) :
    Except MatchError (System W) := (fun issuers => { s with issuers := issuers }) <$> r

/-- Commit a new governance registry. -/
def System.withGovernance (s : System W) (g : Except MatchError GovernanceState) :
    Except MatchError (System W) := (fun governance => { s with governance := governance }) <$> g

/-- Commit a new source registry. -/
def System.withSources (s : System W) (r : Except MatchError SourceState) :
    Except MatchError (System W) := (fun sources => { s with sources := sources }) <$> r

/-- Commit a new verifier. -/
def System.withVerifier (s : System W) (v : Except MatchError VerifierState) :
    Except MatchError (System W) := (fun verifier => { s with verifier := verifier }) <$> v

/-- One call. -/
def Call.perform (s : System W) (tx : Tx) : Call → Except MatchError (System W)
  | .registerIssuer signer fromEpoch =>
      s.withIssuers (IssuerRegistry.registerIssuer crypto s.issuers tx signer fromEpoch)
  | .revokeIssuer issuerKeyId =>
      s.withIssuers (IssuerRegistry.revokeIssuer s.issuers tx issuerKeyId)
  | .advanceEpoch issuerKeyId epoch =>
      s.withIssuers (IssuerRegistry.advanceEpoch s.issuers tx issuerKeyId epoch)
  | .transferOwnership newOwner =>
      s.withIssuers (IssuerRegistry.transferOwnership s.issuers tx newOwner)
  | .renounceOwnership => s.withIssuers (IssuerRegistry.renounceOwnership s.issuers tx)
  | .authorize request =>
      s.withGovernance
        (Prod.snd <$> Governance.authorize crypto d.governance s.governance tx request)
  | .retire recordDigest => s.withGovernance (Governance.retire s.governance tx recordDigest)
  | .emergencyRevoke recordDigest =>
      s.withGovernance (Governance.emergencyRevoke s.governance tx recordDigest)
  | .setAuthorizedRelayer relayer allowed =>
      s.withGovernance (Governance.setAuthorizedRelayer s.governance tx relayer allowed)
  | .setAuthorizedBinder binder allowed =>
      s.withGovernance (Governance.setAuthorizedBinder s.governance tx binder allowed)
  | .commitSession sessionCommitment sessionNullifier =>
      s.withGovernance
        (Governance.commitSession s.governance tx sessionCommitment sessionNullifier)
  | .resolveSession reveal =>
      s.withGovernance (Prod.snd <$> Governance.resolveSession crypto d.governance s.governance tx
        reveal.intent reveal.salt reveal.signatures)
  | .setAuthorizedSubmitter submitter allowed =>
      s.withSources (Sources.setAuthorizedSubmitter s.sources tx submitter allowed)
  | .setAuthorizedRevealer revealer allowed =>
      s.withSources (Sources.setAuthorizedRevealer s.sources tx revealer allowed)
  | .commitSource sourceRecordCommitment =>
      s.withSources (Sources.commitSource s.sources tx sourceRecordCommitment)
  | .revealSource reveal =>
      s.withSources (Prod.snd <$> Sources.revealSource crypto d.sources s.sources s.issuers tx
        reveal.attestation reveal.issuerSignature reveal.salt)
  | .setPolicyVersion policyId version =>
      s.withVerifier (Verifier.setPolicyVersion s.verifier tx policyId version)
  | .acceptMatch envelope attestation =>
      s.withVerifier (Prod.snd <$> Verifier.acceptMatch crypto d.verifier s.verifier s.governance
        tx envelope attestation)
  | .bindRecourse request => Prod.snd <$> Binder.bindRecourse crypto env d s tx request

/-- One event. An outside account is none of the contracts. -/
def exec (s : System W) : Event W → Except MatchError (System W)
  | .call tx call => do
      revertIf (tx.sender ∈ d.contracts) (.unauthorized tx.sender)
      call.perform crypto env d s tx
  | .outside world => pure { s with world := world }

/-- A deployed system after a run of committed calls. -/
def Reaches (events : List (Event W)) (s : System W) : Prop :=
  ∃ genesis world s₀, deploy crypto d genesis world = .ok s₀ ∧
    run (exec crypto env d) s₀ events = .ok s

variable {crypto env d}

/-- Every bind of a run happened in a reachable system. -/
theorem Reaches.bind {events before after : List (Event W)} {s : System W} {tx : Tx}
    {request : Binder.BindRequest} (hreach : Reaches crypto env d events s)
    (hsplit : events = before ++ .call tx (.bindRecourse request) :: after) :
    ∃ s₁ result, Reaches crypto env d before s₁ ∧
      Binder.bindRecourse crypto env d s₁ tx request = .ok result := by
  obtain ⟨genesis, world, s₀, hdeploy, hrun⟩ := hreach
  rw [hsplit] at hrun
  obtain ⟨s₁, s₂, hbefore, hexec⟩ := run_append_ok hrun
  simp only [exec, Call.perform, bind_ok_iff, revertIf_ok_iff, map_ok_iff] at hexec
  obtain ⟨-, -, result, hbind, -⟩ := hexec
  exact ⟨s₁, result, ⟨genesis, world, s₀, hdeploy, hbefore⟩, hbind⟩

end

/-! ## A sample story

One issuer, two controllers, two sources, one session, one result.  What the
session intent states about the sources, the asset and the policy, and whose key
made its issuer signature, are left open. -/

namespace Sample

/-- A digest that depends on every byte and adds the last word to the others, and
signatures that name their signer and the digest they were made for. -/
def crypto : Crypto where
  keccak256 bytes :=
    let split := bytes.length - 32
    let rest := (bytes.take split).foldl
      (fun acc b => (acc * 0x100000001b3 + b.toNat + 1) % 2 ^ 256) 0
    BitVec.ofNat 256 rest + wordOfBytes (bytes.drop split)
  ecrecover digest _ r s := if s = digest >>> 1 then r.setWidth 160 else 0

/-- The signature `crypto` recovers to `signer`. -/
def sign (signer : Address) (digest : Bytes32) : Bytes :=
  wordBytes (addressWord signer) ++ wordBytes (digest >>> 1) ++ [27]

def deployment : Deployment where
  issuerRegistry := 0x101
  governance := 0x102
  sources := 0x103
  verifier := 0x104
  binder := 0x105
  factory := 0x106
  policyId := 0x51
  policyVersion := 1
  curePeriod := 10
  consequenceId := 0x52

def issuerOwner : Address := 0x201
def governor : Address := 0x202
def sourceGovernor : Address := 0x203
def verifierOwner : Address := 0x204
def relayer : Address := 0x205
def submitter : Address := 0x206
def controllerA : Address := 0x207
def controllerB : Address := 0x208
def issuer : Address := 0x209
def validatorA : Address := 0x20a
def validatorB : Address := 0x20b
def anchor : Address := 0x301

/-- A call in block `block`, at time `block`, on chain 1. -/
def tx (sender : Address) (block : ℕ) : Tx := ⟨⟨sender, block, block⟩, 1⟩

def genesis : Genesis where
  tx := tx 0x200 0
  issuerOwner := issuerOwner
  governor := governor
  sourceGovernor := sourceGovernor
  verifierOwner := verifierOwner
  validators := [validatorA, validatorB]
  quorum := 2
  recomputationQuorum := 2

def issuerKeyId : Bytes32 := IssuerRegistry.issuerKeyIdFor crypto issuer

/-- One genuine anchor, admitted by the factory. -/
def env : Externals Unit where
  isDeployed _ account := account == anchor
  sourceAttestationDigest _ _ := some 0x77
  identitySchemeVersion _ _ := some 3
  termsSchemeVersion _ _ := some 1
  receivableState _ _ := some 1
  protectionState _ _ := some 1
  totalSupply _ _ := some 10
  assetCommitment _ _ := some 11
  issuerKeyId _ _ := some issuerKeyId
  vaultForAttestation _ digest := some (if digest = 0x77 then anchor else 0)

def requestA : AuthorizationRequest := ⟨0xa1, controllerA, 0xa2, 0xa3, 1, 1, 1⟩
def requestB : AuthorizationRequest := ⟨0xb1, controllerB, 0xb2, 0xb3, 1, 1, 1⟩

def recordA : Bytes32 :=
  Governance.recordDigestOf crypto deployment.governance (tx governor 2) requestA 2
def recordB : Bytes32 :=
  Governance.recordDigestOf crypto deployment.governance (tx governor 2) requestB 2

/-- An attested source, signed by the registered issuer. -/
def source (assetCommitment : Bytes32) (controller : Address) (nonce : BitVec 256) :
    SourceReveal :=
  let attestation : SourceAttestation :=
    { chainId := 1
      factory := deployment.sources
      creationDigest := 1
      assetCommitment := assetCommitment
      initialTermsCommitment := 0x61
      identitySchemeVersion := 3
      termsSchemeVersion := 1
      identityEpoch := 1
      issuerKeyId := issuerKeyId
      invoiceRoot := 0x62
      controller := controller
      validUntil := 100
      nonce := nonce }
  { attestation := attestation
    issuerSignature := sign issuer (attestation.digest crypto (tx 0 7) deployment.sources)
    salt := 0x63 }

def sourceA : SourceReveal := source 11 0x302 1
def sourceB : SourceReveal := source 12 0x303 2

def commitmentOf (reveal : SourceReveal) : Bytes32 :=
  Sources.sourceCommitmentOf crypto deployment.sources (tx 0 3) reveal.attestation
    reveal.issuerSignature reveal.salt

/-- What an intent states, and whose key made its issuer signature. -/
structure Story where
  sourceRecordCommitmentA : Bytes32
  sourceRecordCommitmentB : Bytes32
  strictAssetCommitmentA : Bytes32
  policyId : Bytes32
  policyVersion : BitVec 32
  issuerSigner : Address

/-- The intent that states what is bound, signed by the registered issuer. -/
def honest : Story where
  sourceRecordCommitmentA := commitmentOf sourceA
  sourceRecordCommitmentB := commitmentOf sourceB
  strictAssetCommitmentA := 11
  policyId := 0x51
  policyVersion := 1
  issuerSigner := issuer

variable (story : Story)

def intent : SessionIntent where
  chainId := 1
  governanceRegistry := deployment.governance
  policyId := story.policyId
  policyVersion := story.policyVersion
  governanceRecordA := recordA
  governanceRecordB := recordB
  controllerKeyIdA := 0xa2
  controllerKeyIdB := 0xb2
  controllerEpochA := 1
  controllerEpochB := 1
  scopeAuthorizationVersionA := 1
  scopeAuthorizationVersionB := 1
  sourceRecordCommitmentA := story.sourceRecordCommitmentA
  sourceRecordCommitmentB := story.sourceRecordCommitmentB
  scopeCommitmentA := 0xa1
  scopeCommitmentB := 0xb1
  issuerKeyId := issuerKeyId
  identityEpoch := 1
  strictAssetCommitmentA := story.strictAssetCommitmentA
  candidateAuthorized := false
  exactBudget := 1
  candidateBudget := 0
  sessionNonce := 1
  expiry := 100
  disclosureVersion := 1

def reveal : SessionReveal :=
  let digest := Governance.intentDigest crypto deployment.governance (tx 0 7) (intent story)
  { intent := intent story
    salt := 0x64
    signatures :=
      { controllerA := sign controllerA digest
        controllerB := sign controllerB digest
        issuer := sign story.issuerSigner digest } }

def sessionCommitment : Bytes32 :=
  Governance.sessionCommitmentOf crypto deployment.governance (tx 0 5) (intent story)
    (reveal story).signatures (reveal story).salt

def sessionNullifier : Bytes32 :=
  Governance.sessionNullifierOf crypto deployment.governance (tx 0 5) (intent story)

def core : ResultCore where
  schemaVersion := 5
  chainId := 1
  verifier := deployment.verifier
  binder := deployment.binder
  policyId := 0x51
  policyVersion := 1
  session :=
    { sessionCommitment := sessionCommitment story
      sessionNullifier := sessionNullifier story
      governanceContext := 0x71
      sourceRecordCommitmentA := commitmentOf sourceA
      sourceRecordCommitmentB := commitmentOf sourceB
      enrollmentDigestA := 0x72
      enrollmentDigestB := 0x73 }
  evaluation :=
    { ciphertextDigestA := 0x81
      ciphertextDigestB := 0x82
      inputCommitmentA := 0x83
      inputCommitmentB := 0x84
      outputCiphertextCommitment := 0x85
      circuitHash := 0x86
      circuitVersion := 5
      releaseLayoutVersion := 1
      parameterFingerprint := 0x87
      evaluationKeyEpoch := 1
      evaluationKeyDigest := 0x88
      runtimeFingerprint := 0x89
      providerProofCommitment := 0x8a }
  sameEconomicAsset := true
  policyConflict := true
  outcome := .sameAssetPolicyConflict
  nonce := 1
  expiry := 100

/-- A transcript that reports `quorum` recomputations. -/
def transcript (quorum : BitVec 16) : RecomputationTranscript where
  transcriptCommitment := 0x91
  operatorSetDigest := 0x92
  recomputationQuorum := quorum
  contextDigest := Verifier.recomputationContext crypto (core story)

def envelope (quorum : BitVec 16) : MatchEnvelope where
  core := core story
  resultCommitment := (core story).commitmentOf crypto
  transcript := transcript story quorum

/-- Both validators sign the result. -/
def attestation : Bytes :=
  let setId := Verifier.validatorSetIdOf crypto deployment.verifier genesis.tx genesis.validators 2
  let digest := Verifier.attestationDigest crypto deployment.verifier (tx 0 7) setId
    (Verifier.resultDigest crypto deployment.verifier (tx 0 7) (core story))
    (Verifier.recomputationContext crypto (core story))
  sign validatorA digest ++ sign validatorB digest

/-- One controller's consent to the disclosure. -/
def consent (scope record sourceRecordCommitment : Bytes32) (controller : Address) :
    DisclosureConsent :=
  let unsigned : DisclosureConsent := ⟨scope, record, 1, 100, 1, []⟩
  { unsigned with
    signature := sign controller (Binder.consentDigest crypto deployment (tx 0 7)
      (sessionCommitment story) (sessionNullifier story) ((core story).commitmentOf crypto)
      sourceRecordCommitment anchor unsigned) }

def request : Binder.BindRequest where
  envelope := envelope story 2
  attestation := attestation story
  reveal := reveal story
  anchoredSource := sourceA
  counterpartySource := sourceB
  anchor := anchor
  consentA := consent story 0xa1 recordA (commitmentOf sourceA) controllerA
  consentB := consent story 0xb1 recordB (commitmentOf sourceB) controllerB

/-- Registration, authorization and the three commitments. -/
def preparation : List (Event Unit) :=
  [.call (tx issuerOwner 1) (.registerIssuer issuer 1),
    .call (tx governor 2) (.authorize requestA),
    .call (tx governor 2) (.authorize requestB),
    .call (tx governor 2) (.setAuthorizedRelayer relayer true),
    .call (tx governor 2) (.setAuthorizedBinder deployment.binder true),
    .call (tx sourceGovernor 2) (.setAuthorizedSubmitter submitter true),
    .call (tx sourceGovernor 2) (.setAuthorizedRevealer deployment.binder true),
    .call (tx verifierOwner 2) (.setPolicyVersion 0x51 1),
    .call (tx submitter 3) (.commitSource (commitmentOf sourceA)),
    .call (tx submitter 3) (.commitSource (commitmentOf sourceB)),
    .call (tx relayer 5) (.commitSession (sessionCommitment story) (sessionNullifier story))]

/-- The bind, by anybody. -/
def binding : Event Unit := .call (tx 0x400 7) (.bindRecourse (request story))

def events : List (Event Unit) := preparation story ++ [binding story]

/-- The run of a story, from the constructors on. -/
def outcome : Except MatchError (System Unit) := do
  let s ← deploy crypto deployment genesis ()
  run (exec crypto env deployment) s (events story)

/-- A story that commits is a run. -/
theorem reaches (story : Story) (hcommits : (outcome story).toBool = true) :
    ∃ s, Reaches crypto env deployment (events story) s := by
  obtain ⟨s, houtcome⟩ := toBool_eq_true_iff.mp hcommits
  obtain ⟨s₀, hdeploy, hrun⟩ := bind_ok_iff.mp houtcome
  exact ⟨s, genesis, (), s₀, hdeploy, hrun⟩

/-- The honest story leaves its recourse open. -/
theorem honest_open : ∃ s, Reaches crypto env deployment (events honest) s ∧
    (s.binder.recourses (sessionCommitment honest)).isOpen = true := by
  have houtcome : ((fun s : System Unit =>
      (s.binder.recourses (sessionCommitment honest)).isOpen) <$> outcome honest).toOption =
        some true := by decide +kernel
  obtain ⟨s, hrun, hopen⟩ := map_ok_iff.mp (toOption_eq_some_iff.mp houtcome)
  obtain ⟨s₀, hdeploy, hrun⟩ := bind_ok_iff.mp hrun
  exact ⟨s, ⟨genesis, (), s₀, hdeploy, hrun⟩, hopen⟩

theorem honest_reaches : ∃ s, Reaches crypto env deployment (events honest) s := by
  obtain ⟨s, hreach, -⟩ := honest_open
  exact ⟨s, hreach⟩

end Sample

end Mordant.Match
