/-
# The recourse binder

`PrivateMatchBinderV5`, beside the four contracts it consults.  Binding accepts
a quorum-signed result, opens the session and both source records, checks the
anchor and both disclosure consents, and opens one recourse record.

The anchor and its factory are not part of this system: their getters are
arbitrary functions of an arbitrary outside world, and each may fail.
-/

import Mordant.Match.Sources
import Mordant.Match.Verifier

namespace Mordant.Match

open Evm Foundation
open Function (update)

structure SessionReveal where
  intent : SessionIntent
  salt : Bytes32
  signatures : InitiationSignatures

structure SourceReveal where
  attestation : SourceAttestation
  issuerSignature : Bytes
  salt : Bytes32

structure DisclosureConsent where
  scopeCommitment : Bytes32
  governanceRecord : Bytes32
  disclosureVersion : BitVec 32
  validUntil : BitVec 64
  nonce : BitVec 256
  signature : Bytes

structure RecourseRecord where
  sessionCommitment : Bytes32 := 0
  sessionNullifier : Bytes32 := 0
  resultCommitment : Bytes32 := 0
  anchorCommitment : Bytes32 := 0
  counterpartyCommitment : Bytes32 := 0
  providerProofCommitment : Bytes32 := 0
  anchor : Address := 0
  policyId : Bytes32 := 0
  policyVersion : BitVec 32 := 0
  boundAt : ℕ := 0
  cureDeadline : ℕ := 0
  /-- `open`. -/
  isOpen : Bool := false

/-- Storage of the binder. -/
structure BinderState where
  recourses : Bytes32 → RecourseRecord := fun _ => {}
  boundResults : Bytes32 → Bool := fun _ => false
  boundDecisions : Bytes32 → Bool := fun _ => false
  boundSources : Bytes32 → Bool := fun _ => false
  consumedConsentNonce : Bytes32 → BitVec 256 → Bool := fun _ _ => false

/-- Where the five contracts live, and the binder's immutables. -/
structure Deployment where
  issuerRegistry : Address
  governance : Address
  sources : Address
  verifier : Address
  binder : Address
  factory : Address
  policyId : Bytes32
  policyVersion : BitVec 32
  curePeriod : BitVec 64
  consequenceId : Bytes32

/-- The anchors and the factory that admitted them. -/
structure Externals (W : Type) where
  /-- `address(anchor).code.length != 0`. -/
  isDeployed : W → Address → Bool
  sourceAttestationDigest : W → Address → Option Bytes32
  identitySchemeVersion : W → Address → Option (BitVec 16)
  termsSchemeVersion : W → Address → Option (BitVec 16)
  receivableState : W → Address → Option (BitVec 8)
  protectionState : W → Address → Option (BitVec 8)
  totalSupply : W → Address → Option (BitVec 256)
  assetCommitment : W → Address → Option Bytes32
  issuerKeyId : W → Address → Option Bytes32
  /-- `IFactoryAdmission`. -/
  vaultForAttestation : W → Bytes32 → Option Address

/-- The five contracts and everything outside them. -/
structure System (W : Type) where
  issuers : IssuerState
  governance : GovernanceState
  sources : SourceState
  verifier : VerifierState
  binder : BinderState
  world : W

def receivableOutstanding : BitVec 8 := 1
def protectionActive : BitVec 8 := 1

namespace Binder

variable (crypto : Crypto) {W : Type} (env : Externals W) (d : Deployment)

/-- The constructor's checks. -/
def check : Except MatchError Unit := do
  revertIf (d.verifier = 0 ∨ d.governance = 0 ∨ d.sources = 0 ∨ d.factory = 0) .zeroAddress
  revertIf (d.policyId = 0 ∨ d.policyVersion = 0 ∨ d.curePeriod = 0 ∨ d.consequenceId = 0)
    .invalidConfiguration

/-- A call the binder makes. -/
def calling (tx : Tx) : Tx := { tx with sender := d.binder }

def domainSeparator (tx : Tx) : Bytes32 :=
  crypto.domainSeparator "Mordant Private Match Binder" "5" tx.chainId d.binder

def consentTypeHash : Bytes32 := crypto.keccakText
  ("DisclosureConsentV5(uint256 chainId,address binder,bytes32 policyId," ++
    "uint32 policyVersion,bytes32 sessionCommitment,bytes32 sessionNullifier," ++
    "bytes32 resultCommitment,bytes32 scopeCommitment,bytes32 governanceRecord," ++
    "bytes32 sourceRecordCommitment,address anchor,uint32 disclosureVersion," ++
    "uint64 validUntil,uint256 nonce)")

def consentDigest (tx : Tx)
    (sessionCommitment sessionNullifier resultCommitment sourceRecordCommitment : Bytes32)
    (anchor : Address) (consent : DisclosureConsent) : Bytes32 :=
  crypto.typedDataHash (domainSeparator crypto d tx) (crypto.keccak256
    (abiEncode [consentTypeHash crypto, uintWord tx.chainId, addressWord d.binder, d.policyId,
        uintWord d.policyVersion.toNat, sessionCommitment, sessionNullifier, resultCommitment] ++
      abiEncode [consent.scopeCommitment, consent.governanceRecord, sourceRecordCommitment,
        addressWord anchor, uintWord consent.disclosureVersion.toNat,
        uintWord consent.validUntil.toNat, consent.nonce]))

def requireConsent (b : BinderState) (tx : Tx) (core : ResultCore) (resultCommitment : Bytes32)
    (anchor : Address) (expectedScope expectedRecord sourceRecordCommitment : Bytes32)
    (controller : Address) (consent : DisclosureConsent) : Except MatchError BinderState := do
  revertIf (consent.scopeCommitment ≠ expectedScope)
    (.consentScopeMismatch consent.scopeCommitment expectedScope)
  revertIf (consent.governanceRecord ≠ expectedRecord)
    (.consentRecordNotForSession consent.scopeCommitment consent.governanceRecord)
  revertIf (consent.validUntil = 0 ∨ consent.validUntil.toNat < tx.timestamp)
    (.disclosureConsentExpired consent.scopeCommitment consent.validUntil.toNat)
  revertIf (consent.disclosureVersion ≠ core.policyVersion)
    (.disclosureVersionMismatch consent.disclosureVersion.toNat core.policyVersion.toNat)
  revertIf (b.consumedConsentNonce consent.scopeCommitment consent.nonce = true)
    (.consentNonceConsumed consent.scopeCommitment consent.nonce.toNat)
  let b := { b with
    consumedConsentNonce :=
      setNested b.consumedConsentNonce consent.scopeCommitment consent.nonce true }
  let digest := consentDigest crypto d tx core.session.sessionCommitment
    core.session.sessionNullifier resultCommitment sourceRecordCommitment anchor consent
  let recovered ← require .malformedSignature (crypto.recoverStrict digest consent.signature)
  revertIf (recovered ≠ controller) (.consentNotSignedByController controller recovered)
  pure b

def requireBilateralConsent (b : BinderState) (tx : Tx) (core : ResultCore)
    (resultCommitment : Bytes32) (anchor : Address) (session : ResolvedSession)
    (consentA consentB : DisclosureConsent) : Except MatchError BinderState := do
  let b ← requireConsent crypto d b tx core resultCommitment anchor session.scopeCommitmentA
    session.governanceRecordA core.session.sourceRecordCommitmentA session.controllerA consentA
  requireConsent crypto d b tx core resultCommitment anchor session.scopeCommitmentB
    session.governanceRecordB core.session.sourceRecordCommitmentB session.controllerB consentB

/-- Read one getter of the anchor or the factory. -/
def getter {α : Type} (value : Option α) : Except MatchError α := require .externalCallFailed value

/-- The anchor is the one the authorized factory admitted. -/
def assertProvenance (world : W) (anchor : Address) : Except MatchError Unit := do
  revertIf (env.isDeployed world anchor = false) (.anchorNotDeployed anchor)
  let attestationDigest ← getter (env.sourceAttestationDigest world anchor)
  revertIf (attestationDigest = 0) (.anchorNotDeployed anchor)
  let admitted ← getter (env.vaultForAttestation world attestationDigest)
  revertIf (admitted ≠ anchor) (.anchorNotFromAuthorizedFactory anchor admitted)

/-- Anchor and revealed source use the current schemes. -/
def assertSchemes (world : W) (anchor : Address) (revealed : RevealedSource) :
    Except MatchError Unit := do
  let scheme ← getter (env.identitySchemeVersion world anchor)
  revertIf (scheme.toNat ≠ identitySchemeVersion)
    (.anchorSchemeMismatch scheme.toNat identitySchemeVersion)
  let termsScheme ← getter (env.termsSchemeVersion world anchor)
  revertIf (termsScheme.toNat ≠ termsSchemeVersion)
    (.anchorTermsSchemeMismatch termsScheme.toNat termsSchemeVersion)
  revertIf (revealed.identitySchemeVersion ≠ scheme)
    (.anchorSchemeMismatch revealed.identitySchemeVersion.toNat scheme.toNat)
  revertIf (revealed.termsSchemeVersion ≠ termsScheme)
    (.anchorTermsSchemeMismatch revealed.termsSchemeVersion.toNat termsScheme.toNat)

/-- The receivable is outstanding, protected and held by somebody. -/
def assertLive (world : W) (anchor : Address) : Except MatchError Unit := do
  let receivable ← getter (env.receivableState world anchor)
  revertIf (receivable ≠ receivableOutstanding) (.anchorNotOutstanding receivable.toNat)
  let protection ← getter (env.protectionState world anchor)
  revertIf (protection ≠ protectionActive) (.anchorProtectionInactive protection.toNat)
  let supply ← getter (env.totalSupply world anchor)
  revertIf (supply = 0) .anchorHasNoUnits

/-- The anchor is the receivable the revealed source describes. -/
def assertIdentity (world : W) (anchor : Address) (revealed : RevealedSource) :
    Except MatchError Unit := do
  let commitment ← getter (env.assetCommitment world anchor)
  revertIf (commitment = 0) .invalidConfiguration
  revertIf (commitment ≠ revealed.assetCommitment)
    (.anchorCommitmentMismatch commitment revealed.assetCommitment)
  let issuerKeyId ← getter (env.issuerKeyId world anchor)
  revertIf (issuerKeyId ≠ revealed.issuerKeyId)
    (.anchorSourceMismatch issuerKeyId revealed.issuerKeyId)

def assertAnchorGenuine (world : W) (anchor : Address) (revealed : RevealedSource) :
    Except MatchError Unit := do
  assertProvenance env world anchor
  assertSchemes env world anchor revealed
  assertLive env world anchor
  assertIdentity env world anchor revealed

/-- The arguments of `bindRecourse`. -/
structure BindRequest where
  envelope : MatchEnvelope
  attestation : Bytes
  reveal : SessionReveal
  anchoredSource : SourceReveal
  counterpartySource : SourceReveal
  anchor : Address
  consentA : DisclosureConsent
  consentB : DisclosureConsent

/-- What `_open` learns from the registries. -/
structure OpenContext where
  session : ResolvedSession
  anchored : RevealedSource
  counterparty : RevealedSource

/-- The openings `_open` starts with: the session, then both source records. -/
def resolve (s : System W) (tx : Tx) (r : BindRequest) :
    Except MatchError (OpenContext × System W) := do
  let core := r.envelope.core
  let (session, governance) ← Governance.resolveSession crypto d.governance s.governance
    (calling d tx) r.reveal.intent r.reveal.salt r.reveal.signatures
  revertIf (session.sessionCommitment ≠ core.session.sessionCommitment)
    (.sessionCommitmentMismatch session.sessionCommitment core.session.sessionCommitment)
  let (anchored, sources) ← Sources.revealSource crypto d.sources s.sources s.issuers
    (calling d tx) r.anchoredSource.attestation r.anchoredSource.issuerSignature
    r.anchoredSource.salt
  let (counterparty, sources) ← Sources.revealSource crypto d.sources sources s.issuers
    (calling d tx) r.counterpartySource.attestation r.counterpartySource.issuerSignature
    r.counterpartySource.salt
  pure (⟨session, anchored, counterparty⟩,
    { s with governance := governance, sources := sources })

/-- The comparisons of `_open`. -/
def compare (b : BinderState) (core : ResultCore) (context : OpenContext) :
    Except MatchError Unit := do
  let anchored := context.anchored.sourceRecordCommitment
  let counterparty := context.counterparty.sourceRecordCommitment
  revertIf (anchored ≠ core.session.sourceRecordCommitmentA)
    (.sourceRecordMismatch anchored core.session.sourceRecordCommitmentA)
  revertIf (counterparty ≠ core.session.sourceRecordCommitmentB)
    (.sourceRecordMismatch counterparty core.session.sourceRecordCommitmentB)
  revertIf (anchored = counterparty) (.selfMatch anchored)
  revertIf (b.boundSources anchored = true) (.sourceAlreadyBound anchored)
  revertIf (b.boundSources counterparty = true) (.sourceAlreadyBound counterparty)
  let sessionBlock := context.session.committedInBlock
  revertIf (sessionBlock ≤ context.anchored.committedInBlock)
    (.sourceNotBeforeSession context.anchored.committedInBlock sessionBlock)
  revertIf (sessionBlock ≤ context.counterparty.committedInBlock)
    (.sourceNotBeforeSession context.counterparty.committedInBlock sessionBlock)

/-- `_open`. -/
def openRecourse (s : System W) (tx : Tx) (r : BindRequest) (resultCommitment decision : Bytes32) :
    Except MatchError (System W) := do
  let core := r.envelope.core
  let (context, s) ← resolve crypto d s tx r
  compare s.binder core context
  assertAnchorGenuine env s.world r.anchor context.anchored
  let b ← requireBilateralConsent crypto d s.binder tx core resultCommitment r.anchor
    context.session r.consentA r.consentB
  let anchored := context.anchored.sourceRecordCommitment
  let counterparty := context.counterparty.sourceRecordCommitment
  let cureDeadline ← checkedAdd 64 (toUint64 tx.timestamp) d.curePeriod.toNat
  let record : RecourseRecord :=
    { sessionCommitment := core.session.sessionCommitment
      sessionNullifier := core.session.sessionNullifier
      resultCommitment := resultCommitment
      anchorCommitment := context.anchored.assetCommitment
      counterpartyCommitment := context.counterparty.assetCommitment
      providerProofCommitment := core.evaluation.providerProofCommitment
      anchor := r.anchor
      policyId := d.policyId
      policyVersion := d.policyVersion
      boundAt := toUint64 tx.timestamp
      cureDeadline := cureDeadline
      isOpen := true }
  pure
    { s with
      binder :=
        { b with
          boundResults := update b.boundResults resultCommitment true
          boundDecisions := update b.boundDecisions decision true
          boundSources := update (update b.boundSources anchored true)
            counterparty true
          recourses := update b.recourses core.session.sessionCommitment record } }

def bindRecourse (s : System W) (tx : Tx) (r : BindRequest) :
    Except MatchError (Bytes32 × System W) := do
  let core := r.envelope.core
  revertIf (core.binder ≠ d.binder) (.envelopeNotForThisBinder core.binder)
  revertIf (core.policyId ≠ d.policyId ∨ core.policyVersion ≠ d.policyVersion)
    (.unexpectedPolicy core.policyId core.policyVersion.toNat)
  revertIf (core.sameEconomicAsset = false ∨ core.policyConflict = false)
    (.resultNotBindable core.outcome)
  revertIf (core.outcome ≠ .sameAssetPolicyConflict) (.resultNotBindable core.outcome)
  requireBindableOutcome core.outcome core.sameEconomicAsset core.policyConflict
  let (resultCommitment, verifier) ← Verifier.acceptMatch crypto d.verifier s.verifier
    s.governance (calling d tx) r.envelope r.attestation
  revertIf ((s.binder.recourses core.session.sessionCommitment).isOpen = true)
    (.sessionAlreadyBound core.session.sessionCommitment)
  revertIf (s.binder.boundResults resultCommitment = true) (.resultAlreadyBound resultCommitment)
  let decision := Verifier.decisionKey crypto core
  revertIf (s.binder.boundDecisions decision = true) (.decisionAlreadyBound decision)
  let s ← openRecourse crypto env d { s with verifier := verifier } tx r resultCommitment decision
  pure (resultCommitment, s)

end Binder

end Mordant.Match
